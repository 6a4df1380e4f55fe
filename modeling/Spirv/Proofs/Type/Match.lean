import Mathlib.Data.List.Forall2
import Spirv.Proofs.Module.Indexed
import Spirv.Type.Match

set_option autoImplicit false

/-!
# Matching types as an order

Within any number of levels, matching in structure is transitive, and it is reflexive on structs and
on arrays with an element type. Without decorations it is symmetric too. With them a type matches
the ones that it has all decorations of, and so it matches no more types than without them.
-/
namespace Spirv

theorem forall₂_trans {α : Type} {r : α → α → Prop} (hr : ∀ a b c, r a b → r b c → r a c)
    {as bs cs : List α} (h : List.Forall₂ r as bs) (h' : List.Forall₂ r bs cs) :
    List.Forall₂ r as cs := by
  induction h generalizing cs with
  | nil => exact h'
  | cons hab _ ih =>
    cases h' with
    | cons hbc hrest => exact .cons (hr _ _ _ hab hbc) (ih hrest)

/-- Two arrays of one length with related elements, or two structs with related members. -/
inductive Instruction.Parallel (r : Id → Id → Prop) (a b : Instruction) : Prop where
  | array {x y : Id} (hop : a.opcode = .typeArray) (hop' : b.opcode = .typeArray)
      (hlength : a.operand 2 = b.operand 2) (hx : a.operand 1 = some x) (hy : b.operand 1 = some y)
      (helement : r x y) : Parallel r a b
  | struct (hop : a.opcode = .typeStruct) (hop' : b.opcode = .typeStruct)
      (hsize : a.words.length = b.words.length)
      (hmembers : List.Forall₂ r (a.operandsFrom 1) (b.operandsFrom 1)) : Parallel r a b

def Instruction.HasParts (type : Instruction) : Prop :=
  type.opcode = .typeStruct ∨ type.opcode = .typeArray ∧ (type.operand 1).isSome = true

namespace Instruction.Parallel

variable {r s : Id → Id → Prop} {a b c : Instruction}

theorem imp (hrs : ∀ x y, r x y → s x y) (h : a.Parallel r b) : a.Parallel s b := by
  cases h with
  | array hop hop' hlength hx hy helement =>
    exact .array hop hop' hlength hx hy (hrs _ _ helement)
  | struct hop hop' hsize hmembers => exact .struct hop hop' hsize (hmembers.imp hrs)

theorem symm (hr : ∀ x y, r x y → r y x) (h : a.Parallel r b) : b.Parallel r a := by
  cases h with
  | array hop hop' hlength hx hy helement =>
    exact .array hop' hop hlength.symm hy hx (hr _ _ helement)
  | struct hop hop' hsize hmembers =>
    exact .struct hop' hop hsize.symm (hmembers.imp hr).flip

theorem trans (hr : ∀ x y z, r x y → r y z → r x z) (hab : a.Parallel r b) (hbc : b.Parallel r c) :
    a.Parallel r c := by
  cases hab with
  | array hop hop' hlength hx hy hxy =>
    cases hbc with
    | array _ hop'' hlength' hy' hz hyz =>
      obtain rfl := Option.some.inj (hy.symm.trans hy')
      exact .array hop hop'' (hlength.trans hlength') hx hz (hr _ _ _ hxy hyz)
    | struct hstruct => exact absurd (hop'.symm.trans hstruct) (by decide)
  | struct hop hop' hsize hmembers =>
    cases hbc with
    | array harray => exact absurd (hop'.symm.trans harray) (by decide)
    | struct _ hop'' hsize' hmembers' =>
      exact .struct hop hop'' (hsize.trans hsize') (forall₂_trans hr hmembers hmembers')

theorem self_iff (hr : ∀ x, r x x) : a.Parallel r a ↔ a.HasParts := by
  constructor
  · intro h
    cases h with
    | array hop _ _ hx => exact Or.inr ⟨hop, by rw [hx]; rfl⟩
    | struct hop => exact Or.inl hop
  · rintro (hop | ⟨hop, helement⟩)
    · exact .struct hop hop rfl (List.forall₂_same.mpr fun x _ => hr x)
    · obtain ⟨x, hx⟩ := Option.isSome_iff_exists.mp helement
      exact .array hop hop rfl hx hx (hr x)

end Instruction.Parallel

namespace Module

variable {m : Module}

/-! ### Decorations -/

theorem coversDecorations_some_iff {x y : Id} :
    m.coversDecorations (some x) (some y) = true ↔ m.decorationsOf y ⊆ m.decorationsOf x := by
  simp only [coversDecorations, List.all_eq_true, List.contains_iff_mem]
  exact Iff.rfl

theorem coversDecorations_self (x : Option Id) : m.coversDecorations x x = true := by
  cases x with
  | none => rfl
  | some x => exact coversDecorations_some_iff.mpr (List.Subset.refl _)

theorem coversDecorations_trans {x z : Option Id} {y : Id}
    (hxy : m.coversDecorations x (some y) = true) (hyz : m.coversDecorations (some y) z = true) :
    m.coversDecorations x z = true := by
  cases x with
  | none => rfl
  | some x =>
    cases z with
    | none => rfl
    | some z =>
      rw [coversDecorations_some_iff] at hxy hyz ⊢
      exact List.Subset.trans hyz hxy

/-! ### Parts of types -/

theorem partsMatch_iff {matching : Instruction → Instruction → Bool} {x y : Id} :
    m.partsMatch matching x y = true ↔
      x = y ∨ ∃ i j, m.definition? x = some i ∧ m.definition? y = some j ∧ matching i j = true := by
  rw [partsMatch, Bool.or_eq_true, beq_iff_eq]
  apply or_congr_right
  cases m.definition? x with
  | none => simp
  | some i => cases m.definition? y <;> simp

section Parts

variable {matching matching' : Instruction → Instruction → Bool}

theorem partsMatch_imp (himp : ∀ i j, matching i j = true → matching' i j = true) (x y : Id)
    (h : m.partsMatch matching x y = true) : m.partsMatch matching' x y = true := by
  rw [partsMatch_iff] at h ⊢
  rcases h with heq | ⟨i, j, hi, hj, hij⟩
  · exact Or.inl heq
  · exact Or.inr ⟨i, j, hi, hj, himp i j hij⟩

theorem partsMatch_symm (hsymm : ∀ i j, matching i j = true → matching j i = true) (x y : Id)
    (h : m.partsMatch matching x y = true) : m.partsMatch matching y x = true := by
  rw [partsMatch_iff] at h ⊢
  rcases h with heq | ⟨i, j, hi, hj, hij⟩
  · exact Or.inl heq.symm
  · exact Or.inr ⟨j, i, hj, hi, hsymm i j hij⟩

/-- Equal on one side and matching on the other is matching on the whole, in as many levels. -/
theorem partsMatch_trans
    (htrans : ∀ i j k, j.resultId.isSome = true → matching i j = true → matching j k = true →
      matching i k = true) (x y z : Id)
    (hxy : m.partsMatch matching x y = true) (hyz : m.partsMatch matching y z = true) :
    m.partsMatch matching x z = true := by
  rw [partsMatch_iff] at hxy hyz
  rcases hxy with rfl | ⟨i, j, hi, hj, hij⟩
  · exact partsMatch_iff.mpr hyz
  rcases hyz with rfl | ⟨j', k, hj', hk, hjk⟩
  · exact partsMatch_iff.mpr (Or.inr ⟨i, j, hi, hj, hij⟩)
  obtain rfl := Option.some.inj (hj.symm.trans hj')
  have hdefined : j.resultId.isSome = true := by rw [(mem_of_definition? hj).2]; rfl
  exact partsMatch_iff.mpr (Or.inr ⟨i, k, hi, hk, htrans i j k hdefined hij hjk⟩)

end Parts

/-! ### Types -/

theorem matchesWithin_succ_iff {decorated : Bool} {n : Nat} {a b : Instruction} :
    m.matchesWithin decorated (n + 1) a b = true ↔
      (decorated = true → m.coversDecorations a.resultId b.resultId = true) ∧
        a.Parallel (fun x y => m.partsMatch (m.matchesWithin decorated n) x y = true) b := by
  rw [matchesWithin]
  simp only [Bool.and_eq_true, beq_iff_eq, Bool.or_eq_true, Bool.not_eq_true']
  constructor
  · rintro ⟨⟨hop, hcovers⟩, hparts⟩
    refine ⟨fun hd => hcovers.resolve_left (by simp [hd]), ?_⟩
    split at hparts
    case h_1 harray =>
      rw [Bool.and_eq_true, beq_iff_eq] at hparts
      obtain ⟨hlength, helement⟩ := hparts
      split at helement
      · rename_i x y hx hy
        exact .array harray (hop ▸ harray) hlength hx hy helement
      · contradiction
    case h_2 hstruct =>
      rw [Bool.and_eq_true, beq_iff_eq, List.all_eq_true] at hparts
      obtain ⟨hsize, hmembers⟩ := hparts
      refine .struct hstruct (hop ▸ hstruct) hsize (List.forall₂_iff_zip.mpr ⟨?_, ?_⟩)
      · simp only [Instruction.operandsFrom, List.length_drop, hsize]
      · intro x y hxy
        exact hmembers (x, y) hxy
    case h_3 => contradiction
  · rintro ⟨hcovers, hparts⟩
    have hdecorated : decorated = false ∨ m.coversDecorations a.resultId b.resultId = true := by
      cases decorated with
      | false => exact Or.inl rfl
      | true => exact Or.inr (hcovers rfl)
    cases hparts with
    | array hop hop' hlength hx hy helement =>
      refine ⟨⟨hop.trans hop'.symm, hdecorated⟩, ?_⟩
      simp only [hop, hx, hy, hlength, beq_self_eq_true, Bool.true_and]
      exact helement
    | struct hop hop' hsize hmembers =>
      refine ⟨⟨hop.trans hop'.symm, hdecorated⟩, ?_⟩
      simp only [hop, hsize, beq_self_eq_true, Bool.true_and, List.all_eq_true]
      exact fun p hp => List.forall₂_zip hmembers hp

theorem matchesWithin_self_iff {decorated : Bool} {n : Nat} {a : Instruction} :
    m.matchesWithin decorated (n + 1) a a = true ↔ a.HasParts := by
  rw [matchesWithin_succ_iff, Instruction.Parallel.self_iff]
  · exact and_iff_right fun _ => coversDecorations_self _
  · exact fun x => partsMatch_iff.mpr (Or.inl rfl)

theorem matchesWithin_trans {decorated : Bool} (n : Nat) (a b c : Instruction)
    (hb : b.resultId.isSome = true) (hab : m.matchesWithin decorated n a b = true)
    (hbc : m.matchesWithin decorated n b c = true) : m.matchesWithin decorated n a c = true := by
  induction n generalizing a b c with
  | zero => contradiction
  | succ n ih =>
    rw [matchesWithin_succ_iff] at hab hbc ⊢
    obtain ⟨id, hid⟩ := Option.isSome_iff_exists.mp hb
    rw [hid] at hab hbc
    constructor
    · intro hd
      exact coversDecorations_trans (hab.1 hd) (hbc.1 hd)
    · exact hab.2.trans (partsMatch_trans ih) hbc.2

theorem matchesWithin_symm (n : Nat) (a b : Instruction)
    (h : m.matchesWithin false n a b = true) : m.matchesWithin false n b a = true := by
  induction n generalizing a b with
  | zero => contradiction
  | succ n ih =>
    rw [matchesWithin_succ_iff] at h ⊢
    exact ⟨fun hd => absurd hd Bool.false_ne_true, h.2.symm (partsMatch_symm ih)⟩

theorem matchesWithin_undecorated (n : Nat) (a b : Instruction)
    (h : m.matchesWithin true n a b = true) : m.matchesWithin false n a b = true := by
  induction n generalizing a b with
  | zero => contradiction
  | succ n ih =>
    rw [matchesWithin_succ_iff] at h ⊢
    exact ⟨fun hd => absurd hd Bool.false_ne_true, h.2.imp (partsMatch_imp ih)⟩

/-! ### Pointers -/

theorem pointeesMatch_iff {depth : Nat} {p q : Instruction} :
    m.pointeesMatch depth p q = true ↔
      p.opcode = .typePointer ∧ q.opcode = .typePointer ∧
        m.coversDecorations p.resultId q.resultId = true ∧
        ∃ x y, p.operand 2 = some x ∧ q.operand 2 = some y ∧
          m.partsMatch (m.matchesWithin true depth) x y = true := by
  simp only [pointeesMatch, Bool.and_eq_true, beq_iff_eq, and_assoc]
  refine and_congr_right fun _ => and_congr_right fun _ => and_congr_right fun _ => ?_
  cases p.operand 2 with
  | none => simp
  | some x => cases q.operand 2 <;> simp

theorem pointeesMatch_self_iff {depth : Nat} {p : Instruction} :
    m.pointeesMatch depth p p = true ↔
      p.opcode = .typePointer ∧ (p.operand 2).isSome = true := by
  rw [pointeesMatch_iff, Option.isSome_iff_exists]
  constructor
  · rintro ⟨hop, -, -, x, -, hx, -⟩
    exact ⟨hop, x, hx⟩
  · rintro ⟨hop, x, hx⟩
    exact ⟨hop, hop, coversDecorations_self _, x, x, hx, hx, partsMatch_iff.mpr (Or.inl rfl)⟩

theorem pointeesMatch_trans {depth : Nat} {p q r : Instruction} (hq : q.resultId.isSome = true)
    (hpq : m.pointeesMatch depth p q = true) (hqr : m.pointeesMatch depth q r = true) :
    m.pointeesMatch depth p r = true := by
  rw [pointeesMatch_iff] at hpq hqr ⊢
  obtain ⟨hop, -, hcovers, x, y, hx, hy, hxy⟩ := hpq
  obtain ⟨-, hop', hcovers', y', z, hy', hz, hyz⟩ := hqr
  obtain ⟨id, hid⟩ := Option.isSome_iff_exists.mp hq
  rw [hid] at hcovers hcovers'
  obtain rfl := Option.some.inj (hy.symm.trans hy')
  exact ⟨hop, hop', coversDecorations_trans hcovers hcovers', x, z, hx, hz,
    partsMatch_trans (matchesWithin_trans depth) x y z hxy hyz⟩

/-! ### The order -/

/-- Within any depth matching is transitive, structs and arrays with an element type match
themselves, without decorations it is symmetric, and decorations only restrict it. Pointers that
have a pointee are ordered in the same way. -/
theorem typesMatch_preorder (m : Module) (depth : Nat) :
    (∀ (decorated : Bool) (a : Instruction),
        m.typesMatch depth decorated a a = true ↔ a.HasParts) ∧
      (∀ (decorated : Bool) (a b c : Instruction), (∃ id, m.definition? id = some b) →
        m.typesMatch depth decorated a b = true → m.typesMatch depth decorated b c = true →
          m.typesMatch depth decorated a c = true) ∧
      (∀ a b : Instruction, m.typesMatch depth false a b = true →
        m.typesMatch depth false b a = true) ∧
      (∀ a b : Instruction, m.typesMatch depth true a b = true →
        m.typesMatch depth false a b = true) ∧
      (∀ p : Instruction, m.pointeesMatch depth p p = true ↔
        p.opcode = .typePointer ∧ (p.operand 2).isSome = true) ∧
      (∀ p q r : Instruction, (∃ id, m.definition? id = some q) →
        m.pointeesMatch depth p q = true → m.pointeesMatch depth q r = true →
          m.pointeesMatch depth p r = true) := by
  have hdefined (b : Instruction) (hb : ∃ id, m.definition? id = some b) :
      b.resultId.isSome = true := by
    obtain ⟨id, hid⟩ := hb
    rw [(mem_of_definition? hid).2]
    rfl
  refine ⟨fun _ _ => matchesWithin_self_iff, ?_, matchesWithin_symm (depth + 1),
    matchesWithin_undecorated (depth + 1), fun _ => pointeesMatch_self_iff, ?_⟩
  · intro _ a b c hb hab hbc
    exact matchesWithin_trans (depth + 1) a b c (hdefined b hb) hab hbc
  · intro p q r hq hpq hqr
    exact pointeesMatch_trans (hdefined q hq) hpq hqr

/-- Three structs `5`, `6` and `7` of structs, with fewer decorations from one to the next, and
pointers to them. The first two have their first member in common. -/
def layered : List Instruction :=
  [.ofOpcode .decorate [2, 2], .ofOpcode .decorate [2, 3], .ofOpcode .decorate [3, 2],
    .ofOpcode .typeInt [1, 32, 0], .ofOpcode .typeStruct [2, 1], .ofOpcode .typeStruct [3, 1],
    .ofOpcode .typeStruct [4, 1], .ofOpcode .typeStruct [5, 2, 2], .ofOpcode .typeStruct [6, 2, 3],
    .ofOpcode .typeStruct [7, 3, 4], .ofOpcode .typePointer [8, 12, 5],
    .ofOpcode .typePointer [9, 12, 6], .ofOpcode .typePointer [10, 12, 7]]

theorem layered_typesMatch :
    ∃ m a b c p q r, build .v1_6 .logical layered = .ok m ∧ m.definition? 5 = some a ∧
      m.definition? 6 = some b ∧ m.definition? 7 = some c ∧ m.definition? 8 = some p ∧
      m.definition? 9 = some q ∧ m.definition? 10 = some r ∧
      -- one level less is not enough to compare the members
      m.typesMatch 0 false a b = false ∧
      m.typesMatch 1 true a b = true ∧ m.typesMatch 1 true b c = true ∧
      m.typesMatch 1 true a c = true ∧
      m.typesMatch 1 true c a = false ∧ m.typesMatch 1 false c a = true ∧
      m.pointeesMatch 2 p q = true ∧ m.pointeesMatch 2 q r = true ∧
      m.pointeesMatch 2 p r = true := by
  let m := assemble .v1_6 .logical (place layered)
  let type (id : Id) : Instruction := (m.definition? id).getD (.ofOpcode .nop [])
  have hb : m.definition? 6 = some (type 6) := rfl
  have hq : m.definition? 9 = some (type 9) := rfl
  obtain ⟨-, htrans, hsymm, hundecorated, -, -⟩ := typesMatch_preorder m 1
  obtain ⟨-, -, -, -, -, htrans'⟩ := typesMatch_preorder m 2
  have hab : m.typesMatch 1 true (type 5) (type 6) = true := rfl
  have hbc : m.typesMatch 1 true (type 6) (type 7) = true := rfl
  have hac := htrans true _ _ _ ⟨6, hb⟩ hab hbc
  have hpq : m.pointeesMatch 2 (type 8) (type 9) = true := rfl
  have hqr : m.pointeesMatch 2 (type 9) (type 10) = true := rfl
  exact ⟨m, type 5, type 6, type 7, type 8, type 9, type 10, rfl, rfl, hb, rfl, rfl, hq, rfl, rfl,
    hab, hbc, hac, rfl, hsymm _ _ (hundecorated _ _ hac), hpq, hqr,
    htrans' _ _ _ ⟨9, hq⟩ hpq hqr⟩

end Module
end Spirv
