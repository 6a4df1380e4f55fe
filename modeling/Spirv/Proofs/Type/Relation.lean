import Mathlib.Data.List.ProdSigma
import Spirv.Proofs.Type.Levels
import Spirv.Proofs.Type.Match

set_option autoImplicit false

/-!
# Matching types as a relation

Which types match is given by a rule, and two types match when every relation that is closed under
the rule relates them. A walk to some depth finds only types that match, and it finds all of them
when the depth is at least the number of pairs of definitions, on cyclic types as well.
-/
namespace Spirv.Module

/-- The rule by which two defined types match, given the parts that match: with `decorated` the
first one has all decorations of the second one, and they are arrays of one length whose elements
are equal or match, or structs of one size whose members are equal or match. -/
def MatchRule (m : Module) (decorated : Bool) (r : Id → Id → Prop) (a b : Id) : Prop :=
  ∃ i j, m.definition? a = some i ∧ m.definition? b = some j ∧
    (decorated = true → m.decorationsOf b ⊆ m.decorationsOf a) ∧
    i.Parallel (fun x y => x = y ∨ r x y) j

def Matches (m : Module) (decorated : Bool) (a b : Id) : Prop :=
  ∀ r : Id → Id → Prop, (∀ x y, m.MatchRule decorated r x y → r x y) → r a b

variable {m : Module} {decorated : Bool} {a b : Id} {i j : Instruction}

theorem MatchRule.imp {r s : Id → Id → Prop} (hrs : ∀ x y, r x y → s x y)
    (h : m.MatchRule decorated r a b) : m.MatchRule decorated s a b := by
  obtain ⟨i, j, hi, hj, hcovers, hparts⟩ := h
  exact ⟨i, j, hi, hj, hcovers, hparts.imp fun x y hxy => hxy.imp_right (hrs x y)⟩

theorem Matches.of_rule (h : m.MatchRule decorated (m.Matches decorated) a b) :
    m.Matches decorated a b :=
  fun r hr => hr a b (h.imp fun _ _ hxy => hxy r hr)

/-! ### Levels -/

def MatchedWithin (m : Module) (decorated : Bool) (n : Nat) (a b : Id) : Prop :=
  ∃ i j, m.definition? a = some i ∧ m.definition? b = some j ∧
    m.matchesWithin decorated n i j = true

theorem partsMatch_iff_matchedWithin {n : Nat} :
    m.partsMatch (m.matchesWithin decorated n) a b = true ↔
      a = b ∨ m.MatchedWithin decorated n a b :=
  partsMatch_iff

/-- Each level applies the rule once. -/
theorem matchesWithin_succ_iff_rule {n : Nat} (hi : m.definition? a = some i)
    (hj : m.definition? b = some j) :
    m.matchesWithin decorated (n + 1) i j = true ↔
      m.MatchRule decorated (m.MatchedWithin decorated n) a b := by
  rw [matchesWithin_succ_iff, (mem_of_definition? hi).2, (mem_of_definition? hj).2,
    coversDecorations_some_iff]
  simp only [partsMatch_iff_matchedWithin]
  constructor
  · rintro ⟨hcovers, hparts⟩
    exact ⟨i, j, hi, hj, hcovers, hparts⟩
  · rintro ⟨i', j', hi', hj', hcovers, hparts⟩
    obtain rfl := Option.some.inj (hi.symm.trans hi')
    obtain rfl := Option.some.inj (hj.symm.trans hj')
    exact ⟨hcovers, hparts⟩

theorem matchesWithin_succ_of_imp {n k : Nat}
    (h : ∀ x y, m.MatchedWithin decorated n x y → m.MatchedWithin decorated k x y)
    (hij : m.matchesWithin decorated (n + 1) i j = true) :
    m.matchesWithin decorated (k + 1) i j = true := by
  rw [matchesWithin_succ_iff] at hij ⊢
  refine ⟨hij.1, hij.2.imp fun x y hxy => ?_⟩
  rw [partsMatch_iff_matchedWithin] at hxy ⊢
  exact hxy.imp_right (h x y)

theorem matchesWithin_succ (n : Nat) (i j : Instruction)
    (h : m.matchesWithin decorated n i j = true) :
    m.matchesWithin decorated (n + 1) i j = true := by
  induction n generalizing i j with
  | zero => contradiction
  | succ n ih =>
    refine matchesWithin_succ_of_imp (fun x y => ?_) h
    rintro ⟨i', j', hi', hj', hmatch⟩
    exact ⟨i', j', hi', hj', ih i' j' hmatch⟩

/-- A walk over two types at a time needs no more levels than there are pairs of definitions. -/
theorem saturates_matchesWithin (m : Module) (decorated : Bool) :
    Saturates (m.definitions ×ˢ m.definitions) fun n p => m.matchesWithin decorated n p.1 p.2 where
  succ n p := matchesWithin_succ n p.1 p.2
  stable n h p _ hp := by
    refine matchesWithin_succ_of_imp (fun x y => ?_) hp
    rintro ⟨i, j, hi, hj, hmatch⟩
    have hpair : (i, j) ∈ m.definitions ×ˢ m.definitions :=
      List.mem_product.mpr ⟨mem_definitions hi, mem_definitions hj⟩
    exact ⟨i, j, hi, hj, h (i, j) hpair hmatch⟩

theorem matchesWithin_mono {n k : Nat} (hnk : n ≤ k) (h : m.matchesWithin decorated n i j = true) :
    m.matchesWithin decorated k i j = true :=
  (m.saturates_matchesWithin decorated).mono (a := (i, j)) hnk h

theorem matchesWithin_pairs {n : Nat} (hi : m.definition? a = some i) (hj : m.definition? b = some j)
    (h : m.matchesWithin decorated n i j = true) :
    m.matchesWithin decorated (m.definitionCount * m.definitionCount) i j = true := by
  have hpair : (i, j) ∈ m.definitions ×ˢ m.definitions :=
    List.mem_product.mpr ⟨mem_definitions hi, mem_definitions hj⟩
  have hwithin := (m.saturates_matchesWithin decorated).within_length hpair h
  rwa [List.length_product, length_definitions] at hwithin

/-! ### The relation -/

theorem matches_of_matchedWithin {n : Nat} (h : m.MatchedWithin decorated n a b) :
    m.Matches decorated a b := by
  induction n generalizing a b with
  | zero =>
    obtain ⟨i, j, -, -, hmatch⟩ := h
    contradiction
  | succ n ih =>
    obtain ⟨i, j, hi, hj, hmatch⟩ := h
    exact .of_rule (((matchesWithin_succ_iff_rule hi hj).mp hmatch).imp fun _ _ => ih)

theorem Matches.matchedWithin (h : m.Matches decorated a b) :
    m.MatchedWithin decorated (m.definitionCount * m.definitionCount) a b := by
  refine h _ fun x y hrule => ?_
  -- the rule takes one level more, and that level is not lost
  have hrule' := hrule
  obtain ⟨i, j, hi, hj, -⟩ := hrule
  exact ⟨i, j, hi, hj, matchesWithin_pairs hi hj ((matchesWithin_succ_iff_rule hi hj).mpr hrule')⟩

/-- What is found to match at some depth does match, what matches is found at any depth that is at
least the number of pairs of definitions, and what is found at a depth is found at larger ones. -/
theorem typesMatch_iff_matches (hi : m.definition? a = some i) (hj : m.definition? b = some j)
    (decorated : Bool) :
    (∀ depth, m.typesMatch depth decorated i j = true → m.Matches decorated a b) ∧
      (m.Matches decorated a b → ∀ depth, m.definitionCount * m.definitionCount ≤ depth →
        m.typesMatch depth decorated i j = true) ∧
      ∀ depth depth', depth ≤ depth' → m.typesMatch depth decorated i j = true →
        m.typesMatch depth' decorated i j = true := by
  refine ⟨fun depth h => ?_, fun h depth hdepth => ?_, fun depth depth' hle => ?_⟩
  · exact matches_of_matchedWithin ⟨i, j, hi, hj, h⟩
  · obtain ⟨i', j', hi', hj', hmatch⟩ := h.matchedWithin
    obtain rfl := Option.some.inj (hi.symm.trans hi')
    obtain rfl := Option.some.inj (hj.symm.trans hj')
    exact matchesWithin_mono (by omega) hmatch
  · exact matchesWithin_mono (by omega)

/-- Structs `1` and `2` that contain themselves, and structs `3` and `4` that have an undefined
member in common and structs `5` and `6` of one member as the other one. -/
def recursiveStructs : List Instruction :=
  [.ofOpcode .typeStruct [1, 1], .ofOpcode .typeStruct [2, 2],
    .ofOpcode .typeStruct [3, 99, 5], .ofOpcode .typeStruct [4, 99, 6],
    .ofOpcode .typeStruct [5, 1], .ofOpcode .typeStruct [6, 1]]

theorem recursiveStructs_matches :
    ∃ m a b c d, build .v1_6 .logical recursiveStructs = .ok m ∧ m.definitionCount = 6 ∧
      m.definition? 1 = some a ∧ m.definition? 2 = some b ∧ m.definition? 3 = some c ∧
      m.definition? 4 = some d ∧ ¬ m.Matches false 1 2 ∧ m.typesMatch 0 true c d = false ∧
      m.typesMatch 1 true c d = true ∧ m.Matches true 3 4 ∧ m.typesMatch 36 true c d = true := by
  let m := assemble .v1_6 .logical (place recursiveStructs)
  let type (id : Id) : Instruction := (m.definition? id).getD (.ofOpcode .nop [])
  have hcount : m.definitionCount = 6 := rfl
  have ha : m.definition? 1 = some (type 1) := rfl
  have hb : m.definition? 2 = some (type 2) := rfl
  have hc : m.definition? 3 = some (type 3) := rfl
  have hd : m.definition? 4 = some (type 4) := rfl
  have hmatch : m.typesMatch 1 true (type 3) (type 4) = true := rfl
  obtain ⟨-, hself, -⟩ := typesMatch_iff_matches ha hb false
  obtain ⟨hfound, -, hlarger⟩ := typesMatch_iff_matches hc hd true
  refine ⟨m, _, _, _, _, rfl, hcount, ha, hb, hc, hd, fun h => ?_, rfl, hmatch, hfound 1 hmatch,
    hlarger 1 36 (by omega) hmatch⟩
  have hdeep : m.typesMatch 36 false (type 1) (type 2) = false := by decide
  rw [hself h 36 (by rw [hcount])] at hdeep
  contradiction

end Spirv.Module
