import Spirv.Proofs.Module.Indexed
import Spirv.Proofs.Type.Search

set_option autoImplicit false

/-!
# Searches within a depth

A search of some depth is to find the types that are at most so many steps away. It finds no others,
but an id that it has met on a long way, where no level was left, is not entered from a shorter one.
So it is exact as long as it gives up only at types that are too far away on every way.
-/
namespace Spirv

/-- Types of the same components, in any order, that are both wanted or both not. -/
structure Instruction.SearchedAlike (everywhere : Bool) (wanted : Instruction → Bool)
    (i j : Instruction) : Prop where
  resultId : i.resultId = j.resultId
  searched : ∀ b, b ∈ i.searched everywhere ↔ b ∈ j.searched everywhere
  wanted : wanted i = wanted j

namespace Module

def FindsWithin (m : Module) (everywhere : Bool) (wanted : Instruction → Bool) (n : Nat)
    (id : Id) : Prop :=
  ∃ k u type, k ≤ n ∧ m.Leads everywhere id k u ∧ m.definition? u = some type ∧
    wanted type = true

/-- A search gives up only where no way within its depth leads. -/
def GivesUpRightly (m : Module) (everywhere : Bool) (depth : Nat) (id : Id) : Prop :=
  ∀ u, m.GivesUpAt everywhere depth id u → ∀ k ≤ depth, ¬ m.Leads everywhere id k u

def SearchedAlike (m m' : Module) (everywhere : Bool) (wanted : Instruction → Bool) : Prop :=
  ∀ a, Option.Rel (Instruction.SearchedAlike everywhere wanted) (m.definition? a)
    (m'.definition? a)

variable {m m' : Module} {everywhere : Bool} {wanted : Instruction → Bool} {depth : Nat} {id : Id}

/-! ### What is within a number of steps -/

theorem FindsWithin.mono {n n' : Nat} (h : m.FindsWithin everywhere wanted n id) (hle : n ≤ n') :
    m.FindsWithin everywhere wanted n' id := by
  obtain ⟨k, u, type, hk, hu⟩ := h
  exact ⟨k, u, type, Nat.le_trans hk hle, hu⟩

/-- A distance that no step increases by more than one is at most the number of steps. -/
theorem Leads.distance_le (distance : Id → Nat)
    (hstep : ∀ a b, m.Searches everywhere a b → distance b ≤ distance a + 1) {n : Nat} {a b : Id}
    (h : m.Leads everywhere a n b) : distance b ≤ distance a + n := by
  induction h with
  | refl => exact Nat.le_refl _
  | tail _ hbc ih =>
    have hle := hstep _ _ hbc
    omega

theorem searchedAlike_of_forall₂
    (h : List.Forall₂ (Instruction.SearchedAlike everywhere wanted) m.instructions
      m'.instructions) : m.SearchedAlike m' everywhere wanted := by
  intro a
  rw [definition?, definition?]
  generalize m.instructions = is, m'.instructions = js at h
  induction h with
  | nil => exact .none
  | cons hij _ ih =>
    rw [List.find?_cons, List.find?_cons, hij.resultId]
    split
    · exact .some hij
    · exact ih

theorem SearchedAlike.exists_alike (h : m.SearchedAlike m' everywhere wanted) {a : Id}
    {type : Instruction} (hdef : m.definition? a = some type) :
    ∃ type', m'.definition? a = some type' ∧ type.SearchedAlike everywhere wanted type' := by
  have hrel := h a
  rw [hdef] at hrel
  generalize m'.definition? a = found at hrel
  cases hrel with
  | some halike => exact ⟨_, rfl, halike⟩

theorem SearchedAlike.symm (h : m.SearchedAlike m' everywhere wanted) :
    m'.SearchedAlike m everywhere wanted := by
  intro a
  have hrel := h a
  generalize m.definition? a = found, m'.definition? a = found' at hrel
  cases hrel with
  | none => exact .none
  | some halike =>
    exact .some ⟨halike.resultId.symm, fun b => (halike.searched b).symm, halike.wanted.symm⟩

theorem SearchedAlike.leads (h : m.SearchedAlike m' everywhere wanted) {n : Nat} {a b : Id}
    (hab : m.Leads everywhere a n b) : m'.Leads everywhere a n b := by
  induction hab with
  | refl => exact .refl
  | tail _ hstep ih =>
    obtain ⟨type, hdef, hmem⟩ := hstep
    obtain ⟨type', hdef', halike⟩ := h.exists_alike hdef
    exact ih.tail ⟨type', hdef', (halike.searched _).mp hmem⟩

theorem SearchedAlike.findsWithin (h : m.SearchedAlike m' everywhere wanted) {n : Nat}
    (hfinds : m.FindsWithin everywhere wanted n id) : m'.FindsWithin everywhere wanted n id := by
  obtain ⟨k, u, type, hk, hu, hdef, hwanted⟩ := hfinds
  obtain ⟨type', hdef', halike⟩ := h.exists_alike hdef
  exact ⟨k, u, type', hk, h.leads hu, hdef', halike.wanted.symm.trans hwanted⟩

/-! ### Where a search gives up -/

theorem findsWithin_of_containsType (h : m.containsType depth everywhere wanted id = true) :
    m.FindsWithin everywhere wanted depth id := by
  obtain ⟨u, type, hu, hdef, hwanted⟩ := containsType_iff_enters.mp h
  obtain ⟨k, hk, hleads⟩ := hu.leads
  exact ⟨k, u, type, hk, hleads, hdef, hwanted⟩

/-- A search that gives up nowhere within its depth finds all that is within it. -/
theorem GivesUpRightly.containsType_iff (h : m.GivesUpRightly everywhere depth id) :
    m.containsType depth everywhere wanted id = true ↔
      m.FindsWithin everywhere wanted depth id := by
  refine ⟨findsWithin_of_containsType, ?_⟩
  rintro ⟨k, u, type, hk, hu, hdef, hwanted⟩
  have hmem := mem_course_of_leads hu fun j hj a ha hgives => h a hgives j (by omega) ha
  have henters := enters_of_mem_course hmem hdef fun hgives => h u hgives k hk hu
  exact containsType_iff_enters.mpr ⟨u, type, henters, hdef, hwanted⟩

/-- Searching for the very type that a search gives up at shows whether it is within the depth. -/
theorem givesUpRightly_of_exact
    (h : ∀ wanted, m.containsType depth everywhere wanted id = true ↔
      m.FindsWithin everywhere wanted depth id) : m.GivesUpRightly everywhere depth id := by
  intro u hgives k hk hu
  obtain ⟨type, hdef⟩ := hgives.2
  have hfinds : m.FindsWithin everywhere (·.resultId == some u) depth id :=
    ⟨k, u, type, hk, hu, hdef, beq_iff_eq.mpr (mem_of_definition? hdef).2⟩
  obtain ⟨u', type', henters, hdef', hwanted⟩ := containsType_iff_enters.mp ((h _).mpr hfinds)
  have hid := (mem_of_definition? hdef').2.symm.trans (beq_iff_eq.mp hwanted)
  obtain rfl := Option.some.inj hid
  exact hgives.not_enters henters

theorem givesUpRightly_of_definitionCount (h : m.definitionCount ≤ depth) :
    m.GivesUpRightly everywhere depth id := by
  have henough : m.SearchedWithin everywhere (depth + 1) [] id := by
    apply searchedWithin_of_unvisitedCount
    rw [unvisitedCount_nil]
    omega
  exact fun u hgives => absurd hgives (not_givesUpAt henough)

/-- A distance shows that a search gives up rightly. -/
theorem givesUpRightly_of_distance (distance : Id → Nat)
    (hstep : ∀ i ∈ m.instructions, (i.searched everywhere).all
      (fun b => distance b ≤ i.resultId.elim 0 distance + 1) = true)
    (hfar : ∀ v ∈ m.course everywhere (depth + 1) [] id, v.2 = 0 →
      distance id + depth < distance v.1) : m.GivesUpRightly everywhere depth id := by
  intro u hgives k hk hu
  have hle := hu.distance_le distance fun a b hab => by
    obtain ⟨type, hdef, hb⟩ := hab
    obtain ⟨hmem, hid⟩ := mem_of_definition? hdef
    have hone := of_decide_eq_true (List.all_eq_true.mp (hstep type hmem) b hb)
    rwa [hid, Option.elim_some] at hone
  have hlt : distance id + depth < distance u := hfar _ hgives.1 rfl
  omega

/-- A search finds only types within its depth. It finds all of them, whatever is wanted, exactly
when it gives up only at types that are farther away, as it does with a level for each definition.
Then it also finds what a search of less depth finds, and no order of the components matters. -/
theorem containsType_exact_iff (m : Module) (everywhere : Bool) (depth : Nat) (id : Id) :
    (∀ wanted, m.containsType depth everywhere wanted id = true →
      m.FindsWithin everywhere wanted depth id) ∧
    ((∀ wanted, m.containsType depth everywhere wanted id = true ↔
        m.FindsWithin everywhere wanted depth id) ↔ m.GivesUpRightly everywhere depth id) ∧
    (m.definitionCount ≤ depth → m.GivesUpRightly everywhere depth id) ∧
    (m.GivesUpRightly everywhere depth id →
      (∀ wanted, ∀ depth' ≤ depth, m.containsType depth' everywhere wanted id = true →
        m.containsType depth everywhere wanted id = true) ∧
      ∀ m' wanted, m.SearchedAlike m' everywhere wanted → m'.GivesUpRightly everywhere depth id →
        m.containsType depth everywhere wanted id =
          m'.containsType depth everywhere wanted id) := by
  refine ⟨fun _ => findsWithin_of_containsType,
    ⟨givesUpRightly_of_exact, fun h _ => h.containsType_iff⟩, givesUpRightly_of_definitionCount,
    fun h => ⟨fun wanted depth' hle hfound => ?_, fun m' wanted halike h' => ?_⟩⟩
  · exact h.containsType_iff.mpr ((findsWithin_of_containsType hfound).mono hle)
  · rw [Bool.eq_iff_iff, h.containsType_iff, h'.containsType_iff]
    exact ⟨halike.findsWithin, halike.symm.findsWithin⟩

def sharedChain (members : List Word) : List Instruction :=
  [.ofOpcode .typeStruct (1 :: members), .ofOpcode .typeStruct [2, 3],
    .ofOpcode .typeStruct [3, 4], .ofOpcode .typeStruct [4, 5], .ofOpcode .typeStruct [5, 6],
    .ofOpcode .typeFloat [6, 16]]

/-- The half is two steps away. A search two types deep also meets `4`, which is three steps away,
and gives it up. -/
theorem sharedChain_exact :
    ∃ m m', build .v1_6 .logical (sharedChain [2, 5]) = .ok m ∧
      build .v1_6 .logical (sharedChain [5, 2]) = .ok m' ∧ m.GivesUpAt false 2 1 4 ∧
      m.FindsWithin false (·.opcode == .typeFloat) 2 1 ∧
      m.containsType 2 false (·.opcode == .typeFloat) 1 = true ∧
      m'.containsType 2 false (·.opcode == .typeFloat) 1 = true ∧ m.definitionCount = 6 ∧
      m.containsType 6 false (·.opcode == .typeFloat) 1 = true := by
  let m := assemble .v1_6 .logical (place (sharedChain [2, 5]))
  let m' := assemble .v1_6 .logical (place (sharedChain [5, 2]))
  let distance (id : Id) : Nat := ([(2, 1), (5, 1), (3, 2), (6, 2), (4, 3)].lookup id).getD 0
  have hcount : m.definitionCount = 6 := rfl
  have hrightly : m.GivesUpRightly false 2 1 :=
    givesUpRightly_of_distance distance (by decide) (by decide)
  have hrightly' : m'.GivesUpRightly false 2 1 :=
    givesUpRightly_of_distance distance (by decide) (by decide)
  have halike : m.SearchedAlike m' false (·.opcode == .typeFloat) :=
    searchedAlike_of_forall₂ (.cons ⟨rfl, fun _ => (List.Perm.swap 5 2 []).mem_iff, rfl⟩
      (.cons ⟨rfl, fun _ => Iff.rfl, rfl⟩ (.cons ⟨rfl, fun _ => Iff.rfl, rfl⟩
        (.cons ⟨rfl, fun _ => Iff.rfl, rfl⟩ (.cons ⟨rfl, fun _ => Iff.rfl, rfl⟩
          (.cons ⟨rfl, fun _ => Iff.rfl, rfl⟩ .nil))))))
  have hfound : m.containsType 2 false (·.opcode == .typeFloat) 1 = true := rfl
  obtain ⟨hsound, -, -, hexact⟩ := containsType_exact_iff m false 2 1
  obtain ⟨-, -, henough, hlarger⟩ := containsType_exact_iff m false 6 1
  refine ⟨m, m', rfl, rfl, ⟨by decide, _, rfl⟩, hsound _ hfound, hfound, ?_, hcount, ?_⟩
  · exact ((hexact hrightly).2 m' _ halike hrightly').symm.trans hfound
  · exact (hlarger (henough hcount.le)).1 _ 2 (by omega) hfound

/-- A search three types deep meets `5` at the end of the chain first, gives it up, and misses the
half in it, which is two steps away. -/
theorem sharedChain_misses :
    ∃ m m', build .v1_6 .logical (sharedChain [2, 5]) = .ok m ∧
      build .v1_6 .logical (sharedChain [5, 2]) = .ok m' ∧
      m.FindsWithin false (·.opcode == .typeFloat) 3 1 ∧
      m.containsType 3 false (·.opcode == .typeFloat) 1 = false ∧
      m.containsType 2 false (·.opcode == .typeFloat) 1 = true ∧
      m'.containsType 3 false (·.opcode == .typeFloat) 1 = true := by
  let m := assemble .v1_6 .logical (place (sharedChain [2, 5]))
  let m' := assemble .v1_6 .logical (place (sharedChain [5, 2]))
  have hfive : m.Leads false 1 1 5 := .tail .refl ⟨_, rfl, by decide⟩
  have hhalf : m.Leads false 1 2 6 := hfive.tail ⟨_, rfl, by decide⟩
  exact ⟨m, m', rfl, rfl, ⟨2, 6, _, by omega, hhalf, rfl, rfl⟩, rfl, rfl, rfl⟩

end Module
end Spirv
