import Spirv.Proofs.Module.Indexed

set_option autoImplicit false

/-!
# Looking back for the function of a parameter

One pass fills the parameter table. It carries the function met last and the number of parameters
met since, which is what a look back from each position finds in the instructions in front of it.
-/
namespace Spirv

namespace ParameterTable

def StandsAt (is : List Instruction) (op : Opcode) (n : Nat) : Prop :=
  ∃ i, is[n]? = some i ∧ i.opcode = op

def parametersBetween (is : List Instruction) (f n : Nat) : Nat :=
  ((is.take n).drop (f + 1)).countP (·.opcode == .functionParameter)

structure LastFunction (is : List Instruction) (n f : Nat) : Prop where
  lt : f < n
  stands : StandsAt is .function f
  last : ∀ g, f < g → g < n → ¬ StandsAt is .function g

inductive Encloses (is : List Instruction) (n : Nat) : Option (Nat × Nat) → Prop where
  | nothing (h : ∀ f < n, ¬ StandsAt is .function f) : Encloses is n none
  | function {f : Nat} (h : LastFunction is n f) :
    Encloses is n (some (f, parametersBetween is f n))

inductive ScannedSlot (is : List Instruction) (n : Nat) : Option ParameterSlot → Prop where
  | other (h : ¬ StandsAt is .functionParameter n) : ScannedSlot is n none
  | first (h : StandsAt is .functionParameter n) (hn : n = 0) :
    ScannedSlot is n (some .firstInstruction)
  | unenclosed (h : StandsAt is .functionParameter n) (hn : n ≠ 0)
      (hnone : ∀ f < n, ¬ StandsAt is .function f) : ScannedSlot is n (some .noEnclosingFunction)
  | inFunction {f : Nat} (h : StandsAt is .functionParameter n) (hf : LastFunction is n f) :
    ScannedSlot is n (some (.inFunction f (parametersBetween is f n)))

variable {is : List Instruction} {i : Instruction} {n f : Nat}

theorem standsAt_iff (hi : is[n]? = some i) {op : Opcode} :
    StandsAt is op n ↔ i.opcode = op := by
  constructor
  · rintro ⟨j, hj, hop⟩
    rwa [Option.some.inj (hi.symm.trans hj)]
  · exact fun hop => ⟨i, hi, hop⟩

theorem LastFunction.unique {f' : Nat} (h : LastFunction is n f) (h' : LastFunction is n f') :
    f = f' := by
  obtain hlt | heq | hgt := Nat.lt_trichotomy f f'
  · exact absurd h'.stands (h.last f' hlt h'.lt)
  · exact heq
  · exact absurd h.stands (h'.last f hgt h.lt)

theorem ScannedSlot.unique {s s' : Option ParameterSlot} (h : ScannedSlot is n s)
    (h' : ScannedSlot is n s') : s = s' := by
  cases h with
  | other h =>
    cases h' with
    | other => rfl
    | first h' | unenclosed h' | inFunction h' => exact absurd h' h
  | first h hn =>
    cases h' with
    | other h' => exact absurd h h'
    | first => rfl
    | unenclosed _ hn' => exact absurd hn hn'
    | inFunction _ hf => exact absurd hf.lt (by omega)
  | unenclosed h hn hnone =>
    cases h' with
    | other h' => exact absurd h h'
    | first _ hn' => exact absurd hn' hn
    | unenclosed => rfl
    | inFunction _ hf => exact absurd hf.stands (hnone _ hf.lt)
  | inFunction h hf =>
    cases h' with
    | other h' => exact absurd h h'
    | first _ hn => exact absurd hf.lt (by omega)
    | unenclosed _ _ hnone => exact absurd hf.stands (hnone _ hf.lt)
    | inFunction _ hf' => rw [hf.unique hf']

/-! ### The pass -/

theorem parametersBetween_self (is : List Instruction) (n : Nat) :
    parametersBetween is n (n + 1) = 0 := by
  have hnil : (is.take (n + 1)).drop (n + 1) = [] := by simp
  rw [parametersBetween, hnil]
  rfl

theorem parametersBetween_succ (hf : f < n) (hi : is[n]? = some i) :
    parametersBetween is f (n + 1) =
      parametersBetween is f n + if i.opcode = .functionParameter then 1 else 0 := by
  obtain ⟨hlt, -⟩ := List.getElem?_eq_some_iff.mp hi
  have hlength : f + 1 ≤ (is.take n).length := by
    rw [List.length_take]
    omega
  rw [parametersBetween, List.take_add_one, hi, List.drop_append_of_le_length hlength,
    List.countP_append, ← parametersBetween]
  simp

/-- One step of the pass takes what a look back finds to what it finds behind the instruction. -/
theorem Encloses.next {enclosing : Option (Nat × Nat)} (h : Encloses is n enclosing)
    (hi : is[n]? = some i) (hposition : i.position = n) :
    Encloses is (n + 1) (next enclosing i) := by
  by_cases hop : i.opcode = .function
  · rw [ParameterTable.next, if_pos hop, hposition, ← parametersBetween_self is n]
    exact .function ⟨Nat.lt_succ_self n, (standsAt_iff hi).mpr hop, fun g hg hg' => by omega⟩
  have hnew : ¬ StandsAt is .function n := fun hf => hop ((standsAt_iff hi).mp hf)
  cases h with
  | nothing hnone =>
    have hnext : ParameterTable.next none i = none := by simp [ParameterTable.next, hop]
    rw [hnext]
    refine .nothing fun g hg hf => ?_
    obtain hlt | rfl := Nat.lt_succ_iff_lt_or_eq.mp hg
    · exact hnone g hlt hf
    · exact hnew hf
  | @function f hlast =>
    have hn : n ≠ 0 := Nat.ne_zero_of_lt hlast.lt
    have hnext : ParameterTable.next (some (f, parametersBetween is f n)) i =
        some (f, parametersBetween is f (n + 1)) := by
      rw [parametersBetween_succ hlast.lt hi]
      by_cases hparameter : i.opcode = .functionParameter
      · simp [ParameterTable.next, hparameter, hposition, hn]
      · simp [ParameterTable.next, hop, hparameter]
    rw [hnext]
    refine .function ⟨Nat.lt_succ_of_lt hlast.lt, hlast.stands, fun g hg hg' hf => ?_⟩
    obtain hlt | rfl := Nat.lt_succ_iff_lt_or_eq.mp hg'
    · exact hlast.last g hg hlt hf
    · exact hnew hf

/-- What the pass carries at a position is what a look back finds there. -/
theorem encloses_take
    (hposition : ∀ (n : Nat) (i : Instruction), is[n]? = some i → i.position = n) (n : Nat)
    (hn : n ≤ is.length) : Encloses is n ((is.take n).foldl next none) := by
  induction n with
  | zero => exact .nothing fun f hf => absurd hf (Nat.not_lt_zero f)
  | succ n ih =>
    have hi : is[n]? = some is[n] := List.getElem?_eq_getElem hn
    rw [List.take_add_one, hi, List.foldl_append]
    exact (ih (Nat.le_of_succ_le hn)).next hi (hposition n _ hi)

theorem Encloses.scannedSlot {enclosing : Option (Nat × Nat)} (h : Encloses is n enclosing)
    (hi : is[n]? = some i) (hposition : i.position = n) :
    ScannedSlot is n (slot? enclosing i) := by
  by_cases hop : i.opcode = .functionParameter
  · have hstands := (standsAt_iff hi).mpr hop
    unfold slot?
    rw [if_pos hop, hposition]
    by_cases hn : n = 0
    · rw [if_pos hn]
      exact .first hstands hn
    · rw [if_neg hn]
      cases h with
      | nothing hnone => exact .unenclosed hstands hn hnone
      | function hlast => exact .inFunction hstands hlast
  · unfold slot?
    rw [if_neg hop]
    exact .other fun hstands => hop ((standsAt_iff hi).mp hstands)

/-! ### The table -/

/-- An instruction has no say in the slot of another position. -/
theorem lookup_continueFrom_cons_of_ne (enclosing : Option (Nat × Nat)) (i : Instruction)
    (is : List Instruction) (n : Nat) (hn : i.position ≠ n) :
    (continueFrom enclosing (i :: is)).lookup n =
      (continueFrom (next enclosing i) is).lookup n := by
  have hi : (n == i.position) = false := by simpa using hn.symm
  rw [continueFrom]
  cases slot? enclosing i with
  | none => rfl
  | some slot => simp [List.lookup_cons, hi]

theorem lookup_continueFrom_eq_none (enclosing : Option (Nat × Nat)) {is : List Instruction}
    {n : Nat} (hn : ∀ i ∈ is, i.position ≠ n) : (continueFrom enclosing is).lookup n = none := by
  induction is generalizing enclosing with
  | nil => rfl
  | cons i is ih =>
    obtain ⟨hi, his⟩ := List.forall_mem_cons.mp hn
    rw [lookup_continueFrom_cons_of_ne _ _ _ _ hi]
    exact ih _ his

theorem lookup_continueFrom_append (enclosing : Option (Nat × Nat)) (before after : List Instruction)
    (i : Instruction) (hbefore : ∀ j ∈ before, j.position ≠ i.position)
    (hafter : ∀ j ∈ after, j.position ≠ i.position) :
    (continueFrom enclosing (before ++ i :: after)).lookup i.position =
      slot? (before.foldl next enclosing) i := by
  induction before generalizing enclosing with
  | nil =>
    rw [List.nil_append, continueFrom, List.foldl_nil]
    cases slot? enclosing i with
    | none => exact lookup_continueFrom_eq_none _ hafter
    | some slot => simp
  | cons j before ih =>
    obtain ⟨hj, hbefore⟩ := List.forall_mem_cons.mp hbefore
    rw [List.cons_append, lookup_continueFrom_cons_of_ne _ _ _ _ hj, ih _ hbefore,
      List.foldl_cons]

theorem lookup_ofInstructions
    (hposition : ∀ (n : Nat) (i : Instruction), is[n]? = some i → i.position = n) (n : Nat) :
    (ofInstructions is).lookup n = is[n]?.bind (slot? ((is.take n).foldl next none)) := by
  have hother (k : Nat) (j : Instruction) (hj : is[k]? = some j) (hk : k ≠ n) :
      j.position ≠ n := by
    rwa [hposition k j hj]
  cases hi : is[n]? with
  | none =>
    refine lookup_continueFrom_eq_none none fun j hj => ?_
    obtain ⟨k, hk⟩ := List.mem_iff_getElem?.mp hj
    refine hother k j hk fun heq => ?_
    rw [heq, hi] at hk
    contradiction
  | some i =>
    obtain ⟨hlt, rfl⟩ := List.getElem?_eq_some_iff.mp hi
    have hsplit : is.take n ++ is[n] :: is.drop (n + 1) = is := by simp
    have hlookup := lookup_continueFrom_append none (is.take n) (is.drop (n + 1)) is[n]
    rw [hsplit, hposition n _ hi] at hlookup
    refine hlookup (fun j hj => ?_) fun j hj => ?_
    · obtain ⟨k, hk⟩ := List.mem_iff_getElem?.mp hj
      rw [List.getElem?_take, Option.ite_none_right_eq_some] at hk
      exact hother k j hk.2 (Nat.ne_of_lt hk.1)
    · obtain ⟨k, hk⟩ := List.mem_iff_getElem?.mp hj
      rw [List.getElem?_drop] at hk
      exact hother _ j hk (by omega)

end ParameterTable

open ParameterTable

namespace Module

theorem Indexed.scannedSlot {m : Module} (hm : m.Indexed) (n : Nat) :
    ScannedSlot m.instructions n (m.parameterSlot? n) := by
  rw [parameterSlot?, hm.parameters, lookup_ofInstructions hm.position]
  cases hi : m.instructions[n]? with
  | none =>
    refine .other ?_
    rintro ⟨j, hj, -⟩
    rw [hi] at hj
    contradiction
  | some i =>
    obtain ⟨hlt, -⟩ := List.getElem?_eq_some_iff.mp hi
    have hencloses := encloses_take hm.position n (Nat.le_of_lt hlt)
    exact hencloses.scannedSlot hi (hm.position n i hi)

/-- The table of a built module holds the slots that a look back from each position gives. -/
theorem parameterSlot?_eq_iff {v : Version} {addressing : AddressingModel} {is : List Instruction}
    {m : Module} (hbuild : build v addressing is = .ok m) (n : Nat) (s : Option ParameterSlot) :
    m.parameterSlot? n = s ↔ ScannedSlot m.instructions n s := by
  have hscanned := (indexed_of_build hbuild).scannedSlot n
  constructor
  · rintro rfl
    exact hscanned
  · exact hscanned.unique

/-- Parameters at the front, below a function with a line in between, and behind the end of that
function. -/
def scatteredParameters : List Instruction :=
  [.ofOpcode .functionParameter [1, 2], .ofOpcode .functionParameter [1, 3],
    .ofOpcode .function [1, 4, 0, 5], .ofOpcode .functionParameter [1, 6],
    .ofOpcode .line [7, 0, 0], .ofOpcode .functionParameter [1, 8], .ofOpcode .functionEnd [],
    .ofOpcode .functionParameter [1, 9]]

theorem scatteredParameters_slots :
    ∃ m, build .v1_6 .logical scatteredParameters = .ok m ∧
      ScannedSlot m.instructions 0 (some .firstInstruction) ∧
      ScannedSlot m.instructions 1 (some .noEnclosingFunction) ∧
      ScannedSlot m.instructions 4 none ∧
      ScannedSlot m.instructions 5 (some (.inFunction 2 1)) ∧
      ScannedSlot m.instructions 7 (some (.inFunction 2 2)) := by
  let m := assemble .v1_6 .logical (place scatteredParameters)
  have hbuild : build .v1_6 .logical scatteredParameters = .ok m := rfl
  refine ⟨m, hbuild, ?_, ?_, ?_, ?_, ?_⟩ <;> exact (parameterSlot?_eq_iff hbuild _ _).mp rfl

end Module
end Spirv
