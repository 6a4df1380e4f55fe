import Mathlib.Data.List.Basic
import Mathlib.Order.Monotone.Basic
import Spirv.Proofs.Module.Indexed

set_option autoImplicit false

/-!
# How many levels a walk needs

A walk over types is decided within a number of levels. One level more lets more of them pass, and
when it lets none of the definitions in that did not pass before, then no further level does. So a
walk needs no more levels than there are elements for it to let in.
-/
namespace Spirv

theorem countP_eq_imp {α : Type} {p q : α → Bool} {as : List α}
    (hle : ∀ a, p a = true → q a = true) (heq : as.countP p = as.countP q) {a : α} (ha : a ∈ as)
    (hq : q a = true) : p a = true := by
  have hsub : (as.filter p).Sublist (as.filter q) := List.monotone_filter_right as hle
  rw [List.countP_eq_length_filter, List.countP_eq_length_filter] at heq
  have hmem : a ∈ as.filter p := by
    rw [hsub.eq_of_length heq]
    exact List.mem_filter.mpr ⟨ha, hq⟩
  exact (List.mem_filter.mp hmem).2

/-- A test that lets more elements pass at each level, where a level that adds none is the last one
that matters. -/
structure Saturates {α : Type} (as : List α) (test : Nat → α → Bool) : Prop where
  succ : ∀ n a, test n a = true → test (n + 1) a = true
  stable : ∀ n, (∀ a ∈ as, test (n + 1) a = true → test n a = true) →
    ∀ a ∈ as, test (n + 2) a = true → test (n + 1) a = true

namespace Saturates

variable {α : Type} {as : List α} {test : Nat → α → Bool}

theorem mono (h : Saturates as test) {n k : Nat} (hnk : n ≤ k) {a : α} (ha : test n a = true) :
    test k a = true := by
  induction k, hnk using Nat.le_induction with
  | base => exact ha
  | succ k _ ih => exact h.succ k a ih

/-- The elements let in grow in number until a level adds none, which happens after as many levels
as there are elements. -/
theorem within_length (h : Saturates as test) {n : Nat} {a : α} (ha : a ∈ as)
    (htest : test n a = true) : test as.length a = true := by
  obtain hle | hlt := Nat.le_total n as.length
  · exact h.mono hle htest
  have hcount : as.countP (test n) = as.countP (test as.length) := by
    refine Nat.stabilises_of_monotone (f := fun k => as.countP (test k))
      (monotone_nat_of_le_succ fun k => List.countP_mono_left fun b _ => h.succ k b)
      (fun k => List.countP_le_length) (fun k heq => ?_) hlt
    refine Nat.le_antisymm (List.countP_mono_left fun b _ => h.succ (k + 1) b)
      (List.countP_mono_left fun b hb hpass => ?_)
    exact h.stable k (fun c hc => countP_eq_imp (h.succ k) heq hc) b hb hpass
  exact countP_eq_imp (fun b => h.mono hlt) hcount.symm ha htest

end Saturates

namespace Module

def definitions (m : Module) : List Instruction := m.instructions.filter (·.resultId.isSome)

theorem length_definitions (m : Module) : m.definitions.length = m.definitionCount :=
  List.countP_eq_length_filter.symm

theorem mem_definitions {m : Module} {id : Id} {i : Instruction} (h : m.definition? id = some i) :
    i ∈ m.definitions := by
  obtain ⟨hmem, hid⟩ := mem_of_definition? h
  exact List.mem_filter.mpr ⟨hmem, by rw [hid]; rfl⟩

end Module
end Spirv
