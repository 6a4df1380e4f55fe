import Mathlib.Logic.Relation
import Spirv.Capability.Set

set_option autoImplicit false

/-!
# Capabilities that follow from others

Declaring a capability grants what can be reached from it by direct grants, and a set of
capabilities has what some member of the list that it is made from grants.
-/
namespace Spirv

namespace Capability

def Implies (c d : Capability) : Prop := d ∈ c.implied

theorem reaches_of_mem_grantedWithin {n : Nat} {c d : Capability} (h : d ∈ grantedWithin n c) :
    Relation.ReflTransGen Implies c d := by
  induction n generalizing c with
  | zero =>
    obtain rfl := List.mem_singleton.mp h
    exact .refl
  | succ n ih =>
    obtain rfl | hbehind := List.mem_cons.mp h
    · exact .refl
    · obtain ⟨e, he, hd⟩ := List.mem_flatMap.mp hbehind
      exact .head he (ih hd)

/-- Chains of grants are shorter than the bound, so what a granted capability grants is granted. -/
theorem granted_subset_of_implies {c d : Capability} (h : Implies c d) : d.granted ⊆ c.granted := by
  have hclosed : ∀ c ∈ values, ∀ d ∈ c.implied, ∀ e ∈ d.granted, e ∈ c.granted := by decide
  exact hclosed c (mem_values c) d h

theorem mem_granted_self (c : Capability) : c ∈ c.granted := List.mem_cons_self

theorem mem_granted_iff {c d : Capability} :
    d ∈ c.granted ↔ Relation.ReflTransGen Implies c d := by
  constructor
  · exact reaches_of_mem_grantedWithin
  · intro h
    induction h using Relation.ReflTransGen.head_induction_on with
    | refl => exact d.mem_granted_self
    | head hstep _ ih => exact granted_subset_of_implies hstep ih

end Capability

namespace CapabilitySet

theorem contains_foldl_insert (s : CapabilitySet) (cs : List Capability) (c : Capability) :
    (cs.foldl insert s).contains c = (s.contains c || cs.any (·.granted.contains c)) := by
  induction cs generalizing s with
  | nil => simp
  | cons d cs ih => rw [List.foldl_cons, ih, contains_insert, List.any_cons, Bool.or_assoc]

theorem contains_ofList (cs : List Capability) (c : Capability) :
    (ofList cs).contains c = cs.any (·.granted.contains c) := by
  rw [ofList, contains_foldl_insert]
  rfl

theorem contains_ofList_iff (cs : List Capability) (c : Capability) :
    (ofList cs).contains c = true ↔ ∃ d ∈ cs, Relation.ReflTransGen Capability.Implies d c := by
  rw [contains_ofList, List.any_eq_true]
  simp only [List.contains_iff_mem, Capability.mem_granted_iff]

end CapabilitySet
end Spirv
