import Spirv.Capability.Basic

set_option autoImplicit false

/-!
# Sets of capabilities

A set holds the declared capabilities and all that they grant. Its members stand in the order of
their numbers, so two sets with the same members are equal.
-/
namespace Spirv

def Capability.grantedWithin : Nat → Capability → List Capability
  | 0, c => [c]
  | n + 1, c => c :: c.implied.flatMap (grantedWithin n)

/-- All that a capability grants. A chain of grants names no capability twice, so it has fewer
steps than there are capabilities. -/
def Capability.granted (c : Capability) : List Capability :=
  grantedWithin (values.length - 1) c

structure CapabilitySet where
  members : List Capability
  deriving DecidableEq, Repr

namespace CapabilitySet

def empty : CapabilitySet := ⟨[]⟩

def contains (s : CapabilitySet) (c : Capability) : Bool := s.members.contains c

def insert (s : CapabilitySet) (c : Capability) : CapabilitySet :=
  ⟨Capability.values.filter fun d => s.contains d || c.granted.contains d⟩

theorem contains_insert (s : CapabilitySet) (c d : Capability) :
    (s.insert c).contains d = (s.contains d || c.granted.contains d) := by
  simp [insert, contains, Capability.mem_values]

def ofList (cs : List Capability) : CapabilitySet := cs.foldl insert empty

def size (s : CapabilitySet) : Nat := s.members.length

end CapabilitySet
end Spirv
