import Spirv.Module.Basic

set_option autoImplicit false

/-!
# The parameter table

A parameter belongs to the closest function in front of it, and its index counts the parameters
between the two. Other instructions in between do not shift it.
-/
namespace Spirv.ParameterTable

/-- The slot of an instruction below a function, which is given by its position and the number of
parameters met so far. Only a parameter has one. -/
def slot? (enclosing : Option (Nat × Nat)) (i : Instruction) : Option ParameterSlot :=
  if i.opcode = .functionParameter then
    if i.position = 0 then some .firstInstruction
    else match enclosing with
      | some (function, index) => some (.inFunction function index)
      | none => some .noEnclosingFunction
  else none

def next (enclosing : Option (Nat × Nat)) (i : Instruction) : Option (Nat × Nat) :=
  if i.opcode = .function then some (i.position, 0)
  else if i.opcode = .functionParameter ∧ i.position ≠ 0 then
    enclosing.map fun (function, index) => (function, index + 1)
  else enclosing

def continueFrom : Option (Nat × Nat) → List Instruction → List (Nat × ParameterSlot)
  | _, [] => []
  | enclosing, i :: rest =>
    ((slot? enclosing i).toList.map fun slot => (i.position, slot)) ++
      continueFrom (next enclosing i) rest

def ofInstructions (is : List Instruction) : List (Nat × ParameterSlot) := continueFrom none is

end Spirv.ParameterTable
