import Spirv.Type.Shape

set_option autoImplicit false

/-!
# The values of constants

What is known about the value of an id before the module is specialized and run.
-/
namespace Spirv

inductive Int32Value where
  | otherType
  | unknown
  | known (value : Word)
  deriving DecidableEq, Repr

def Int32Value.known? : Int32Value → Option Word
  | .known value => some value
  | _ => none

namespace Module

def isInt32Type (m : Module) (id : Id) : Bool := m.isIntType id && m.bitWidth id == 32

/-- The value of a 32-bit integer constant. A specialization constant has none yet. -/
def int32Value (m : Module) (id : Id) : Int32Value :=
  match m.definition? id with
  | none => .otherType
  | some i =>
    if !i.typeId.any m.isInt32Type then .otherType
    else if !i.opcode.isConstant || i.opcode.isSpecConstant then .unknown
    else if i.opcode == .constantNull then .known 0
    else
      match i.operand 2 with
      | some value => .known value
      | none => .unknown

/-- The value of an integer constant of up to two words, the low word first. -/
def uint64Value? (m : Module) (id : Id) : Option Nat :=
  match m.definition? id with
  | none => none
  | some i =>
    if !i.typeId.any m.isIntType then none
    else
      match i.opcode with
      | .constantNull => some 0
      | .constant =>
        (i.operand 2).map fun low => low.toNat + (i.operandOrZero 3).toNat * UInt32.size
      | _ => none

end Module
end Spirv
