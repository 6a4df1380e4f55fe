import Spirv.Module.Basic
import Spirv.StorageClass

set_option autoImplicit false

/-!
# Types with a null value

A type with components has a null value when its components have one.
-/
namespace Spirv.Module

def nullableWithin (m : Module) : Nat → Instruction → Bool
  | 0, _ => false
  | levels + 1, type =>
    let nested := fun id => (m.definition? id).any (m.nullableWithin levels)
    match type.opcode with
    | .typeBool | .typeInt | .typeFloat | .typeEvent | .typeDeviceEvent | .typeReserveId
    | .typeQueue => true
    | .typeArray | .typeMatrix | .typeVector | .typeCooperativeMatrixNV
    | .typeCooperativeMatrixKHR | .typeCooperativeVectorNV => (type.operand 1).any nested
    | .typeStruct => (type.operandsFrom 1).all nested
    | .typePointer | .typeUntypedPointerKHR =>
      (type.operand 1).map UInt32.toNat != some StorageClass.physicalStorageBuffer.value
    | .typeTensorARM => type.isShapedTensor && (type.operand 1).any nested
    | _ => false

/-- Whether a type has a null value, where types nested more than `depth` deep have none. -/
def isNullable (m : Module) (depth : Nat) (type : Instruction) : Bool :=
  m.nullableWithin (depth + 1) type

def isNullableId (m : Module) (depth : Nat) (id : Id) : Bool :=
  (m.definition? id).any (m.isNullable depth)

end Spirv.Module
