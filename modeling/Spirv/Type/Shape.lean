import Spirv.Module.Basic
import Spirv.StorageClass

set_option autoImplicit false

/-!
# The shape of types

Questions about the declaration of one type: its kind, its components, its width, and the parts of
pointer and function types.
-/
namespace Spirv

def Instruction.declaredDimension (type : Instruction) : Word :=
  match type.opcode with
  | .typeBool | .typeInt | .typeFloat | .typeCooperativeMatrixNV | .typeCooperativeMatrixKHR => 1
  | .typeVector | .typeMatrix => type.operandOrZero 2
  | _ => 0

namespace Module

def opcodeOf? (m : Module) (id : Id) : Option Opcode := (m.definition? id).map (·.opcode)

def isIntType (m : Module) (id : Id) : Bool := m.opcodeOf? id == some .typeInt

def isFloatType (m : Module) (id : Id) : Bool := m.opcodeOf? id == some .typeFloat

def isBoolType (m : Module) (id : Id) : Bool := m.opcodeOf? id == some .typeBool

def isPointerType (m : Module) (id : Id) : Bool := (m.opcodeOf? id).any Opcode.isPointerType

def isCooperativeMatrixKHR (m : Module) (id : Id) : Bool :=
  m.opcodeOf? id == some .typeCooperativeMatrixKHR

def isCooperativeMatrix (m : Module) (id : Id) : Bool :=
  m.isCooperativeMatrixKHR id || m.opcodeOf? id == some .typeCooperativeMatrixNV

/-- The component type found within `n` steps from a value to its type and from a matrix to its
columns. -/
def componentWithin (m : Module) : Nat → Id → Option Id
  | 0, _ => none
  | n + 1, id =>
    match m.definition? id with
    | none => none
    | some i =>
      match i.opcode with
      | .typeBool | .typeInt | .typeFloat => some id
      | .typeArray | .typeVector | .typeCooperativeMatrixNV | .typeCooperativeMatrixKHR
      | .typeCooperativeVectorNV => i.operand 1
      | .typeMatrix => (i.operand 1).bind (m.componentWithin n)
      | _ => i.typeId.bind (m.componentWithin n)

/-- The component type of a type or of a value's type. Four steps lead from a value over its
matrix type and a column to a scalar. -/
def componentType? (m : Module) (id : Id) : Option Id := m.componentWithin 4 id

/-- The number of components of a type or of a value's type, 0 where there is none. -/
def dimension (m : Module) (id : Id) : Word :=
  match m.definition? id with
  | none => 0
  | some i =>
    if i.opcode.isTypeDeclaration then i.declaredDimension
    else ((m.typeDefinition? i).map Instruction.declaredDimension).getD 0

/-- The width of the component type in bits, 1 for booleans and 0 where there is none. -/
def bitWidth (m : Module) (id : Id) : Word :=
  match (m.componentType? id).bind m.definition? with
  | none => 0
  | some i =>
    match i.opcode with
    | .typeInt | .typeFloat => i.operandOrZero 1
    | .typeBool => 1
    | _ => 0

def storageClassWord? (m : Module) (id : Id) : Option Word :=
  ((m.definition? id).filter (·.opcode.isPointerType)).bind (·.operand 1)

def storageClass? (m : Module) (id : Id) : Option StorageClass :=
  (m.storageClassWord? id).bind fun w => StorageClass.ofValue? w.toNat

def pointee? (m : Module) (id : Id) : Option Id :=
  ((m.definition? id).filter (·.opcode == .typePointer)).bind (·.operand 2)

def functionType? (m : Module) (function : Instruction) : Option Instruction :=
  ((function.operand 3).bind m.definition?).filter (·.opcode == .typeFunction)

end Module
end Spirv
