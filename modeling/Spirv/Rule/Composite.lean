import Spirv.Constant.Value
import Spirv.Fault.Composite
import Spirv.Rule.Basic

set_option autoImplicit false

/-!
# The rules for composite constants

The constituents of a composite constant are constants or undefined values whose number and types
its result type gives. A number that is not known before specialization is not compared.
-/
namespace Spirv.Module

def typePart (m : Module) (type : Instruction) (k : Nat) (part : TypePart) :
    Except CompositeFault (Id × Instruction) :=
  let id := type.operandOrZero k
  match m.definition? id with
  | some i => .ok (id, i)
  | none => .error (.undefinedPart part id)

def constituentType (m : Module) (id : Id) : Except CompositeFault (Id × Instruction) :=
  match (m.definition? id).filter (·.opcode.isConstantOrUndef) with
  | none => .error (.notConstant id)
  | some i =>
    match i.typeId with
    | none => .error (.undefinedType id)
    | some t =>
      match m.definition? t with
      | none => .error (.undefinedType id)
      | some type => .ok (t, type)

def checkConstituent (m : Module) (expected : Id) (role : ConstituentRole) (id : Id) :
    Except CompositeFault Unit := do
  let (t, _) ← m.constituentType id
  require (t == expected) (.mismatch role id)

def vectorCount? (m : Module) (type : Instruction) : Option Word :=
  if type.opcode == .typeCooperativeVectorNV then (m.int32Value (type.operandOrZero 2)).known?
  else type.operand 2

def checkVector (m : Module) (type : Instruction) (constituents : List Id) :
    Except CompositeFault Unit := do
  require ((m.vectorCount? type).all (·.toNat == constituents.length)) (.count .vectorComponents)
  let (component, _) ← m.typePart type 1 .componentType
  requireEach (m.checkConstituent component .vectorElement) constituents

/-- Checks that a constituent is a vector of the same shape as the column type. -/
def checkColumn (m : Module) (column : Instruction) (component : Id) (id : Id) :
    Except CompositeFault Unit := do
  let (_, vector) ← m.constituentType id
  require (vector.opcode == column.opcode) (.mismatch .matrixColumn id)
  require (vector.operand 1 == some component) (.columnComponent id)
  require (vector.operand 2 == column.operand 2) (.columnCount id)

def checkMatrix (m : Module) (type : Instruction) (constituents : List Id) :
    Except CompositeFault Unit := do
  require (type.operand 2 == some (UInt32.ofNat constituents.length)) (.count .matrixColumns)
  let (_, column) ← m.typePart type 1 .columnType
  let (component, _) ← m.typePart column 1 .componentType
  requireEach (m.checkColumn column component) constituents

def checkArray (m : Module) (type : Instruction) (constituents : List Id) :
    Except CompositeFault Unit := do
  let (element, _) ← m.typePart type 1 .elementType
  let (length, _) ← m.typePart type 2 .length
  require ((m.int32Value length).known?.all (·.toNat == constituents.length)) (.count .arrayLength)
  requireEach (m.checkConstituent element .arrayElement) constituents

def checkStruct (m : Module) (type : Instruction) (constituents : List Id) :
    Except CompositeFault Unit := do
  let members := type.operandsFrom 1
  require (members.length == constituents.length) (.count .structMembers)
  requireEach (fun (id, member) => m.checkConstituent member .structMember id)
    (constituents.zip members)

def checkCooperativeMatrix (m : Module) (type : Instruction) (constituents : List Id) :
    Except CompositeFault Unit := do
  let (component, _) ← m.typePart type 1 .componentType
  match constituents with
  | [id] => m.checkConstituent component .matrixComponent id
  | _ => .error (.notSingle constituents.length)

end Spirv.Module
