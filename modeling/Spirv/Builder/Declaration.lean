import Spirv.Capability.Basic
import Spirv.Instruction
import Spirv.MemoryModel
import Spirv.StorageClass

set_option autoImplicit false

/-!
# What a builder appends

A declaration is an instruction that defines an id, described without that id. A directive is an
instruction that defines none.
-/
namespace Spirv

inductive Declaration where
  | extInstImport (name : String)
  | extInst (type set : Id) (instruction : Word) (operands : List Id)
  | typeVoid
  | typeBool
  | typeInt (width : Word) (signed : Bool)
  | typeFloat (width : Word)
  | typeVector (component : Id) (count : Word)
  | typeMatrix (column : Id) (count : Word)
  | typeArray (element length : Id)
  | typeRuntimeArray (element : Id)
  | typeStruct (members : List Id)
  | typePointer (storage : StorageClass) (pointee : Id)
  | typeUntypedPointer (storage : StorageClass)
  | typeFunction (result : Id) (parameters : List Id)
  | typeSampler
  | typeEvent
  | typeQueue
  | typeOpaque (name : String)
  | typeCooperativeMatrixKHR (component scope rows columns usage : Id)
  | typeCooperativeMatrixNV (component scope rows columns : Id)
  | typeCooperativeVectorNV (component count : Id)
  /-- A shape without a rank is left out. -/
  | typeTensor (element : Id) (rank shape : Option Id)
  | constant (type : Id) (value : Word)
  | constantWide (type : Id) (value : UInt64)
  | constantTrue (type : Id)
  | constantFalse (type : Id)
  | constantNull (type : Id)
  | constantComposite (type : Id) (constituents : List Id)
  | constantSampler (type : Id) (addressing : Word) (normalized : Bool) (filter : Word)
  | specConstantTrue (type : Id)
  | specConstant (type : Id) (value : Word)
  | specConstantComposite (type : Id) (constituents : List Id)
  | specConstantOp (type : Id) (operation : Opcode) (operands : List Id)
  | constantFunctionPointer (type function : Id)
  | undef (type : Id)
  | variableOf (type : Id) (storage : StorageClass)
  | untypedVariable (type : Id) (storage : StorageClass)
  | function (result type : Id)
  | functionParameter (type : Id)
  | label
  | functionCall (result callee : Id) (arguments : List Id)
  | load (type pointer : Id)
  | copyObject (type operand : Id)
  | perElement (type matrix function : Id) (extra : List Id)
  deriving DecidableEq, Repr

namespace Declaration

def flag (b : Bool) : Word := if b then 1 else 0

def storageWord (s : StorageClass) : Word := UInt32.ofNat s.value

/-- The opcode, the result type if there is one, and the operands behind the result id. -/
def parts : Declaration → Opcode × Option Id × List Word
  | .extInstImport name => (.extInstImport, none, Literal.encode name)
  | .extInst type set instruction operands => (.extInst, some type, set :: instruction :: operands)
  | .typeVoid => (.typeVoid, none, [])
  | .typeBool => (.typeBool, none, [])
  | .typeInt width signed => (.typeInt, none, [width, flag signed])
  | .typeFloat width => (.typeFloat, none, [width])
  | .typeVector component count => (.typeVector, none, [component, count])
  | .typeMatrix column count => (.typeMatrix, none, [column, count])
  | .typeArray element length => (.typeArray, none, [element, length])
  | .typeRuntimeArray element => (.typeRuntimeArray, none, [element])
  | .typeStruct members => (.typeStruct, none, members)
  | .typePointer storage pointee => (.typePointer, none, [storageWord storage, pointee])
  | .typeUntypedPointer storage => (.typeUntypedPointerKHR, none, [storageWord storage])
  | .typeFunction result parameters => (.typeFunction, none, result :: parameters)
  | .typeSampler => (.typeSampler, none, [])
  | .typeEvent => (.typeEvent, none, [])
  | .typeQueue => (.typeQueue, none, [])
  | .typeOpaque name => (.typeOpaque, none, Literal.encode name)
  | .typeCooperativeMatrixKHR component scope rows columns usage =>
    (.typeCooperativeMatrixKHR, none, [component, scope, rows, columns, usage])
  | .typeCooperativeMatrixNV component scope rows columns =>
    (.typeCooperativeMatrixNV, none, [component, scope, rows, columns])
  | .typeCooperativeVectorNV component count => (.typeCooperativeVectorNV, none, [component, count])
  | .typeTensor element none _ => (.typeTensorARM, none, [element])
  | .typeTensor element (some rank) shape => (.typeTensorARM, none, element :: rank :: shape.toList)
  | .constant type value => (.constant, some type, [value])
  | .constantWide type value => (.constant, some type, [value.toUInt32, (value >>> 32).toUInt32])
  | .constantTrue type => (.constantTrue, some type, [])
  | .constantFalse type => (.constantFalse, some type, [])
  | .constantNull type => (.constantNull, some type, [])
  | .constantComposite type constituents => (.constantComposite, some type, constituents)
  | .constantSampler type addressing normalized filter =>
    (.constantSampler, some type, [addressing, flag normalized, filter])
  | .specConstantTrue type => (.specConstantTrue, some type, [])
  | .specConstant type value => (.specConstant, some type, [value])
  | .specConstantComposite type constituents => (.specConstantComposite, some type, constituents)
  | .specConstantOp type operation operands =>
    (.specConstantOp, some type, UInt32.ofNat operation.value :: operands)
  | .constantFunctionPointer type target =>
    (.constantFunctionPointerINTEL, some type, [target])
  | .undef type => (.undef, some type, [])
  | .variableOf type storage => (.var, some type, [storageWord storage])
  | .untypedVariable type storage => (.untypedVariableKHR, some type, [storageWord storage])
  | .function result type => (.function, some result, [0, type])
  | .functionParameter type => (.functionParameter, some type, [])
  | .label => (.label, none, [])
  | .functionCall result callee arguments => (.functionCall, some result, callee :: arguments)
  | .load type pointer => (.load, some type, [pointer])
  | .copyObject type operand => (.copyObject, some type, [operand])
  | .perElement type matrix callee extra =>
    (.cooperativeMatrixPerElementOpNV, some type, matrix :: callee :: extra)

def instruction (d : Declaration) (id : Id) : Instruction :=
  Instruction.ofOpcode d.parts.1 (d.parts.2.1.toList ++ id :: d.parts.2.2)

end Declaration

inductive Directive where
  | capability (c : Capability)
  | extension (name : String)
  | memoryModel (addressing : AddressingModel) (memory : MemoryModel)
  | entryPoint (model : Word) (function : Id) (name : String) (interface : List Id)
  | name (target : Id) (name : String)
  | decorate (target : Id) (decoration : Word) (literals : List Word)
  | memberDecorate (target : Id) (member decoration : Word) (literals : List Word)
  | returnVoid
  | functionEnd
  deriving DecidableEq, Repr

def Directive.parts : Directive → Opcode × List Word
  | .capability c => (.capability, [UInt32.ofNat c.value])
  | .extension text => (.extension, Literal.encode text)
  | .memoryModel addressing memory =>
    (.memoryModel, [UInt32.ofNat addressing.value, UInt32.ofNat memory.value])
  | .entryPoint model function text interface =>
    (.entryPoint, model :: function :: Literal.encode text ++ interface)
  | .name target text => (.name, target :: Literal.encode text)
  | .decorate target decoration literals => (.decorate, target :: decoration :: literals)
  | .memberDecorate target member decoration literals =>
    (.memberDecorate, target :: member :: decoration :: literals)
  | .returnVoid => (.returnVoid, [])
  | .functionEnd => (.functionEnd, [])

end Spirv
