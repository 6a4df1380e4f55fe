import Spirv.Config
import Spirv.Rule.Function
import Spirv.Type.Match

set_option autoImplicit false

/-!
# The rules for calls

A call has the result type and the argument types that the called function declares. Under logical
addressing a pointer argument must point to an allowed storage class and, for most of them, be a
declaration of a memory object.
-/
namespace Spirv.Module

def function? (m : Module) (id : Id) : Option Instruction :=
  (m.definition? id).filter (·.opcode == .function)

def checkStorage (m : Module) (id : Id) (storage : Option StorageClass) :
    Except FunctionFault Unit :=
  match storage with
  | some .uniformConstant | some .function | some .privateMemory | some .workgroup
  | some .atomicCounter => .ok ()
  | some .storageBuffer => require m.features.variablePointers (.needsVariablePointers id)
  | _ => .error (.storageClass id)

def mayComputePointer (m : Module) (storage : Option StorageClass) : Bool :=
  match storage with
  | some .storageBuffer => m.hasCapability .variablePointersStorageBuffer
  | some .workgroup => m.hasCapability .variablePointers
  | some .uniformConstant => true
  | _ => false

def checkPointerArgument (m : Module) (config : Config) (argument : Instruction)
    (parameter : Id) : Except FunctionFault Unit := do
  let id := argument.resultId.getD 0
  let storage := m.storageClass? parameter
  m.checkStorage id storage
  require (argument.isMemoryDeclaration || config.beforeLegalization || m.mayComputePointer storage)
    (.notDeclaration id)

def argumentFits (m : Module) (config : Config) (typeId : Id) (type : Instruction)
    (parameter : Id) : Bool :=
  typeId == parameter || config.beforeLegalization &&
    (m.definition? parameter).any (m.pointeesMatch config.maxTypeDepth type)

def checkArgument (m : Module) (config : Config) (callee id parameter : Id) :
    Except FunctionFault Unit :=
  match m.definition? id with
  | none => .error (.undefinedArgument id)
  | some argument =>
    match m.typeDefinition? argument with
    | none => .error (.undefinedArgumentType id)
    | some type => do
      require (m.argumentFits config argument.typeIdOrZero type parameter)
        (.argumentType id callee)
      if m.addressing == .logical && !config.relaxLogicalPointer && m.isPointerType parameter then
        m.checkPointerArgument config argument parameter
      else .ok ()

def checkArguments (m : Module) (config : Config) (callee : Id) (arguments parameters : List Id) :
    Except FunctionFault Unit := do
  require (arguments.length == parameters.length) (.argumentCount callee)
  requireEach (fun (id, parameter) => m.checkArgument config callee id parameter)
    (arguments.zip parameters)

def checkCall (m : Module) (config : Config) (i : Instruction) : Except FunctionFault Unit :=
  let id := i.operandOrZero 2
  match m.function? id with
  | none => .error (.notFunction id)
  | some callee => do
    let declared := callee.typeIdOrZero
    require ((m.definition? declared).isSome && declared == i.typeIdOrZero) (.callResult id)
    match m.functionType? callee with
    | none => .error (.missingType (some id))
    | some type => m.checkArguments config id (i.operandsFrom 3) (type.operandsFrom 2)

end Spirv.Module
