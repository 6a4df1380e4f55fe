import Spirv.Config
import Spirv.Fault.Constant
import Spirv.Rule.Tensor
import Spirv.Type.Nullable
import Spirv.Type.Search

set_option autoImplicit false

/-!
# The rules for constants

Each kind of constant has a rule for its result type. A constant of any kind must not be of a
narrow numeric type that shaders cannot compute with, unless its type is a pointer.
-/
namespace Spirv.Module

def checkBoolean (m : Module) (i : Instruction) : Except ConstantFault Unit :=
  require (m.isBoolType i.typeIdOrZero) .notBoolean

def checkConstituents (m : Module) (type : Instruction) (constituents : List Id) :
    Except CompositeFault Unit :=
  match type.opcode with
  | .typeVector | .typeCooperativeVectorNV => m.checkVector type constituents
  | .typeMatrix => m.checkMatrix type constituents
  | .typeArray => m.checkArray type constituents
  | .typeStruct => m.checkStruct type constituents
  | .typeCooperativeMatrixNV | .typeCooperativeMatrixKHR =>
    m.checkCooperativeMatrix type constituents
  | .typeTensorARM => m.checkTensor type constituents
  | _ => .ok ()

def checkComposite (m : Module) (i : Instruction) : Except ConstantFault Unit :=
  match (m.definition? i.typeIdOrZero).filter fun type =>
      type.opcode.isCompositeType || type.isShapedTensor with
  | none => .error .notCompositeType
  | some type => (m.checkConstituents type (i.operandsFrom 2)).mapError .composite

def checkSampler (m : Module) (i : Instruction) : Except ConstantFault Unit :=
  require (m.opcodeOf? i.typeIdOrZero == some .typeSampler) .notSampler

def checkNull (m : Module) (config : Config) (i : Instruction) : Except ConstantFault Unit :=
  require (m.isNullableId config.maxTypeDepth i.typeIdOrZero) .notNullable

def checkSpecConstant (m : Module) (i : Instruction) : Except ConstantFault Unit :=
  match m.opcodeOf? i.typeIdOrZero with
  | none => .error .undefinedType
  | some op => require (op == .typeInt || op == .typeFloat) .notNumeric

def checkOperation (m : Module) (op : Opcode) : Except ConstantFault Unit :=
  match op with
  | .quantizeToF16 => require (m.hasCapability .shader) (.operationNeeds op .shader)
  | .uConvert =>
    require (m.features.uConvertSpecConstantOp || m.hasCapability .kernel) .conversionNeedsKernel
  | .convertFToS | .convertSToF | .convertFToU | .convertUToF | .convertPtrToU | .convertUToPtr
  | .genericCastToPtr | .ptrCastToGeneric | .bitcast | .fNegate | .fAdd | .fSub | .fMul | .fDiv
  | .fRem | .fMod | .accessChain | .inBoundsAccessChain | .ptrAccessChain
  | .inBoundsPtrAccessChain => require (m.hasCapability .kernel) (.operationNeeds op .kernel)
  | _ => .ok ()

def checkSpecConstantOp (m : Module) (i : Instruction) : Except ConstantFault Unit :=
  match i.embeddedOpcode with
  | none => .ok ()
  | some op => m.checkOperation op

/-- Checks a pointer to a function. The type of a function that is not defined is not compared. -/
def checkFunctionPointer (m : Module) (i : Instruction) : Except ConstantFault Unit := do
  require (m.hasCapability .functionPointersINTEL) .pointerNeedsCapability
  match (m.pointee? i.typeIdOrZero).filter fun p => m.opcodeOf? p == some .typeFunction with
  | none => .error .notFunctionPointer
  | some pointee =>
    let id := i.operandOrZero 2
    match m.definition? id with
    | none => .ok ()
    | some function => do
      require (function.opcode == .function) (.targetNotFunction id)
      require (function.operand 3 == some pointee) (.targetType id pointee)

def checkNarrowNumeric (m : Module) (config : Config) (i : Instruction) :
    Except ConstantFault Unit :=
  match i.typeId with
  | none => .ok ()
  | some t =>
    require
      (!(m.hasCapability .shader && !m.isPointerType t &&
        m.containsLimitedNumeric config.maxTypeDepth t))
      .narrowNumeric

def checkConstantKind (m : Module) (config : Config) (i : Instruction) :
    Except ConstantFault Unit :=
  match i.opcode with
  | .constantTrue | .constantFalse | .specConstantTrue | .specConstantFalse => m.checkBoolean i
  | .constantComposite | .specConstantComposite => m.checkComposite i
  | .constantSampler => m.checkSampler i
  | .constantNull => m.checkNull config i
  | .specConstant => m.checkSpecConstant i
  | .specConstantOp => m.checkSpecConstantOp i
  | .constantFunctionPointerINTEL => m.checkFunctionPointer i
  | _ => .ok ()

def checkConstant (m : Module) (config : Config) (i : Instruction) :
    Except ConstantFault Unit := do
  m.checkConstantKind config i
  if i.opcode.isConstant then m.checkNarrowNumeric config i else .ok ()

end Spirv.Module
