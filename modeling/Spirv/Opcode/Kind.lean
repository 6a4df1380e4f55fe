import Spirv.Opcode.Basic

set_option autoImplicit false

/-!
# Kinds of opcode

What an opcode declares and where its result id stands. Operand positions count the words after
the opcode word, so an instruction with a result type has that type at 0 and its result at 1.
-/
namespace Spirv.Opcode

def isTypeDeclaration : Opcode → Bool
  | .typeVoid | .typeBool | .typeInt | .typeFloat | .typeVector | .typeMatrix | .typeImage
  | .typeSampler | .typeSampledImage | .typeArray | .typeRuntimeArray | .typeStruct | .typeOpaque
  | .typePointer | .typeFunction | .typeEvent | .typeDeviceEvent | .typeReserveId | .typeQueue
  | .typePipe | .typeTensorARM | .typeUntypedPointerKHR | .typeCooperativeMatrixKHR
  | .typeCooperativeVectorNV | .typeCooperativeMatrixNV | .typeRayQueryKHR
  | .typeAccelerationStructureKHR => true
  | _ => false

def isSpecConstant : Opcode → Bool
  | .specConstantTrue | .specConstantFalse | .specConstant | .specConstantComposite
  | .specConstantOp | .specConstantCompositeReplicateEXT => true
  | _ => false

def isPlainConstant : Opcode → Bool
  | .constantTrue | .constantFalse | .constant | .constantComposite | .constantSampler
  | .constantNull | .constantCompositeReplicateEXT | .constantFunctionPointerINTEL => true
  | _ => false

def isConstant (op : Opcode) : Bool := op.isPlainConstant || op.isSpecConstant

def isConstantOrUndef (op : Opcode) : Bool := op == .undef || op.isConstant

/-- Declarations of types with components. A tensor type is absent, since whether it has
components depends on its operands. -/
def isCompositeType : Opcode → Bool
  | .typeVector | .typeMatrix | .typeArray | .typeStruct | .typeCooperativeMatrixNV
  | .typeCooperativeMatrixKHR | .typeCooperativeVectorNV => true
  | _ => false

def isPointerType : Opcode → Bool
  | .typePointer | .typeUntypedPointerKHR => true
  | _ => false

def hasResultId : Opcode → Bool
  | .nop | .sourceContinued | .source | .sourceExtension | .name | .memberName | .line | .noLine
  | .extension | .memoryModel | .entryPoint | .executionMode | .executionModeId | .capability
  | .typeForwardPointer | .functionEnd | .store | .copyMemory | .copyMemorySized | .decorate
  | .decorateId | .memberDecorate | .groupDecorate | .groupMemberDecorate | .loopMerge
  | .selectionMerge | .branch | .branchConditional | .switch | .kill | .returnVoid | .returnValue
  | .unreachable | .imageWrite | .emitVertex | .endPrimitive | .emitStreamVertex
  | .endStreamPrimitive | .controlBarrier | .memoryBarrier | .atomicStore | .lifetimeStart
  | .lifetimeStop | .moduleProcessed | .terminateInvocation | .decorateString
  | .memberDecorateString | .unknown => false
  | _ => true

/-- Opcodes, type declarations apart, that define a result without a result type. -/
def hasBareResult : Opcode → Bool
  | .string | .extInstImport | .decorationGroup | .label => true
  | _ => false

def hasResultType (op : Opcode) : Bool :=
  op.hasResultId && !op.isTypeDeclaration && !op.hasBareResult

def resultIdIndex (op : Opcode) : Option Nat :=
  if op.hasResultId then some (if op.hasResultType then 1 else 0) else none

end Spirv.Opcode

namespace Spirv

inductive Family where
  | constant | function | other
  deriving DecidableEq, Repr

def Opcode.family (op : Opcode) : Family :=
  if op.isConstant then .constant
  else match op with
    | .function | .functionParameter | .functionCall | .cooperativeMatrixPerElementOpNV => .function
    | _ => .other

end Spirv
