import Spirv.Opcode.Kind
import Spirv.Text.Literal

set_option autoImplicit false

/-!
# Operand words that are ids

`isIdOperand` tells the id references of an instruction from its literals, its enumerants and its
own result id.
-/
namespace Spirv.Opcode

/-- Whether operand `i` stands where this opcode has an id, for opcodes with a layout of their own.
A sampled image's mask word is a literal, and the operands that follow it are ids. -/
def idPosition (op : Opcode) (words : List Word) (i : Nat) : Bool :=
  match op with
  | .nop | .sourceContinued | .sourceExtension | .string | .extension | .extInstImport
  | .memoryModel | .capability | .noLine | .moduleProcessed | .typeVoid | .typeBool | .typeInt
  | .typeFloat | .typeSampler | .typeOpaque | .typeEvent | .typeDeviceEvent | .typeReserveId
  | .typeQueue | .typePipe | .typeUntypedPointerKHR | .typeRayQueryKHR
  | .typeAccelerationStructureKHR | .decorationGroup | .label | .emitVertex | .endPrimitive
  | .terminateInvocation | .unknown => false
  | .source => i == 2
  | .name | .memberName | .decorate | .decorateString | .memberDecorate | .memberDecorateString
  | .executionMode | .line | .typeForwardPointer | .selectionMerge | .lifetimeStart
  | .lifetimeStop => i == 0
  | .decorateId | .executionModeId => i != 1
  | .groupMemberDecorate => i == 0 || i % 2 == 1
  | .entryPoint => i == 1 || 2 + Literal.wordCount (words.drop 2) ≤ i
  | .typeVector | .typeMatrix | .typeImage | .typeSampledImage | .typeRuntimeArray => i == 1
  | .typePointer => i == 2
  | .constant | .constantSampler | .specConstant => i == 0
  | .var | .function => i == 0 || i == 3
  | .untypedVariableKHR => i == 0 || 3 ≤ i
  | .extInst => i == 0 || i == 2 || 4 ≤ i
  | .load | .compositeExtract | .copyMemorySized | .branchConditional | .arrayLength => i ≤ 2
  | .store | .copyMemory | .loopMerge => i ≤ 1
  | .compositeInsert | .vectorShuffle => i ≤ 3
  | .switch => i ≤ 1 || i % 2 == 1
  | .cooperativeMatrixReduceNV => i != 3
  | .cooperativeMatrixLoadTensorNV => i ≤ 4
  | .imageSampleImplicitLod | .imageSampleExplicitLod | .imageSampleProjImplicitLod
  | .imageSampleProjExplicitLod | .imageFetch | .imageRead => i != 4
  | .imageSampleDrefImplicitLod | .imageSampleDrefExplicitLod | .imageSampleProjDrefImplicitLod
  | .imageSampleProjDrefExplicitLod | .imageGather | .imageDrefGather => i != 5
  | .imageWrite => i != 3
  | _ => true

/-- Whether operand `i` stands where the instruction has an id. An operation on specialization
constants holds another opcode at 2, whose operands are laid out from 1 on as they are in that
opcode's own instruction; under a number without an opcode every operand is an id. -/
def operandIsId : Opcode → List Word → Nat → Bool
  | .specConstantOp, _ :: rest, i =>
    i == 0 || 3 ≤ i &&
      match rest[1]?.bind (fun w => ofValue? w.toNat) with
      | some inner => operandIsId inner rest (i - 1)
      | none => true
  | .specConstantOp, [], i => i == 0 || 3 ≤ i
  | op, words, i => op.idPosition words i

def isIdOperand (op : Opcode) (words : List Word) (i : Nat) : Bool :=
  i < words.length && op.resultIdIndex != some i && op.operandIsId words i

end Spirv.Opcode
