import Spirv.Rule.Basic
import Spirv.Type.Shape
import Spirv.Violation

set_option autoImplicit false

/-!
# The rules for functions and their parameters

A function has the return type that its function type declares, and only some instructions may
refer to it. Its parameters have the types that the function type lists, in order.
-/
namespace Spirv.Module

def mayUseFunction (m : Module) (user : Instruction) : Bool :=
  match user.opcode with
  | .groupDecorate | .decorate | .enqueueKernel | .entryPoint | .executionMode | .executionModeId
  | .functionCall | .getKernelNDrangeSubGroupCount | .getKernelNDrangeMaxSubGroupSize
  | .getKernelWorkGroupSize | .getKernelPreferredWorkGroupSizeMultiple
  | .getKernelLocalSizeForSubgroupCount | .getKernelMaxNumSubgroups | .name
  | .cooperativeMatrixPerElementOpNV | .cooperativeMatrixReduceNV
  | .cooperativeMatrixLoadTensorNV => true
  | .constantFunctionPointerINTEL => m.hasCapability .functionPointersINTEL
  | _ => user.debugInfo || user.nonSemantic

def forbiddenUser? (m : Module) (function : Instruction) : Option Instruction :=
  (function.uses.filterMap fun u => m.instruction? u.user).find? fun user => !m.mayUseFunction user

def checkSignature (m : Module) (i : Instruction) : Except FunctionFault Unit :=
  let id := i.operandOrZero 3
  match m.functionType? i with
  | none => .error (.notFunctionType id)
  | some type =>
    let declared := type.operandOrZero 1
    require (declared == i.typeIdOrZero) (.returnType declared id)

/-- Checks a function. A forbidden reference is a violation by the instruction that refers. -/
def checkFunction (m : Module) (i : Instruction) : Except Violation Unit := do
  (m.checkSignature i).mapError fun fault => ⟨i, .function fault⟩
  match m.forbiddenUser? i with
  | none => .ok ()
  | some user => .error ⟨user, .function (.invalidUse (i.resultId.getD 0))⟩

def checkParameterOf (m : Module) (i : Instruction) (position index : Nat) :
    Except FunctionFault Unit :=
  match m.instruction? position with
  | none => .error (.missingType none)
  | some function =>
    match m.functionType? function with
    | none => .error (.missingType none)
    | some type =>
      let parameters := type.operandsFrom 2
      match parameters[index]? with
      | none => .error (.tooManyParameters (function.resultId.getD 0) parameters.length)
      | some expected => require (i.typeIdOrZero == expected) (.parameterType expected)

def checkParameter (m : Module) (i : Instruction) : Except FunctionFault Unit :=
  match m.parameterSlot? i.position with
  | some (.inFunction position index) => m.checkParameterOf i position index
  | some .firstInstruction => .error .firstInstruction
  | some .noEnclosingFunction | none => .error .noEnclosingFunction

end Spirv.Module
