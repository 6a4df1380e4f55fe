import Spirv.Constant.Value
import Spirv.Rule.Call

set_option autoImplicit false

/-!
# The rule for per-element operations

A per-element operation on a cooperative matrix applies a function to the row, the column and the
value of each component, and the function gives back a component.
-/
namespace Spirv.Module

/-- Whether the parameters begin with two 32-bit integers and a component. -/
def takesElement (m : Module) (component : Id) : List Id → Bool
  | row :: column :: element :: _ =>
    m.isInt32Type row && m.isInt32Type column && element == component
  | _ => false

def checkElementFunction (m : Module) (id : Id) (function : Instruction) (component : Id) :
    Except FunctionFault Unit :=
  match m.functionType? function with
  | none => .error (.missingType (some id))
  | some type => do
    require (type.operand 1 == some component) (.elementReturn id)
    require (m.takesElement component (type.operandsFrom 2)) (.elementParameters id)

def checkPerElement (m : Module) (i : Instruction) : Except FunctionFault Unit :=
  let id := i.operandOrZero 3
  match m.function? id with
  | none => .error (.notFunction id)
  | some function =>
    let matrixId := i.operandOrZero 2
    match m.definition? matrixId with
    | none => .error (.undefinedMatrix matrixId)
    | some matrix =>
      let matrixType := matrix.typeIdOrZero
      match (m.definition? matrixType).filter (·.opcode == .typeCooperativeMatrixKHR) with
      | none => .error (.notCooperativeMatrix matrixId)
      | some type => do
        require (matrixType == i.typeIdOrZero) (.matrixResult matrixId)
        m.checkElementFunction id function (type.operandOrZero 1)

end Spirv.Module
