import Spirv.Diagnostic

set_option autoImplicit false

/-!
# Faults of functions

How a function, a function parameter, a call or a per-element operation can fail its rule.
-/
namespace Spirv

inductive FunctionFault where
  | notFunctionType (id : Id)
  | returnType (declared functionType : Id)
  | invalidUse (function : Id)
  | firstInstruction
  | noEnclosingFunction
  /-- The function type is missing; a call also names the function. -/
  | missingType (function : Option Id)
  | tooManyParameters (function : Id) (expected : Nat)
  | parameterType (expected : Id)
  | notFunction (id : Id)
  | callResult (callee : Id)
  | argumentCount (callee : Id)
  | undefinedArgument (argument : Id)
  | undefinedArgumentType (argument : Id)
  | argumentType (argument callee : Id)
  | needsVariablePointers (argument : Id)
  | storageClass (argument : Id)
  | notDeclaration (argument : Id)
  | undefinedMatrix (matrix : Id)
  | notCooperativeMatrix (matrix : Id)
  | matrixResult (matrix : Id)
  | elementReturn (function : Id)
  | elementParameters (function : Id)
  deriving DecidableEq, Repr

namespace FunctionFault

def kind : FunctionFault → Diagnostic.Kind
  | .firstInstruction | .noEnclosingFunction => .invalidLayout
  | _ => .invalidId

def ids (type : Id) : FunctionFault → List Id
  | .firstInstruction | .noEnclosingFunction => []
  | .missingType function => function.toList
  | .returnType _ functionType => [type, functionType]
  | .parameterType expected => [type, expected]
  | .callResult id | .matrixResult id => [type, id]
  | .argumentType argument callee => [argument, callee]
  | .notFunctionType id | .invalidUse id | .tooManyParameters id _ | .notFunction id
  | .argumentCount id | .undefinedArgument id | .undefinedArgumentType id
  | .needsVariablePointers id | .storageClass id | .notDeclaration id | .undefinedMatrix id
  | .notCooperativeMatrix id | .elementReturn id | .elementParameters id => [id]

def message (name : Id → String) (op : Opcode) (type : Id) : FunctionFault → String
  | .notFunctionType id => op.text ++ " Function Type " ++ name id ++ " is not a function type."
  | .returnType declared _ =>
    op.text ++ " Result Type " ++ name type ++
      " does not match the Function Type's return type " ++ name declared ++ "."
  | .invalidUse f => "Invalid use of function result id " ++ name f ++ "."
  | .firstInstruction => "Function parameter cannot be the first instruction."
  | .noEnclosingFunction => "Function parameter must be preceded by a function."
  | .missingType _ => "Missing function type definition."
  | .tooManyParameters f expected =>
    "Too many OpFunctionParameters for " ++ name f ++ ": expected " ++ toString expected ++
      " based on the function's type"
  | .parameterType _ =>
    op.text ++ " Result Type " ++ name type ++
      " does not match the OpTypeFunction parameter type of the same index."
  | .notFunction id => op.text ++ " Function " ++ name id ++ " is not a function."
  | .callResult callee =>
    op.text ++ " Result Type " ++ name type ++ "'s type does not match Function " ++
      name callee ++ "'s return type."
  | .argumentCount callee =>
    op.text ++ " Function " ++ name callee ++
      "'s parameter count does not match the argument count."
  | .undefinedArgument a => "Missing argument " ++ name a ++ " definition."
  | .undefinedArgumentType a => "Missing argument " ++ name a ++ " type definition."
  | .argumentType a callee =>
    op.text ++ " Argument " ++ name a ++ "'s type does not match Function " ++ name callee ++
      "'s parameter type."
  | .needsVariablePointers a =>
    "StorageBuffer pointer operand " ++ name a ++ " requires a variable pointers capability"
  | .storageClass a => "Invalid storage class for pointer operand " ++ name a
  | .notDeclaration a => "Pointer operand " ++ name a ++ " must be a memory object declaration"
  | .undefinedMatrix m => op.text ++ " Matrix " ++ name m ++ " is not defined."
  | .notCooperativeMatrix m => op.text ++ " Matrix " ++ name m ++ " must be a cooperative matrix."
  | .matrixResult m =>
    op.text ++ " Result Type " ++ name type ++ " must match the type of Matrix " ++ name m ++ "."
  | .elementReturn f =>
    op.text ++ " Function " ++ name f ++
      "'s return type must match the matrix component type."
  | .elementParameters f =>
    op.text ++ " Function " ++ name f ++ " must take a 32-bit integer row, a 32-bit integer " ++
      "column and the matrix component type."

end FunctionFault
end Spirv
