import Spirv.Capability.Basic
import Spirv.Diagnostic
import Spirv.Fault.Composite

set_option autoImplicit false

/-!
# Faults of constants

How a constant can fail its rule.
-/
namespace Spirv

inductive ConstantFault where
  | notBoolean
  | notCompositeType
  | composite (fault : CompositeFault)
  | notSampler
  | notNullable
  | undefinedType
  | notNumeric
  | operationNeeds (operation : Opcode) (capability : Capability)
  | conversionNeedsKernel
  | pointerNeedsCapability
  | notFunctionPointer
  | targetNotFunction (function : Id)
  | targetType (function pointee : Id)
  | narrowNumeric
  deriving DecidableEq, Repr

namespace ConstantFault

def kind : ConstantFault → Diagnostic.Kind
  | .notNumeric => .invalidData
  | .pointerNeedsCapability => .invalidCapability
  | _ => .invalidId

def ids (type : Id) : ConstantFault → List Id
  | .composite fault => fault.ids type
  | .operationNeeds _ _ | .conversionNeedsKernel | .pointerNeedsCapability => []
  | .targetNotFunction f => [f]
  | .targetType f pointee => [f, pointee]
  | .notBoolean | .notCompositeType | .notSampler | .notNullable | .undefinedType | .notNumeric
  | .notFunctionPointer | .narrowNumeric => [type]

def message (name : Id → String) (op : Opcode) (type : Id) : ConstantFault → String
  | .notBoolean => op.text ++ " Result Type " ++ name type ++ " is not a boolean type."
  | .notCompositeType => op.text ++ " Result Type " ++ name type ++ " is not a composite type."
  | .composite fault => op.text ++ " " ++ fault.message name type
  | .notSampler => op.text ++ " Result Type " ++ name type ++ " must be OpTypeSampler."
  | .notNullable => op.text ++ " Result Type " ++ name type ++ " cannot have a null value."
  | .undefinedType => op.text ++ " Result Type " ++ name type ++ " is not defined."
  | .notNumeric => "Specialization constant must be an integer or floating-point number."
  | .operationNeeds operation capability =>
    "Specialization constant operation " ++ operation.text ++ " requires " ++ capability.text ++
      " capability"
  | .conversionNeedsKernel =>
    "Prior to SPIR-V 1.4, specialization constant operation UConvert requires Kernel " ++
      "capability or extension SPV_AMD_gpu_shader_int16"
  | .pointerNeedsCapability => op.text ++ " requires the FunctionPointersINTEL capability."
  | .notFunctionPointer =>
    op.text ++ " Result Type " ++ name type ++ " must be a pointer to a function type."
  | .targetNotFunction f => op.text ++ " Function " ++ name f ++ " is not an OpFunction."
  | .targetType f pointee =>
    op.text ++ " Function " ++ name f ++ "'s type does not match the pointee " ++ name pointee ++
      " of Result Type " ++ name type ++ "."
  | .narrowNumeric => "Cannot form constants of 8- or 16-bit types"

end ConstantFault
end Spirv
