import Spirv.Fault.Constant
import Spirv.Fault.Function
import Spirv.Module.Basic

set_option autoImplicit false

/-!
# Violations

A violation is a fault at an instruction. Rendered with names for the ids it becomes a diagnostic.
-/
namespace Spirv

inductive Fault where
  | constant (fault : ConstantFault)
  | function (fault : FunctionFault)
  deriving DecidableEq, Repr

namespace Fault

def kind : Fault → Diagnostic.Kind
  | .constant fault => fault.kind
  | .function fault => fault.kind

def ids (type : Id) : Fault → List Id
  | .constant fault => fault.ids type
  | .function fault => fault.ids type

def message (name : Id → String) (op : Opcode) (type : Id) : Fault → String
  | .constant fault => fault.message name op type
  | .function fault => fault.message name op type

end Fault

structure Violation where
  site : Instruction
  fault : Fault
  deriving DecidableEq, Repr

namespace Violation

def diagnostic (v : Violation) (name : Id → String) : Diagnostic :=
  Diagnostic.about v.site v.fault.kind (v.fault.ids v.site.typeIdOrZero)
    (v.fault.message name v.site.opcode v.site.typeIdOrZero)

end Violation
end Spirv
