import Spirv.Instruction

set_option autoImplicit false

/-!
# Diagnostics

What is reported about an instruction that breaks a rule.
-/
namespace Spirv

namespace Diagnostic

inductive Kind where
  | invalidId | invalidData | invalidCapability | invalidLayout
  deriving DecidableEq, Repr

namespace Kind

def text : Kind → String
  | .invalidId => "INVALID_ID"
  | .invalidData => "INVALID_DATA"
  | .invalidCapability => "INVALID_CAPABILITY"
  | .invalidLayout => "INVALID_LAYOUT"

def values : List Kind := [.invalidId, .invalidData, .invalidCapability, .invalidLayout]

end Kind
end Diagnostic

structure Diagnostic where
  kind : Diagnostic.Kind
  message : String
  position : Nat
  opcode : Opcode
  /-- The ids involved, each of them once. -/
  ids : List Id := []
  deriving DecidableEq, Repr

namespace Diagnostic

/-- Adds ids behind the ones that are there, leaving out those that are there already. -/
def withIds (d : Diagnostic) (ids : List Id) : Diagnostic :=
  { d with ids := ids.foldl (fun known id => if id ∈ known then known else known ++ [id]) d.ids }

/-- A report about an instruction, whose result id comes first among the ids. -/
def about (i : Instruction) (kind : Kind) (ids : List Id) (message : String) : Diagnostic :=
  let bare : Diagnostic := { kind, message, position := i.position, opcode := i.opcode }
  (bare.withIds i.resultId.toList).withIds ids

def text (d : Diagnostic) : String :=
  d.kind.text ++ " at instruction " ++ toString d.position ++ " (" ++ d.opcode.text ++ "): " ++
    d.message

end Diagnostic
end Spirv
