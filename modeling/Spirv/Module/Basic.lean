import Spirv.Capability.Set
import Spirv.Instruction
import Spirv.MemoryModel
import Spirv.Version

set_option autoImplicit false

/-!
# Modules

A module is a sequence of instructions with the tables that its rules look things up in.
-/
namespace Spirv

structure Decoration where
  kind : Word
  /-- The operands after the kind. -/
  literals : List Word
  /-- The member of a struct type, when the decoration is not on the whole type. -/
  member : Option Word
  deriving DecidableEq, Repr

inductive ParameterSlot where
  /-- The position of the function, and the number of its parameters in front of this one. -/
  | inFunction (function index : Nat)
  | firstInstruction
  | noEnclosingFunction
  deriving DecidableEq, Repr

/-- Permissions that follow from the version, the capabilities and the extensions. -/
structure Features where
  /-- `OpUConvert` may be an operation on specialization constants also without `Kernel`. -/
  uConvertSpecConstantOp : Bool
  /-- One of the variable pointers capabilities is declared. -/
  variablePointers : Bool
  deriving DecidableEq, Repr

def decorationsIn (table : List (Id × Decoration)) (id : Id) : List Decoration :=
  (table.filter (·.1 == id)).map (·.2)

structure Module where
  version : Version
  instructions : List Instruction
  capabilities : CapabilitySet
  extensions : List String
  features : Features
  addressing : AddressingModel
  memory : Option MemoryModel
  /-- Each decoration with its target. -/
  decorations : List (Id × Decoration)
  /-- The slot of each parameter, under its position. -/
  parameters : List (Nat × ParameterSlot)
  /-- Debug names, the last one declared first. -/
  names : List (Id × String)
  deriving DecidableEq, Repr

namespace Module

def instruction? (m : Module) (position : Nat) : Option Instruction := m.instructions[position]?

def definition? (m : Module) (id : Id) : Option Instruction :=
  m.instructions.find? (·.resultId == some id)

def definitionCount (m : Module) : Nat := m.instructions.countP (·.resultId.isSome)

def typeDefinition? (m : Module) (i : Instruction) : Option Instruction :=
  i.typeId.bind m.definition?

def decorationsOf (m : Module) (id : Id) : List Decoration :=
  decorationsIn m.decorations id

def hasCapability (m : Module) (c : Capability) : Bool := m.capabilities.contains c

def hasExtension (m : Module) (name : String) : Bool := m.extensions.contains name

def parameterSlot? (m : Module) (position : Nat) : Option ParameterSlot :=
  m.parameters.lookup position

def nameOf? (m : Module) (id : Id) : Option String := m.names.lookup id

end Module

abbrev NameResolver := Module → Id → String

/-- The id's number, followed by its debug name when it has one. -/
def friendlyName : NameResolver := fun m id =>
  match m.nameOf? id with
  | some name => toString id ++ "[%" ++ name ++ "]"
  | none => toString id

end Spirv
