import Spirv.Module.Decoration
import Spirv.Module.Parameter

set_option autoImplicit false

/-!
# Building modules

`Module.build` numbers the instructions, checks that each result id is there and is the only one of
its kind, and fills the tables. Each table depends on the whole sequence, so a reference may stand
in front of the definition it names.
-/
namespace Spirv

inductive BuildError where
  | missingResult (opcode : Opcode) (position : Nat)
  | zeroResult (opcode : Opcode) (position : Nat)
  | duplicate (id : Id)
  deriving DecidableEq, Repr

def BuildError.message : BuildError → String
  | .missingResult op n => op.text ++ " at position " ++ toString n ++ " is missing its result id"
  | .zeroResult op n => op.text ++ " at position " ++ toString n ++ " defines id 0"
  | .duplicate id => "Id " ++ toString id ++ " is defined more than once"

namespace Module

/-- Numbers the instructions and forgets their uses. -/
def place (is : List Instruction) : List Instruction :=
  is.zipIdx.map fun (i, n) => { i with position := n, uses := [] }

def checkResults : List Id → List Instruction → Except BuildError Unit
  | _, [] => .ok ()
  | seen, i :: rest =>
    match i.opcode.resultIdIndex with
    | none => checkResults seen rest
    | some k =>
      match i.operand k with
      | none => .error (.missingResult i.opcode i.position)
      | some id =>
        if id = 0 then .error (.zeroResult i.opcode i.position)
        else if id ∈ seen then .error (.duplicate id)
        else checkResults (id :: seen) rest

def importedSet? (is : List Instruction) (id : Id) : Option String :=
  (is.find? fun i => i.opcode == .extInstImport && i.resultId == some id).map fun i =>
    Literal.decode (i.operandsFrom 1)

def isDebugInfoSet (name : String) : Bool :=
  ["DebugInfo", "OpenCL.DebugInfo.100", "NonSemantic.Shader.DebugInfo.100"].contains name

def isNonSemanticSet (name : String) : Bool := "NonSemantic.".toList.isPrefixOf name.toList

def classify (is : List Instruction) (i : Instruction) : Instruction :=
  if h : i.opcode = .extInst then
    match (i.operand 2).bind (importedSet? is) with
    | some name =>
      { i with
        debugInfo := i.debugInfo || isDebugInfoSet name
        nonSemantic := i.nonSemantic || isNonSemanticSet name
        marks := fun _ => h }
    | none => i
  else i

def references (is : List Instruction) : List (Id × Use) :=
  is.flatMap fun i => i.idOperands.map fun (k, id) => (id, ⟨i.position, k⟩)

def link (refs : List (Id × Use)) (i : Instruction) : Instruction :=
  match i.resultId with
  | some id => { i with uses := (refs.filter (·.1 == id)).map (·.2) }
  | none => i

def declaredCapability? (i : Instruction) : Option Capability :=
  if i.opcode == .capability then (i.operand 0).bind fun w => Capability.ofValue? w.toNat else none

def declaredExtension? (i : Instruction) : Option String :=
  if i.opcode == .extension then some (Literal.decode i.words) else none

def declaredName? (i : Instruction) : Option (Id × String) :=
  if i.opcode == .name then
    (i.operand 0).map fun target => (target, Literal.decode (i.operandsFrom 1))
  else none

def nextAddressing (current : AddressingModel) (i : Instruction) : AddressingModel :=
  if i.opcode == .memoryModel then
    ((i.operand 0).bind fun w => AddressingModel.ofValue? w.toNat).getD current
  else current

/-- The memory model after an instruction. A number without a memory model leaves none. -/
def nextMemory (current : Option MemoryModel) (i : Instruction) : Option MemoryModel :=
  if i.opcode == .memoryModel then (i.operand 1).bind fun w => MemoryModel.ofValue? w.toNat
  else current

end Module

def Features.derive (version : Version) (capabilities : CapabilitySet)
    (extensions : List String) : Features where
  uConvertSpecConstantOp :=
    version.atLeast .v1_4 || extensions.contains "SPV_AMD_gpu_shader_int16"
  variablePointers :=
    capabilities.contains .variablePointers || capabilities.contains .variablePointersStorageBuffer

def Module.assemble (version : Version) (addressing : AddressingModel)
    (placed : List Instruction) : Module :=
  let capabilities := CapabilitySet.ofList (placed.filterMap declaredCapability?)
  let extensions := placed.filterMap declaredExtension?
  { version
    instructions := (placed.map (classify placed)).map (link (references placed))
    capabilities
    extensions
    features := Features.derive version capabilities extensions
    addressing := placed.foldl nextAddressing addressing
    memory := placed.foldl nextMemory none
    decorations := DecorationTable.ofInstructions placed
    parameters := ParameterTable.ofInstructions placed
    names := (placed.filterMap declaredName?).reverse }

/-- Builds a module, with `addressing` as the addressing model unless an instruction declares
another one. -/
def Module.build (version : Version) (addressing : AddressingModel) (is : List Instruction) :
    Except BuildError Module := do
  checkResults [] (place is)
  return assemble version addressing (place is)

end Spirv
