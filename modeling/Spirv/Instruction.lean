import Spirv.Opcode.Operand

set_option autoImplicit false

/-!
# Instructions

An instruction is an opcode and the words after it, the result type and the result id included.
What depends on the rest of a module, such as the position and the uses, is filled in when a module
is built.
-/
namespace Spirv

/-- A reference to an id: the position of the referring instruction and the operand. -/
structure Use where
  user : Nat
  operand : Nat
  deriving DecidableEq, Repr

structure Instruction where
  opcode : Opcode
  /-- The number that stood for the opcode, also when no opcode has it. -/
  rawOpcode : Nat
  words : List Word
  position : Nat := 0
  /-- Set on an extended instruction of a set that holds debug information. -/
  debugInfo : Bool := false
  /-- Set on an extended instruction of a set without meaning for the program. -/
  nonSemantic : Bool := false
  /-- The references to the result id. -/
  uses : List Use := []
  /-- No other instruction bears a mark. -/
  marks : (debugInfo || nonSemantic) = true → opcode = .extInst := by simp
  deriving DecidableEq, Repr

namespace Instruction

def ofOpcode (op : Opcode) (words : List Word) : Instruction :=
  { opcode := op, rawOpcode := op.value, words }

/-- Reads an opcode number. A number without an opcode gives an unknown instruction. -/
def ofRaw (raw : Nat) (words : List Word) : Instruction :=
  { opcode := (Opcode.ofValue? raw).getD .unknown, rawOpcode := raw, words }

def operand (i : Instruction) (k : Nat) : Option Word := i.words[k]?

/-- An operand, with 0 in the place of a missing one. No definition has the id 0. -/
def operandOrZero (i : Instruction) (k : Nat) : Word := (i.operand k).getD 0

def operandsFrom (i : Instruction) (k : Nat) : List Word := i.words.drop k

def resultId (i : Instruction) : Option Id := i.opcode.resultIdIndex.bind i.operand

def typeId (i : Instruction) : Option Id := if i.opcode.hasResultType then i.operand 0 else none

def typeIdOrZero (i : Instruction) : Id := i.typeId.getD 0

/-- The number of words in the binary form, the opcode word included. -/
def wordCount (i : Instruction) : Nat := i.words.length + 1

/-- Whether the instruction declares a memory object, if its result is a pointer. -/
def isMemoryDeclaration (i : Instruction) : Bool :=
  match i.opcode with
  | .var | .untypedVariableKHR | .functionParameter => true
  | _ => false

def isShapedTensor (i : Instruction) : Bool := i.opcode == .typeTensorARM && i.words.length == 4

/-- The ids this instruction refers to, each with its operand. -/
def idOperands (i : Instruction) : List (Nat × Id) :=
  i.words.zipIdx.filterMap fun (w, k) =>
    if i.opcode.isIdOperand i.words k then some (k, w) else none

def embeddedOpcode (i : Instruction) : Option Opcode :=
  (i.operand 2).bind fun w => Opcode.ofValue? w.toNat

end Instruction
end Spirv
