import Mathlib.Data.List.Basic
import Spirv.Proofs.Checked.Basic
import Spirv.Proofs.Module.Indexed

set_option autoImplicit false

/-!
# Checked reading of operands

Which operands are ids is found out by slices of the words: the text of an entry point starts at 2,
and an operation on specialization constants is laid out from 1 on. Each slice is taken for an operand
behind its start, so it is in range for every operand that there is.
-/
namespace Spirv

namespace Literal

theorem wordCount_eq (ws : List Word) :
    wordCount ws = match ws.findIdx? (·.bytes.contains 0) with
      | some k => k + 1
      | none => ws.length := by
  induction ws with
  | nil => rfl
  | cons w ws ih =>
    rw [wordCount, List.findIdx?_cons]
    split
    · rfl
    · rw [ih]
      cases ws.findIdx? (·.bytes.contains 0) <;> rfl

theorem wordCount_le_length (ws : List Word) : wordCount ws ≤ ws.length := by
  induction ws with
  | nil => exact Nat.le_refl 0
  | cons w ws ih =>
    rw [wordCount, List.length_cons]
    split <;> omega

end Literal

namespace Checked

def wordCount (ws : List Word) : Checked Nat :=
  match ws.findIdx? (·.bytes.contains 0) with
  | some k => add k 1
  | none => .ok ws.length

theorem wordCount_eq_ok {ws : List Word} (h : ws.length < UInt64.size) :
    wordCount ws = .ok (Literal.wordCount ws) := by
  have hle := Literal.wordCount_le_length ws
  rw [Literal.wordCount_eq] at hle
  rw [wordCount, Literal.wordCount_eq]
  cases hfind : ws.findIdx? (·.bytes.contains 0) with
  | none => rfl
  | some k =>
    rw [hfind] at hle
    exact add_eq_ok (Nat.lt_of_le_of_lt hle h)

def entryPointOperandIsId (words : List Word) (k : Nat) : Checked Bool :=
  if k = 1 then .ok true
  else if 2 ≤ k then do
    let text ← sliceFrom words 2
    let count ← wordCount text
    let start ← add 2 count
    return start ≤ k
  else .ok false

/-- Whether an operand is an id. The operands of an embedded opcode are read from the words behind the
first one, in which it stands one place further to the front. -/
def operandIsId (op : Opcode) (words : List Word) (k : Nat) : Checked Bool :=
  if op = .entryPoint then entryPointOperandIsId words k
  else if op = .specConstantOp then
    if k = 0 then .ok true
    else if 3 ≤ k then
      match words[2]?.bind fun w => Opcode.ofValue? w.toNat with
      | none => .ok true
      | some inner =>
        match _hrest : sliceFrom words 1 with
        | .error abort => .error abort
        | .ok rest => do
          let before ← sub k 1
          operandIsId inner rest before
    else .ok false
  else .ok (op.idPosition words k)
termination_by words.length
decreasing_by
  obtain ⟨hle, rfl⟩ := of_sliceFrom_eq_ok _hrest
  rw [List.length_drop]
  omega

theorem entryPointOperandIsId_eq_ok {words : List Word} {k : Nat} (hk : k < words.length)
    (hlen : words.length < UInt64.size) :
    entryPointOperandIsId words k = .ok (Opcode.entryPoint.operandIsId words k) := by
  rw [Opcode.operandIsId_of_ne (by decide)]
  change _ = Except.ok (k == 1 || decide (2 + Literal.wordCount (words.drop 2) ≤ k))
  rw [entryPointOperandIsId]
  split
  case isTrue h1 => simp [h1]
  case isFalse h1 =>
    split
    case isTrue h2 =>
      have hle := Literal.wordCount_le_length (words.drop 2)
      rw [List.length_drop] at hle
      rw [sliceFrom_eq_ok (by omega), ok_bind, wordCount_eq_ok (by rw [List.length_drop]; omega),
        ok_bind, add_eq_ok (by omega), ok_bind]
      simp [h1]
    case isFalse h2 =>
      have hnot : ¬ 2 + Literal.wordCount (words.drop 2) ≤ k := by omega
      simp [h1, hnot]

/-- No slice is out of range for an operand that there is. -/
theorem operandIsId_eq_ok {words : List Word} (hlen : words.length < UInt64.size) (op : Opcode)
    {k : Nat} (hk : k < words.length) : operandIsId op words k = .ok (op.operandIsId words k) := by
  induction words generalizing op k with
  | nil => exact absurd hk (Nat.not_lt_zero k)
  | cons w rest ih =>
    rw [operandIsId]
    split
    case isTrue hop =>
      rw [hop]
      exact entryPointOperandIsId_eq_ok hk hlen
    case isFalse hentry =>
      split
      case isFalse hop => rw [Opcode.operandIsId_of_ne hop]
      case isTrue hop =>
        subst hop
        rw [Opcode.operandIsId, List.getElem?_cons_succ]
        split
        case isTrue h0 => simp [h0]
        case isFalse h0 =>
          split
          case isFalse h3 => simp [h0, h3]
          case isTrue h3 =>
            cases rest[1]?.bind fun w => Opcode.ofValue? w.toNat with
            | none => simp [h3]
            | some inner =>
              have hslice : sliceFrom (w :: rest) 1 = .ok rest := sliceFrom_eq_ok (by simp)
              have hinner := ih (Nat.lt_of_succ_lt hlen) inner (k := k - 1) (by simp at hk; omega)
              dsimp only
              split
              case h_1 abort habort => simp [hslice] at habort
              case h_2 rest' hrest =>
                obtain rfl := Except.ok.inj (hslice.symm.trans hrest)
                rw [sub_eq_ok (by omega), ok_bind, hinner]
                simp [h0, h3]

def isIdOperand (op : Opcode) (words : List Word) (k : Nat) : Checked Bool :=
  if words.length ≤ k ∨ op.resultIdIndex = some k then .ok false else operandIsId op words k

theorem isIdOperand_eq_ok {words : List Word} (hlen : words.length < UInt64.size) (op : Opcode)
    (k : Nat) : isIdOperand op words k = .ok (op.isIdOperand words k) := by
  rw [isIdOperand, Opcode.isIdOperand]
  split
  case isTrue h =>
    obtain hk | hresult := h
    · simp [Nat.not_lt_of_le hk]
    · simp [hresult]
  case isFalse h =>
    obtain ⟨hk, hresult⟩ := not_or.mp h
    rw [operandIsId_eq_ok hlen op (Nat.lt_of_not_le hk)]
    simp [Nat.lt_of_not_le hk, hresult]

def idOperands (i : Instruction) : Checked (List (Nat × Id)) :=
  gather (fun p => do
    let isId ← isIdOperand i.opcode i.words p.2
    return if isId then [(p.2, p.1)] else []) i.words.zipIdx

theorem idOperands_eq_ok {i : Instruction} (hlen : i.words.length < UInt64.size) :
    idOperands i = .ok i.idOperands := by
  have hone : ∀ p ∈ i.words.zipIdx, (do
      let isId ← isIdOperand i.opcode i.words p.2
      return if isId then [(p.2, p.1)] else []) =
        (.ok (if i.opcode.isIdOperand i.words p.2 then [(p.2, p.1)] else []) :
          Checked (List (Nat × Id))) := by
    intro p _
    rw [isIdOperand_eq_ok hlen, ok_bind, pure_eq_ok]
  rw [idOperands, gather_eq_ok hone, Instruction.idOperands, List.filterMap_eq_flatMap_toList]
  congr 2
  funext p
  cases h : i.opcode.isIdOperand i.words p.2 <;> simp [h]

end Checked
end Spirv
