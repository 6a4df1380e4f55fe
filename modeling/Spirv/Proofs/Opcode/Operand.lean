import Mathlib.Data.List.Nodup
import Spirv.Proofs.Module.Indexed

set_option autoImplicit false

/-!
# Operands of an embedded operation

The operation that a specialization constant holds is laid out as in its own instruction, one operand
further on, whatever stands in front of it. So a constant whose operation is again one on
specialization constants is read through to the innermost operation.
-/
namespace Spirv.Opcode

/-! ### Numbers of opcodes -/

theorem mem_values (op : Opcode) : op ∈ values := by
  refine List.mem_of_getElem? (i := op.ctorIdx) ?_
  cases op <;> rfl

/-- The opcodes are listed in the order of their numbers. -/
theorem pairwise_values : (values.map value).Pairwise (· < ·) := by
  rw [← List.isChain_iff_pairwise]
  decide +kernel

theorem value_injective {op op' : Opcode} (h : op.value = op'.value) : op = op' := by
  have hnodup : (values.map value).Nodup := pairwise_values.imp Nat.ne_of_lt
  exact List.inj_on_of_nodup_map hnodup op.mem_values op'.mem_values h

theorem ofValue?_value (op : Opcode) : ofValue? op.value = some op := by
  cases hfind : ofValue? op.value with
  | none =>
    have hnot := List.find?_eq_none.mp hfind op op.mem_values
    simp at hnot
  | some op' =>
    have heq := List.find?_some hfind
    rw [value_injective (beq_iff_eq.mp heq)]

theorem value_lt (op : Opcode) : op.value < 65536 := by
  have hall : values.all (fun op => decide (op.value < 65536)) = true := by decide +kernel
  exact of_decide_eq_true (List.all_eq_true.mp hall op op.mem_values)

theorem ofValue?_toNat_ofNat (op : Opcode) :
    ofValue? (UInt32.ofNat op.value).toNat = some op := by
  have hlt := op.value_lt
  have hsize : UInt32.size = 4294967296 := rfl
  rw [UInt32.toNat_ofNat_of_lt' (by omega), ofValue?_value]

/-! ### Layouts behind the result -/

theorem resultIdIndex_lt {op : Opcode} {k : Nat} (h : op.resultIdIndex = some k) : k < 2 := by
  rw [resultIdIndex] at h
  split at h
  case isFalse => contradiction
  case isTrue =>
    obtain rfl := Option.some.inj h
    split <;> decide

theorem idPosition_congr (op : Opcode) {words words' : List Word}
    (h : words.drop 2 = words'.drop 2) (k : Nat) :
    op.idPosition words k = op.idPosition words' k := by
  unfold idPosition
  rw [h]

/-- Behind the first two words no layout depends on what these words are. -/
theorem operandIsId_congr (op : Opcode) (rest : List Word) {k : Nat} (hk : 2 ≤ k)
    (a b a' b' : Word) :
    op.operandIsId (a :: b :: rest) k = op.operandIsId (a' :: b' :: rest) k := by
  -- an embedded opcode takes the second word for its first one, so the words are not fixed
  induction rest generalizing op k a b a' b' with
  | nil =>
    by_cases hop : op = .specConstantOp
    · subst hop
      rfl
    · rw [operandIsId_of_ne hop, operandIsId_of_ne hop]
      exact op.idPosition_congr rfl k
  | cons n rest ih =>
    by_cases hop : op = .specConstantOp
    · subst hop
      obtain rfl | hlt := Nat.eq_or_lt_of_le hk
      · rfl
      · have hinner (inner : Opcode) : inner.operandIsId (b :: n :: rest) (k - 1) =
            inner.operandIsId (b' :: n :: rest) (k - 1) := ih inner (by omega) b n b' n
        simp only [operandIsId, hinner]
        rfl
    · rw [operandIsId_of_ne hop, operandIsId_of_ne hop]
      exact op.idPosition_congr rfl k

theorem isIdOperand_specConstantOp (op : Opcode) (rest : List Word) {k : Nat} (hk : 2 ≤ k)
    (t r t' r' : Word) :
    specConstantOp.isIdOperand (t :: r :: UInt32.ofNat op.value :: rest) (k + 1) =
      op.isIdOperand (t' :: r' :: rest) k := by
  have hresult : (op.resultIdIndex != some k) = true := by
    rw [bne_iff_ne]
    intro heq
    have hlt := resultIdIndex_lt heq
    omega
  have houter : (specConstantOp.resultIdIndex != some (k + 1)) = true := by
    have hindex : specConstantOp.resultIdIndex = some 1 := rfl
    rw [hindex, bne_iff_ne, Ne, Option.some.injEq]
    omega
  have hthree : 3 ≤ k + 1 := by omega
  have hoperand : specConstantOp.operandIsId (t :: r :: UInt32.ofNat op.value :: rest) (k + 1) =
      op.operandIsId (t' :: r' :: rest) k := by
    have hembedded : (r :: UInt32.ofNat op.value :: rest)[1]?.bind (fun w => ofValue? w.toNat) =
        some op := ofValue?_toNat_ofNat op
    rw [← op.operandIsId_congr rest hk r (UInt32.ofNat op.value) t' r', operandIsId, hembedded]
    simp [hthree]
  rw [isIdOperand, isIdOperand, hresult, houter, hoperand]
  simp

/-- An operation on specialization constants refers, behind its result, to what the embedded
instruction refers to, one operand further on. Embedded in itself, it moves the operands on with each
level. -/
theorem embedded_isIdOperand (op : Opcode) (rest : List Word) {k : Nat} (hk : 2 ≤ k)
    (t r t' r' : Word) :
    specConstantOp.isIdOperand (t :: r :: UInt32.ofNat op.value :: rest) (k + 1) =
        op.isIdOperand (t' :: r' :: rest) k ∧
      ∀ depth, specConstantOp.isIdOperand (t :: r ::
          (List.replicate depth (UInt32.ofNat specConstantOp.value) ++ UInt32.ofNat op.value :: rest))
          (k + depth + 1) = op.isIdOperand (t' :: r' :: rest) k := by
  refine ⟨isIdOperand_specConstantOp op rest hk t r t' r', fun depth => ?_⟩
  induction depth with
  | zero => exact isIdOperand_specConstantOp op rest hk t r t' r'
  | succ depth ih =>
    rw [List.replicate_succ, List.cons_append, ← ih]
    exact isIdOperand_specConstantOp _ _ (by omega) t r t r

/-- An entry point with the text of a name and one interface id, embedded once and three times. -/
theorem embeddedEntryPoint_isIdOperand :
    2 ≤ 4 ∧ entryPoint.isIdOperand [5, 4, 0x6E69616D, 0, 12] 4 = true ∧
      specConstantOp.isIdOperand [1, 2, 15, 0x6E69616D, 0, 12] 5 = true ∧
      specConstantOp.isIdOperand [1, 2, 52, 52, 15, 0x6E69616D, 0, 12] 7 = true := by
  have hentry : entryPoint.isIdOperand [5, 4, 0x6E69616D, 0, 12] 4 = true := by decide
  obtain ⟨honce, hnested⟩ :=
    embedded_isIdOperand .entryPoint [0x6E69616D, 0, 12] (by decide : 2 ≤ 4) 1 2 5 4
  exact ⟨by decide, hentry, honce.trans hentry, (hnested 2).trans hentry⟩

end Spirv.Opcode
