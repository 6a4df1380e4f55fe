import Spirv.Proofs.Constant.Value
import Spirv.Proofs.Module.Uses

set_option autoImplicit false

/-!
# The references of a switch

A switch holds a selector, a default label, and cases that consist of a literal and a label. A
literal takes as many words as an integer of the selector's width, but the operands are told apart
by their index alone: from the third one on each second operand is read as a label. That is right
for literals of one word. With longer literals a word of a literal may pass for a reference, and a
label for a literal.
-/
namespace Spirv

structure SwitchCase where
  literal : List Word
  label : Id

def SwitchCase.words (c : SwitchCase) : List Word := c.literal ++ [c.label]

/-- The labels of cases whose words begin at operand `k`, each behind its operand. -/
def caseLabels : Nat → List SwitchCase → List (Nat × Id)
  | _, [] => []
  | k, c :: cases =>
    (k + c.literal.length, c.label) :: caseLabels (k + c.literal.length + 1) cases

def switchReferences (selector default : Id) (cases : List SwitchCase) : List (Nat × Id) :=
  (0, selector) :: (1, default) :: caseLabels 2 cases

def literalSize (width : Word) : Nat := (width.toNat + 31) / 32

theorem le_of_mem_caseLabels {n k : Nat} {id : Id} {cases : List SwitchCase}
    (h : (k, id) ∈ caseLabels n cases) : n ≤ k := by
  induction cases generalizing n with
  | nil => contradiction
  | cons c cases ih =>
    rw [caseLabels, List.mem_cons, Prod.mk.injEq] at h
    rcases h with ⟨rfl, -⟩ | h
    · omega
    · have hle := ih h
      omega

theorem pairwise_caseLabels (n : Nat) (cases : List SwitchCase) :
    (caseLabels n cases).Pairwise fun a b => a.1 < b.1 := by
  induction cases generalizing n with
  | nil => exact .nil
  | cons c cases ih =>
    refine .cons (fun b hb => ?_) (ih _)
    exact Nat.lt_of_succ_le (le_of_mem_caseLabels hb)

/-- In a sequence of cases whose literals have `size` words, a label is the word behind a literal. -/
theorem mem_caseLabels_iff {size n k : Nat} {id : Id} {cases : List SwitchCase}
    (hsize : ∀ c ∈ cases, c.literal.length = size) :
    (n + k, id) ∈ caseLabels n cases ↔
      (cases.flatMap SwitchCase.words)[k]? = some id ∧ k % (size + 1) = size := by
  induction cases generalizing n k with
  | nil => simp [caseLabels]
  | cons c cases ih =>
    have hc : c.literal.length = size := hsize c List.mem_cons_self
    have hcases : ∀ c ∈ cases, c.literal.length = size :=
      fun c hc => hsize c (List.mem_cons_of_mem _ hc)
    have hwords : (c.literal ++ [c.label]).length = size + 1 := by simp [hc]
    have hhere : n + k = n + size ↔ k = size := by omega
    rw [caseLabels, List.mem_cons, Prod.mk.injEq, List.flatMap_cons, SwitchCase.words, hc, hhere]
    -- a word of the first case is in its literal or is its label
    obtain hlt | rfl | hgt := Nat.lt_trichotomy k size
    · have hmem : (n + k, id) ∉ caseLabels (n + size + 1) cases := fun h => by
        have hle := le_of_mem_caseLabels h
        omega
      have hmod : k % (size + 1) = k := Nat.mod_eq_of_lt (by omega)
      simp [hmem, hmod, Nat.ne_of_lt hlt]
    · have hmem : (n + k, id) ∉ caseLabels (n + k + 1) cases := fun h => by
        have hle := le_of_mem_caseLabels h
        omega
      simp [hmem, hc, eq_comm]
    · obtain ⟨k, rfl⟩ := Nat.exists_eq_add_of_lt hgt
      have hindex : n + (size + k + 1) = n + size + 1 + k := by omega
      have hmod : (size + k + 1) % (size + 1) = k % (size + 1) := by
        rw [Nat.add_right_comm, Nat.add_mod_left]
      have hrest : size + k + 1 - (size + 1) = k := by omega
      rw [List.getElem?_append_right (by omega), hwords, hrest, hindex, ih hcases, hmod]
      simp only [Nat.ne_of_gt hgt, false_and, false_or]

namespace Module

variable {m : Module}

/-- The uses that are recorded from an instruction are those of its references, in order. -/
def RecordsUses (m : Module) (i : Instruction) (refs : List (Nat × Id)) : Prop :=
  ∀ id d, m.definition? id = some d →
    d.uses.filter (·.user == i.position) =
      (refs.filter (·.2 == id)).map fun r => ⟨i.position, r.1⟩

structure IsSwitch (m : Module) (i : Instruction) (selector default : Id) (width : Word)
    (cases : List SwitchCase) : Prop where
  opcode : i.opcode = .switch
  selector_width : m.IsInteger selector width
  words : i.words = selector :: default :: cases.flatMap SwitchCase.words
  literals : ∀ c ∈ cases, c.literal.length = literalSize width

theorem Indexed.mem_uses_iff (hm : m.Indexed) {i d : Instruction} {id : Id} {k : Nat}
    (hi : i ∈ m.instructions) (hd : m.definition? id = some d) :
    ⟨i.position, k⟩ ∈ d.uses ↔ (k, id) ∈ i.idOperands := by
  obtain ⟨hmem, hid⟩ := mem_of_definition? hd
  rw [(hm.listsUses hmem hid).mem_iff, i.mem_idOperands_iff, and_comm]
  constructor
  · rintro ⟨j, hj, hop⟩
    obtain rfl := Option.some.inj ((hm.instruction?_position hi).symm.trans hj)
    exact hop
  · exact fun hop => ⟨i, hm.instruction?_position hi, hop⟩

/-- References in the order of their operands are the recorded ones if they name the same defined
ids at the same operands. -/
theorem Indexed.recordsUses_iff (hm : m.Indexed) {i : Instruction} (hi : i ∈ m.instructions)
    {refs : List (Nat × Id)} (hrefs : refs.Pairwise fun a b => a.1 < b.1) :
    m.RecordsUses i refs ↔
      ∀ id d, m.definition? id = some d → ∀ k, (k, id) ∈ i.idOperands ↔ (k, id) ∈ refs := by
  refine forall₃_congr fun id d hd => ?_
  obtain ⟨hmem, hid⟩ := mem_of_definition? hd
  have hleft (u : Use) : u ∈ d.uses.filter (·.user == i.position) ↔
      u.user = i.position ∧ (u.operand, id) ∈ i.idOperands := by
    rw [List.mem_filter, beq_iff_eq, ← hm.mem_uses_iff hi hd, and_comm]
    refine and_congr_right fun h => ?_
    rw [← h]
  have hright (u : Use) : u ∈ (refs.filter (·.2 == id)).map (fun r => ⟨i.position, r.1⟩) ↔
      u.user = i.position ∧ (u.operand, id) ∈ refs := by
    simp only [List.mem_map, List.mem_filter, beq_iff_eq, Prod.exists]
    constructor
    · rintro ⟨k, _, ⟨hk, rfl⟩, rfl⟩
      exact ⟨rfl, hk⟩
    · rintro ⟨huser, hk⟩
      exact ⟨u.operand, id, ⟨hk, rfl⟩, by rw [← huser]⟩
  constructor
  · intro heq k
    have h := hleft ⟨i.position, k⟩
    rw [heq, hright] at h
    simpa using h.symm
  · intro hall
    refine Use.eq_of_mem_iff ((hm.listsUses hmem hid).ordered.filter _) ?_ fun u => ?_
    · rw [List.pairwise_map]
      exact (hrefs.filter _).imp fun hlt => Or.inr ⟨rfl, hlt⟩
    · rw [hleft, hright, hall]

namespace IsSwitch

variable {i : Instruction} {selector default : Id} {width : Word} {cases : List SwitchCase}

theorem mem_idOperands_iff (h : m.IsSwitch i selector default width cases) {k : Nat} {id : Id} :
    (k, id) ∈ i.idOperands ↔ i.operand k = some id ∧ (k ≤ 1 ∨ k % 2 = 1) := by
  rw [i.mem_idOperands_iff]
  refine and_congr_right fun hk => ?_
  obtain ⟨hlt, -⟩ := List.getElem?_eq_some_iff.mp hk
  have hresult : Opcode.switch.resultIdIndex = none := rfl
  have hposition : Opcode.switch.idPosition i.words k = (decide (k ≤ 1) || k % 2 == 1) := rfl
  rw [Opcode.isIdOperand, h.opcode, Opcode.operandIsId_of_ne (by decide), hresult, hposition]
  simp [hlt]

theorem mem_references_iff (h : m.IsSwitch i selector default width cases) {k : Nat} {id : Id} :
    (k, id) ∈ switchReferences selector default cases ↔
      i.operand k = some id ∧
        (k ≤ 1 ∨ (k - 2) % (literalSize width + 1) = literalSize width) := by
  rw [Instruction.operand, h.words, switchReferences]
  have hfront (n : Nat) (hn : n < 2) : (n, id) ∉ caseLabels 2 cases := fun hmem => by
    have hle := le_of_mem_caseLabels hmem
    omega
  rcases k with _ | _ | k
  · simp [hfront 0, eq_comm]
  · simp [hfront 1, eq_comm]
  · have hmem : (k + 2, id) ∈ caseLabels 2 cases ↔ (cases.flatMap SwitchCase.words)[k]? = some id ∧
        k % (literalSize width + 1) = literalSize width := by
      rw [Nat.add_comm, mem_caseLabels_iff h.literals]
    simp [hmem]

theorem pairwise_references :
    (switchReferences selector default cases).Pairwise fun a b => a.1 < b.1 := by
  have hle (r : Nat × Id) (hr : r ∈ caseLabels 2 cases) : 2 ≤ r.1 := le_of_mem_caseLabels hr
  refine .cons (fun r hr => ?_) (.cons (fun r hr => ?_) (pairwise_caseLabels 2 cases))
  · rcases List.mem_cons.mp hr with rfl | hr
    · exact Nat.zero_lt_one
    · exact Nat.zero_lt_of_lt (hle r hr)
  · exact hle r hr

end IsSwitch

/-- Operand `k` of a switch, behind the default label, is read as an id and is none, or the other way
round, when the literals have `size` words. -/
def Misread (size k : Nat) : Prop :=
  2 ≤ k ∧ ¬ (k % 2 = 1 ↔ (k - 2) % (size + 1) = size)

theorem not_misread_one (k : Nat) : ¬ Misread 1 k := by
  unfold Misread
  omega

theorem not_misread_iff {size k : Nat} :
    ¬ Misread size k ↔ (k ≤ 1 ∨ k % 2 = 1 ↔ k ≤ 1 ∨ (k - 2) % (size + 1) = size) := by
  rw [Misread, not_and, not_not]
  by_cases hk : k ≤ 1
  · have htwo : ¬ 2 ≤ k := by omega
    simp [hk, htwo]
  · have htwo : 2 ≤ k := by omega
    simp [hk, htwo]

/-- The uses of a switch are its references if its selector has at most 32 bits, and otherwise
exactly if no operand that is misread names a definition. -/
theorem switchUses_iff {v : Version} {addressing : AddressingModel} {is : List Instruction}
    (hbuild : build v addressing is = .ok m) {i : Instruction} (hi : i ∈ m.instructions)
    {selector default : Id} {width : Word} {cases : List SwitchCase}
    (h : m.IsSwitch i selector default width cases) :
    m.RecordsUses i (switchReferences selector default cases) ↔
      (1 ≤ width.toNat ∧ width.toNat ≤ 32) ∨ ∀ k id, i.operand k = some id →
        Misread (literalSize width) k → m.definition? id = none := by
  rw [(indexed_of_build hbuild).recordsUses_iff hi IsSwitch.pairwise_references]
  simp only [h.mem_idOperands_iff, h.mem_references_iff, and_congr_right_iff, ← not_misread_iff]
  constructor
  · intro hall
    refine Or.inr fun k id hk hmisread => ?_
    rw [Option.eq_none_iff_forall_ne_some]
    exact fun d hd => hall id d hd k hk hmisread
  · rintro (⟨hpos, hle⟩ | hnone) id d hd k hk hmisread
    · have hsize : literalSize width = 1 := by
        rw [literalSize]
        omega
      rw [hsize] at hmisread
      exact not_misread_one k hmisread
    · have hundefined := hnone k id hk hmisread
      rw [hd] at hundefined
      contradiction

def switching (width : Word) (value words : List Word) : List Instruction :=
  [.ofOpcode .capability [1], .ofOpcode .capability [11], .ofOpcode .typeInt [1, width, 0],
    .ofOpcode .typeVoid [2], .ofOpcode .typeFunction [3, 2],
    .ofOpcode .constant ([1, 4] ++ value), .ofOpcode .function [2, 5, 0, 3], .ofOpcode .label [6],
    .ofOpcode .switch (4 :: words), .ofOpcode .label [7], .ofOpcode .returnVoid [],
    .ofOpcode .functionEnd []]

/-- A literal of one word that is the id of the function. -/
theorem narrowSwitch_recordsUses :
    ∃ m i, build .v1_6 .logical (switching 32 [0] [7, 5, 7]) = .ok m ∧ i ∈ m.instructions ∧
      m.IsSwitch i 4 7 32 [⟨[5], 7⟩] ∧ m.validate .standard = .ok () ∧
      m.RecordsUses i [(0, 4), (1, 7), (3, 7)] := by
  let m := assemble .v1_6 .logical (place (switching 32 [0] [7, 5, 7]))
  have hbuild : build .v1_6 .logical (switching 32 [0] [7, 5, 7]) = .ok m := rfl
  have hi : m.instructions[8] ∈ m.instructions := List.getElem_mem _
  have h : m.IsSwitch m.instructions[8] 4 7 32 [⟨[5], 7⟩] :=
    ⟨rfl, ⟨m.instructions[5], m.instructions[2], rfl, rfl, rfl, rfl⟩, rfl, by decide⟩
  exact ⟨m, _, hbuild, hi, h, rfl, (switchUses_iff hbuild hi h).mpr (Or.inl (by decide))⟩

/-- The high word of a literal of two words is the id of the function. It is recorded as a use, for
which the module is rejected, and the label behind it is not recorded. -/
theorem wideSwitch_not_recordsUses :
    ∃ m i, build .v1_6 .logical (switching 64 [0, 0] [7, 0, 5, 7]) = .ok m ∧ i ∈ m.instructions ∧
      m.IsSwitch i 4 7 64 [⟨[0, 5], 7⟩] ∧ m.validate .standard ≠ .ok () ∧
      ¬ m.RecordsUses i [(0, 4), (1, 7), (4, 7)] := by
  let m := assemble .v1_6 .logical (place (switching 64 [0, 0] [7, 0, 5, 7]))
  have h : m.IsSwitch m.instructions[8] 4 7 64 [⟨[0, 5], 7⟩] :=
    ⟨rfl, ⟨m.instructions[5], m.instructions[2], rfl, rfl, rfl, rfl⟩, rfl, by decide⟩
  have hrejected : m.validate .standard ≠ .ok () := by decide
  refine ⟨m, _, rfl, List.getElem_mem _, h, hrejected, fun hrecords => ?_⟩
  have huse : [Use.mk 8 3] = [] := hrecords 5 m.instructions[6] rfl
  exact List.cons_ne_nil _ _ huse

end Module
end Spirv
