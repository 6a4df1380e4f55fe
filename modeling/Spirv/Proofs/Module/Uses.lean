import Mathlib.Data.List.Sort
import Spirv.Proofs.Module.Layout

set_option autoImplicit false

/-!
# The uses of a definition

The use list of an instruction in a built module holds each reference to its result id once, in the
order of the module, whatever the uses of the instruction were before.
-/
namespace Spirv

/-- The order of references: by the referring instruction, then by the operand. -/
def Use.Precedes (u w : Use) : Prop :=
  u.user < w.user ∨ u.user = w.user ∧ u.operand < w.operand

theorem Use.Precedes.irrefl (u : Use) : ¬ u.Precedes u := by
  rintro (h | ⟨-, h⟩) <;> exact Nat.lt_irrefl _ h

theorem Use.Precedes.asymm {u w : Use} (h : u.Precedes w) : ¬ w.Precedes u := by
  unfold Use.Precedes at *
  omega

/-- References in order are equal if they are the same ones. -/
theorem Use.eq_of_mem_iff {us us' : List Use} (h : us.Pairwise Use.Precedes)
    (h' : us'.Pairwise Use.Precedes) (hmem : ∀ u, u ∈ us ↔ u ∈ us') : us = us' := by
  have : Std.Antisymm Use.Precedes := ⟨fun _ _ hu hw => absurd hw hu.asymm⟩
  have : Std.Irrefl Use.Precedes := ⟨Use.Precedes.irrefl⟩
  exact h.eq_of_mem_iff h' hmem

theorem pairwise_zipIdx {α : Type} (as : List α) (n : Nat) :
    (as.zipIdx n).Pairwise fun a b => a.2 < b.2 := by
  rw [← List.pairwise_map (R := (· < ·)), List.zipIdx_map_snd]
  exact List.pairwise_lt_range'

theorem Instruction.pairwise_idOperands (i : Instruction) :
    i.idOperands.Pairwise fun a b => a.1 < b.1 := by
  rw [idOperands, List.pairwise_filterMap]
  refine (pairwise_zipIdx i.words 0).imp fun hlt p hp q hq => ?_
  obtain ⟨-, hp⟩ := Option.ite_none_right_eq_some.mp hp
  obtain ⟨-, hq⟩ := Option.ite_none_right_eq_some.mp hq
  obtain rfl := Option.some.inj hp
  obtain rfl := Option.some.inj hq
  exact hlt

namespace Module

theorem pairwise_references {is : List Instruction}
    (h : is.Pairwise fun i j => i.position < j.position) :
    (references is).Pairwise fun a b => a.2.Precedes b.2 := by
  rw [references, List.pairwise_flatMap]
  constructor
  · intro i _
    rw [List.pairwise_map]
    exact i.pairwise_idOperands.imp fun hlt => Or.inr ⟨rfl, hlt⟩
  · refine h.imp fun hlt a ha b hb => ?_
    obtain ⟨_, -, rfl⟩ := List.mem_map.mp ha
    obtain ⟨_, -, rfl⟩ := List.mem_map.mp hb
    exact Or.inl hlt

theorem mem_references_iff (is : List Instruction) (id : Id) (u : Use) :
    (id, u) ∈ references is ↔ ∃ i ∈ is, i.position = u.user ∧ (u.operand, id) ∈ i.idOperands := by
  simp only [references, List.mem_flatMap, List.mem_map, Prod.exists, Prod.mk.injEq]
  constructor
  · rintro ⟨i, hi, k, _, hk, rfl, rfl⟩
    exact ⟨i, hi, rfl, hk⟩
  · rintro ⟨i, hi, hpos, hk⟩
    exact ⟨i, hi, u.operand, id, hk, rfl, by rw [hpos]⟩

/-- Each instruction of a built module has the opcode and the words of the one it is built from. -/
theorem build_getElem? {v : Version} {a : AddressingModel} {is : List Instruction} {m : Module}
    (h : build v a is = .ok m) (n : Nat) :
    m.instructions[n]? =
      is[n]?.map fun i => finish (place is) { i with position := n, uses := [] } := by
  obtain ⟨-, rfl⟩ := (build_eq_ok_iff v a is m).mp h
  rw [assemble_instructions, List.getElem?_map, place_getElem?, Option.map_map]
  rfl

/-- A list holds the references of a sequence to an id, each of them once and in order. -/
structure ListsUses (is : List Instruction) (id : Id) (us : List Use) : Prop where
  ordered : us.Pairwise Use.Precedes
  mem_iff : ∀ p k : Nat, ⟨p, k⟩ ∈ us ↔
    ∃ i, is[p]? = some i ∧ i.opcode.isIdOperand i.words k = true ∧ i.words[k]? = some id

theorem ListsUses.unique {is : List Instruction} {id : Id} {us us' : List Use}
    (h : ListsUses is id us) (h' : ListsUses is id us') : us = us' := by
  have : Std.Antisymm Use.Precedes := ⟨fun _ _ hu hw => absurd hw hu.asymm⟩
  have : Std.Irrefl Use.Precedes := ⟨Use.Precedes.irrefl⟩
  refine h.ordered.eq_of_mem_iff h'.ordered fun u => ?_
  exact (h.mem_iff u.user u.operand).trans (h'.mem_iff u.user u.operand).symm

theorem Indexed.listsUses {m : Module} (hm : m.Indexed) {d : Instruction} {id : Id}
    (hd : d ∈ m.instructions) (hid : d.resultId = some id) :
    ListsUses m.instructions id d.uses := by
  rw [hm.uses d hd id hid]
  refine ⟨?_, fun p k => ?_⟩
  · rw [List.pairwise_map]
    exact (pairwise_references hm.pairwise_position).filter _
  · have hmem : ⟨p, k⟩ ∈ ((references m.instructions).filter (·.1 == id)).map (·.2) ↔
        (id, ⟨p, k⟩) ∈ references m.instructions := by
      simp
    rw [hmem, mem_references_iff]
    constructor
    · rintro ⟨i, hi, rfl, hk⟩
      obtain ⟨hword, hop⟩ := (i.mem_idOperands_iff k id).mp hk
      exact ⟨i, hm.instruction?_position hi, hop, hword⟩
    · rintro ⟨i, hi, hop, hword⟩
      exact ⟨i, List.mem_of_getElem? hi, hm.position p i hi,
        (i.mem_idOperands_iff k id).mpr ⟨hword, hop⟩⟩

theorem ListsUses.of_build {v : Version} {a : AddressingModel} {is : List Instruction} {m : Module}
    (hbuild : build v a is = .ok m) {id : Id} {us : List Use}
    (h : ListsUses m.instructions id us) : ListsUses is id us where
  ordered := h.ordered
  mem_iff := by
    have hkeeps := finish_keepsCode (place is)
    intro p k
    rw [h.mem_iff, build_getElem? hbuild]
    cases is[p]? with
    | none => simp
    | some i => simp [hkeeps.opcode, hkeeps.words]

theorem classify_uses (is : List Instruction) (i : Instruction) :
    (classify is i).uses = i.uses := by
  unfold classify
  split
  · split <;> rfl
  · rfl

theorem finish_uses_of_resultId_eq_none {placed : List Instruction} {i : Instruction}
    (h : i.resultId = none) : (finish placed i).uses = i.uses := by
  rw [finish, link, (classify_keepsCode placed).resultId, h]
  exact classify_uses placed i

/-- The uses of an instruction are the references to its result id, and none without a result. -/
theorem uses_exact {v : Version} {a : AddressingModel} {is : List Instruction} {m : Module}
    (hbuild : build v a is = .ok m) {n : Nat} {i : Instruction} (hi : is[n]? = some i) :
    ∃ d, m.instructions[n]? = some d ∧ d.opcode = i.opcode ∧ d.words = i.words ∧
      (∀ id, i.resultId = some id → ∀ us, d.uses = us ↔ ListsUses is id us) ∧
      (i.resultId = none → d.uses = []) := by
  have hkeeps := finish_keepsCode (place is)
  let d := finish (place is) { i with position := n, uses := [] }
  have hd : m.instructions[n]? = some d := by rw [build_getElem? hbuild, hi, Option.map_some]
  refine ⟨d, hd, hkeeps.opcode _, hkeeps.words _, fun id hid us => ?_, fun hnone => ?_⟩
  · have hdid : d.resultId = some id := (hkeeps.resultId _).trans hid
    have hlists : ListsUses is id d.uses :=
      ((indexed_of_build hbuild).listsUses (List.mem_of_getElem? hd) hdid).of_build hbuild
    constructor
    · rintro rfl
      exact hlists
    · exact fun hus => hlists.unique hus
  · exact finish_uses_of_resultId_eq_none hnone

/-- A struct that a name refers to in advance, and that has itself and a later type as members. The
use that it brings along is not one. -/
def selfContained : List Instruction :=
  [.ofOpcode .name [2, 0], { Instruction.ofOpcode .typeStruct [2, 3, 2, 3] with uses := [⟨7, 7⟩] },
    .ofOpcode .typeBool [3]]

theorem selfContained_uses :
    ∃ m d, build .v1_6 .logical selfContained = .ok m ∧ m.instructions[1]? = some d ∧
      ListsUses selfContained 2 d.uses ∧ d.uses = [⟨0, 0⟩, ⟨1, 2⟩] := by
  have hbuild : build .v1_6 .logical selfContained =
      .ok (assemble .v1_6 .logical (place selfContained)) := rfl
  obtain ⟨d, hd, -, -, huses, -⟩ := uses_exact (n := 1) hbuild rfl
  refine ⟨_, d, hbuild, hd, (huses 2 rfl d.uses).mp rfl, ?_⟩
  obtain rfl := Option.some.inj hd
  rfl

end Module
end Spirv
