import Mathlib.Data.List.Pairwise
import Spirv.Module.Build
import Spirv.Rule.Basic

set_option autoImplicit false

/-!
# The tables of a built module

`Module.Indexed` gathers what building establishes about positions, result ids, uses and
parameters. A look-up in a built module finds an id exactly where it is defined.
-/
namespace Spirv

theorem Opcode.operandIsId_of_ne {op : Opcode} (hop : op ≠ .specConstantOp) (words : List Word)
    (k : Nat) : op.operandIsId words k = op.idPosition words k := by
  rw [operandIsId]
  · exact fun _ _ h => absurd h hop
  · exact fun h => absurd h hop

theorem Instruction.mem_idOperands_iff (i : Instruction) (k : Nat) (id : Id) :
    (k, id) ∈ i.idOperands ↔ i.operand k = some id ∧ i.opcode.isIdOperand i.words k = true := by
  simp only [idOperands, operand, List.mem_filterMap, Prod.exists, List.mem_zipIdx_iff_getElem?,
    Option.ite_none_right_eq_some, Option.some.injEq, Prod.mk.injEq]
  constructor
  · rintro ⟨w, n, hw, hid, rfl, rfl⟩
    exact ⟨hw, hid⟩
  · rintro ⟨hw, hid⟩
    exact ⟨id, k, hw, hid, rfl, rfl⟩

theorem Instruction.idOperands_eq_nil_of_operandIsId {i : Instruction}
    (h : ∀ k, i.opcode.operandIsId i.words k = false) : i.idOperands = [] := by
  rw [List.eq_nil_iff_forall_not_mem]
  rintro ⟨k, id⟩ hmem
  have hoperand := ((mem_idOperands_iff i k id).mp hmem).2
  rw [Opcode.isIdOperand, h, Bool.and_false] at hoperand
  contradiction

namespace Module

theorem place_getElem? (is : List Instruction) (n : Nat) :
    (place is)[n]? = is[n]?.map fun i => { i with position := n, uses := [] } := by
  simp only [place, List.getElem?_map, List.getElem?_zipIdx, Option.map_map, Nat.zero_add]
  rfl

theorem filterMap_place {α : Type} {f : Instruction → Option α} (is : List Instruction)
    (hf : ∀ (i : Instruction) (n : Nat), f { i with position := n, uses := [] } = f i) :
    (place is).filterMap f = is.filterMap f := by
  rw [place, List.filterMap_map]
  calc
    _ = is.zipIdx.filterMap (f ∘ Prod.fst) := by
      congr 1
      exact funext fun p => hf p.1 p.2
    _ = (is.zipIdx.map Prod.fst).filterMap f := List.filterMap_map.symm
    _ = is.filterMap f := by rw [List.zipIdx_map_fst]

theorem checkResults_eq_ok_iff (seen : List Id) (is : List Instruction) :
    checkResults seen is = .ok () ↔
      (∀ i ∈ is, ∀ k, i.opcode.resultIdIndex = some k → ∃ id, i.operand k = some id ∧ id ≠ 0) ∧
      (is.filterMap Instruction.resultId).Nodup ∧
      ∀ id ∈ is.filterMap Instruction.resultId, id ∉ seen := by
  induction is generalizing seen with
  | nil => simp [checkResults]
  | cons i is ih =>
    cases hk : i.opcode.resultIdIndex with
    | none =>
      have hr : i.resultId = none := by simp [Instruction.resultId, hk]
      simp [checkResults, hk, ih, hr]
    | some k =>
      cases hid : i.operand k with
      | none => simp [checkResults, hk, hid]
      | some id =>
        have hr : i.resultId = some id := by simp [Instruction.resultId, hk, hid]
        by_cases hz : id = 0
        · simp [checkResults, hk, hid, hz]
        by_cases hs : id ∈ seen
        · simp [checkResults, hk, hid, hz, hs, hr]
        have hstep : checkResults seen (i :: is) = checkResults (id :: seen) is := by
          simp [checkResults, hk, hid, hz, hs]
        rw [hstep, ih]
        simp only [List.filterMap_cons, hr, List.nodup_cons, List.mem_cons, forall_eq_or_imp]
        constructor
        · rintro ⟨hall, hnodup, hnew⟩
          refine ⟨⟨?_, hall⟩, ⟨fun hmem => hnew id hmem (Or.inl rfl), hnodup⟩, hs, ?_⟩
          · intro k' hk'
            obtain rfl : k = k' := Option.some.inj (hk.symm.trans hk')
            exact ⟨id, hid, hz⟩
          · exact fun a ha hseen => hnew a ha (Or.inr hseen)
        · rintro ⟨⟨_, hall⟩, ⟨hfresh, hnodup⟩, _, hnew⟩
          refine ⟨hall, hnodup, fun a ha => ?_⟩
          rintro (rfl | hseen)
          · exact hfresh ha
          · exact hnew a ha hseen

theorem eq_of_resultId_eq {is : List Instruction} (h : (is.filterMap Instruction.resultId).Nodup)
    {i j : Instruction} {id : Id} (hi : i ∈ is) (hj : j ∈ is) (hii : i.resultId = some id)
    (hji : j.resultId = some id) : i = j := by
  by_contra hne
  have hpair := List.pairwise_filterMap.mp h
  have hsymm : Std.Symm fun i j : Instruction =>
      ∀ a, i.resultId = some a → ∀ b, j.resultId = some b → a ≠ b :=
    ⟨fun _ _ h a ha b hb => (h b hb a ha).symm⟩
  exact hpair.forall hi hj hne id hii id hji rfl

/-- What a function on instructions keeps when it changes their marks and uses only. -/
structure KeepsCode (f : Instruction → Instruction) : Prop where
  opcode : ∀ i, (f i).opcode = i.opcode
  words : ∀ i, (f i).words = i.words
  position : ∀ i, (f i).position = i.position

namespace KeepsCode

theorem resultId {f : Instruction → Instruction} (h : KeepsCode f) (i : Instruction) :
    (f i).resultId = i.resultId := by
  simp only [Instruction.resultId, h.opcode]
  exact congrArg _ (funext fun k => by simp only [Instruction.operand, h.words])

theorem idOperands {f : Instruction → Instruction} (h : KeepsCode f) (i : Instruction) :
    (f i).idOperands = i.idOperands := by
  simp only [Instruction.idOperands, h.opcode, h.words]

theorem references {f : Instruction → Instruction} (h : KeepsCode f) (is : List Instruction) :
    Module.references (is.map f) = Module.references is := by
  simp only [Module.references, List.flatMap_map, h.idOperands, h.position]

theorem parameters {f : Instruction → Instruction} (h : KeepsCode f)
    (enclosing : Option (Nat × Nat)) (is : List Instruction) :
    ParameterTable.continueFrom enclosing (is.map f) =
      ParameterTable.continueFrom enclosing is := by
  induction is generalizing enclosing with
  | nil => rfl
  | cons i is ih =>
    simp only [List.map_cons, ParameterTable.continueFrom, ParameterTable.slot?,
      ParameterTable.next, h.opcode, h.position, ih]

theorem importedSet? {f : Instruction → Instruction} (h : KeepsCode f)
    (is : List Instruction) : Module.importedSet? (is.map f) = Module.importedSet? is := by
  funext id
  rw [Module.importedSet?, Module.importedSet?, List.find?_map, Option.map_map]
  simp only [Function.comp_def, h.opcode, h.resultId, Instruction.operandsFrom, h.words]

end KeepsCode

theorem classify_keepsCode (is : List Instruction) : KeepsCode (classify is) := by
  constructor <;> intro i <;> unfold classify <;> split <;> try rfl
  all_goals split <;> rfl

theorem link_keepsCode (refs : List (Id × Use)) : KeepsCode (link refs) := by
  constructor <;> intro i <;> unfold link <;> split <;> rfl

/-- The last pass over the instructions of a module, which sets their marks and their uses. -/
def finish (placed : List Instruction) (i : Instruction) : Instruction :=
  link (references placed) (classify placed i)

theorem finish_keepsCode (placed : List Instruction) : KeepsCode (finish placed) where
  opcode i := ((link_keepsCode _).opcode _).trans ((classify_keepsCode _).opcode i)
  words i := ((link_keepsCode _).words _).trans ((classify_keepsCode _).words i)
  position i := ((link_keepsCode _).position _).trans ((classify_keepsCode _).position i)

theorem assemble_instructions (v : Version) (a : AddressingModel) (placed : List Instruction) :
    (assemble v a placed).instructions = placed.map (finish placed) :=
  List.map_map

theorem build_eq_ok_iff (v : Version) (a : AddressingModel) (is : List Instruction) (m : Module) :
    build v a is = .ok m ↔
      checkResults [] (place is) = .ok () ∧ assemble v a (place is) = m := by
  rw [build, bind_eq_ok_iff]
  constructor
  · rintro ⟨_, hresults, hm⟩
    exact ⟨hresults, Except.ok.inj hm⟩
  · rintro ⟨hresults, rfl⟩
    exact ⟨(), hresults, rfl⟩

theorem length_of_build {v : Version} {a : AddressingModel} {is : List Instruction} {m : Module}
    (h : build v a is = .ok m) : m.instructions.length = is.length := by
  obtain ⟨-, rfl⟩ := (build_eq_ok_iff v a is m).mp h
  rw [assemble_instructions, List.length_map, place, List.length_map, List.length_zipIdx]

structure Indexed (m : Module) : Prop where
  position : ∀ (n : Nat) (i : Instruction), m.instructions[n]? = some i → i.position = n
  result : ∀ i ∈ m.instructions, ∀ k, i.opcode.resultIdIndex = some k →
    ∃ id, i.operand k = some id ∧ id ≠ 0
  distinct : (m.instructions.filterMap Instruction.resultId).Nodup
  uses : ∀ i ∈ m.instructions, ∀ id, i.resultId = some id →
    i.uses = ((references m.instructions).filter (·.1 == id)).map (·.2)
  parameters : m.parameters = ParameterTable.ofInstructions m.instructions

theorem indexed_of_build {v : Version} {a : AddressingModel} {is : List Instruction} {m : Module}
    (h : build v a is = .ok m) : m.Indexed := by
  obtain ⟨hresults, rfl⟩ := (build_eq_ok_iff v a is m).mp h
  obtain ⟨hresult, hdistinct, -⟩ := (checkResults_eq_ok_iff [] _).mp hresults
  have hkeeps := finish_keepsCode (place is)
  have hinst := assemble_instructions v a (place is)
  refine ⟨?_, ?_, ?_, ?_, ?_⟩
  · intro n i hi
    rw [hinst, List.getElem?_map, place_getElem?] at hi
    simp only [Option.map_map, Option.map_eq_some_iff] at hi
    obtain ⟨j, -, rfl⟩ := hi
    exact hkeeps.position _
  · intro i hi k hk
    rw [hinst] at hi
    obtain ⟨j, hj, rfl⟩ := List.mem_map.mp hi
    rw [hkeeps.opcode] at hk
    simpa only [Instruction.operand, hkeeps.words] using hresult j hj k hk
  · rw [hinst, List.filterMap_map]
    simpa only [Function.comp_def, hkeeps.resultId] using hdistinct
  · intro i hi id hid
    rw [hinst, hkeeps.references]
    rw [hinst] at hi
    obtain ⟨j, -, rfl⟩ := List.mem_map.mp hi
    rw [finish, (link_keepsCode _).resultId] at hid
    simp only [finish, link, hid]
  · rw [hinst]
    exact (hkeeps.parameters none _).symm

theorem mem_of_definition? {m : Module} {id : Id} {i : Instruction}
    (h : m.definition? id = some i) : i ∈ m.instructions ∧ i.resultId = some id :=
  ⟨List.mem_of_find?_eq_some h, by simpa using List.find?_some h⟩

namespace Indexed

theorem instruction?_position {m : Module} (hm : m.Indexed) {i : Instruction}
    (hi : i ∈ m.instructions) : m.instruction? i.position = some i := by
  obtain ⟨n, hn⟩ := List.mem_iff_getElem?.mp hi
  rw [instruction?, hm.position n i hn]
  exact hn

theorem position_lt {m : Module} (hm : m.Indexed) {i : Instruction} (hi : i ∈ m.instructions) :
    i.position < m.instructions.length := by
  obtain ⟨hlt, -⟩ := List.getElem?_eq_some_iff.mp (hm.instruction?_position hi)
  exact hlt

theorem exists_resultId {m : Module} (hm : m.Indexed) {i : Instruction} (hi : i ∈ m.instructions)
    (hop : i.opcode.hasResultId = true) : ∃ id, i.resultId = some id := by
  obtain ⟨id, hid, -⟩ := hm.result i hi _ (if_pos hop)
  refine ⟨id, ?_⟩
  rw [Instruction.resultId, Opcode.resultIdIndex, if_pos hop]
  exact hid

theorem resultId_ne_zero {m : Module} (hm : m.Indexed) {i : Instruction} {id : Id}
    (hi : i ∈ m.instructions) (h : i.resultId = some id) : id ≠ 0 := by
  simp only [Instruction.resultId, Option.bind_eq_some_iff] at h
  obtain ⟨k, hk, hid⟩ := h
  obtain ⟨id', hid', hne⟩ := hm.result i hi k hk
  obtain rfl := Option.some.inj (hid.symm.trans hid')
  exact hne

theorem resultId_injective {m : Module} (hm : m.Indexed) {i j : Instruction} {id : Id}
    (hi : i ∈ m.instructions) (hj : j ∈ m.instructions) (hii : i.resultId = some id)
    (hji : j.resultId = some id) : i = j :=
  eq_of_resultId_eq hm.distinct hi hj hii hji

/-- No two instructions define one id, so an id's definition is the instruction that defines it. -/
theorem definition?_eq_some_iff {m : Module} (hm : m.Indexed) {id : Id} {i : Instruction} :
    m.definition? id = some i ↔ i ∈ m.instructions ∧ i.resultId = some id := by
  refine ⟨mem_of_definition?, fun ⟨hi, hid⟩ => ?_⟩
  obtain ⟨j, hj⟩ : ∃ j, m.definition? id = some j := by
    rw [← Option.isSome_iff_exists, definition?, List.find?_isSome]
    exact ⟨i, hi, by simp [hid]⟩
  obtain ⟨hj', hjd⟩ := mem_of_definition? hj
  rw [hj, hm.resultId_injective hj' hi hjd hid]

theorem definition?_zero {m : Module} (hm : m.Indexed) : m.definition? 0 = none := by
  cases h : m.definition? 0 with
  | none => rfl
  | some i =>
    obtain ⟨hi, hid⟩ := mem_of_definition? h
    exact absurd rfl (hm.resultId_ne_zero hi hid)

theorem bind_definition? {m : Module} (hm : m.Indexed) (i : Instruction) (n : Nat) :
    (i.operand n).bind m.definition? = m.definition? (i.operandOrZero n) := by
  rw [Instruction.operandOrZero]
  cases i.operand n with
  | none => exact hm.definition?_zero.symm
  | some id => rfl

/-- An operand that must name a definition is there, since a missing one reads as id 0. -/
theorem definition?_operandOrZero {m : Module} (hm : m.Indexed) {i d : Instruction} {k : Nat} :
    m.definition? (i.operandOrZero k) = some d ↔
      ∃ id, i.operand k = some id ∧ m.definition? id = some d := by
  rw [← hm.bind_definition?, Option.bind_eq_some_iff]

theorem definition?_typeIdOrZero {m : Module} (hm : m.Indexed) (i : Instruction) :
    m.definition? i.typeIdOrZero = m.typeDefinition? i := by
  rw [typeDefinition?, Instruction.typeIdOrZero]
  cases i.typeId with
  | none => exact hm.definition?_zero
  | some t => rfl

theorem exists_typeId {m : Module} (hm : m.Indexed) {i : Instruction} (hi : i ∈ m.instructions)
    (hop : i.opcode.hasResultType = true) : ∃ t, i.typeId = some t ∧ i.operand 0 = some t := by
  have hindex : i.opcode.resultIdIndex = some 1 := by
    have hid : i.opcode.hasResultId = true := by
      simp only [Opcode.hasResultType, Bool.and_eq_true] at hop
      exact hop.1.1
    simp [Opcode.resultIdIndex, hid, hop]
  obtain ⟨id, hid, -⟩ := hm.result i hi 1 hindex
  obtain ⟨hlen, -⟩ := List.getElem?_eq_some_iff.mp hid
  have h0 : i.operand 0 = some i.words[0] := List.getElem?_eq_getElem (by omega)
  exact ⟨i.words[0], by simp [Instruction.typeId, hop, h0], h0⟩

theorem typeId_eq {m : Module} (hm : m.Indexed) {i : Instruction} (hi : i ∈ m.instructions)
    (hop : i.opcode.hasResultType = true) : i.typeId = some i.typeIdOrZero := by
  obtain ⟨t, ht, -⟩ := hm.exists_typeId hi hop
  rw [Instruction.typeIdOrZero, ht, Option.getD_some]

theorem mem_uses {m : Module} (hm : m.Indexed) {u d : Instruction} {k : Nat} {id : Id}
    (hu : u ∈ m.instructions) (hk : (k, id) ∈ u.idOperands) (hd : m.definition? id = some d) :
    ⟨u.position, k⟩ ∈ d.uses := by
  obtain ⟨hd', hid⟩ := mem_of_definition? hd
  rw [hm.uses d hd' id hid]
  refine List.mem_map.mpr ⟨(id, ⟨u.position, k⟩), List.mem_filter.mpr ⟨?_, by simp⟩, rfl⟩
  exact List.mem_flatMap.mpr ⟨u, hu, List.mem_map.mpr ⟨(k, id), hk, rfl⟩⟩

end Indexed
end Module
end Spirv
