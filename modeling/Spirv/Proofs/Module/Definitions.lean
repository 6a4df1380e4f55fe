import Mathlib.Data.Set.Card
import Spirv.Proofs.Module.Inserted

set_option autoImplicit false

/-!
# The definitions of a module

Building fails with the fault of the first position at which a definition is at fault. Otherwise
each id is found at the one position that defines it.
-/
namespace Spirv.Module

inductive FaultAt (is : List Instruction) (n : Nat) : BuildError → Prop where
  | missing {i : Instruction} (hi : is[n]? = some i) (hop : i.opcode.hasResultId = true)
      (hid : i.resultId = none) : FaultAt is n (.missingResult i.opcode n)
  | zero {i : Instruction} (hi : is[n]? = some i) (hid : i.resultId = some 0) :
      FaultAt is n (.zeroResult i.opcode n)
  | duplicate {i j : Instruction} {p : Nat} {id : Id} (hi : is[n]? = some i)
      (hid : i.resultId = some id) (hne : id ≠ 0) (hp : p < n) (hj : is[p]? = some j)
      (hjd : j.resultId = some id) : FaultAt is n (.duplicate id)

/-- Each instruction that has to define an id does, and no two define the same one. -/
structure DefinesApart (is : List Instruction) : Prop where
  result : ∀ i ∈ is, i.opcode.hasResultId = true → ∃ id, i.resultId = some id ∧ id ≠ 0
  distinct : (is.filterMap Instruction.resultId).Nodup

def definitionFault? (seen : List Id) (i : Instruction) : Option BuildError :=
  match i.resultId with
  | none => if i.opcode.hasResultId then some (.missingResult i.opcode i.position) else none
  | some id =>
    if id = 0 then some (.zeroResult i.opcode i.position)
    else if id ∈ seen then some (.duplicate id)
    else none

theorem resultIdIndex_eq_none_iff (op : Opcode) :
    op.resultIdIndex = none ↔ op.hasResultId = false := by
  simp [Opcode.resultIdIndex]

theorem checkResults_cons (seen : List Id) (i : Instruction) (rest : List Instruction) :
    checkResults seen (i :: rest) =
      match definitionFault? seen i with
      | some e => .error e
      | none => checkResults (i.resultId.toList ++ seen) rest := by
  rw [checkResults, definitionFault?, Instruction.resultId]
  cases hk : i.opcode.resultIdIndex with
  | none =>
    have hop := (resultIdIndex_eq_none_iff i.opcode).mp hk
    simp [hop]
  | some k =>
    have hop : i.opcode.hasResultId = true := by
      by_contra h
      rw [(resultIdIndex_eq_none_iff i.opcode).mpr (Bool.not_eq_true _ ▸ h)] at hk
      contradiction
    cases hid : i.operand k with
    | none => simp [hop, hid]
    | some id =>
      by_cases hz : id = 0
      · simp [hid, hz]
      · by_cases hs : id ∈ seen
        · simp [hid, hz, hs]
        · simp [hid, hz, hs]

theorem faultAt_length_iff {before rest : List Instruction} {seen : List Id}
    (hseen : ∀ id, id ∈ seen ↔ id ∈ before.filterMap Instruction.resultId) (i : Instruction)
    (e : BuildError) :
    FaultAt (before ++ i :: rest) before.length e ↔
      definitionFault? seen { i with position := before.length, uses := [] } = some e := by
  have hat : (before ++ i :: rest)[before.length]? = some i := by simp
  have hsame : ({ i with position := before.length, uses := [] } : Instruction).resultId =
      i.resultId := rfl
  constructor
  · intro h
    cases h with
    | missing hi hop hid =>
      obtain rfl := Option.some.inj (hat.symm.trans hi)
      simp [definitionFault?, hsame, hid, hop]
    | zero hi hid =>
      obtain rfl := Option.some.inj (hat.symm.trans hi)
      simp [definitionFault?, hsame, hid]
    | @duplicate _ j p id hi hid hne hp hj hjd =>
      obtain rfl := Option.some.inj (hat.symm.trans hi)
      rw [List.getElem?_append_left hp] at hj
      have hmem : id ∈ seen :=
        (hseen id).mpr (List.mem_filterMap.mpr ⟨j, List.mem_of_getElem? hj, hjd⟩)
      simp [definitionFault?, hsame, hid, hne, hmem]
  · intro h
    rw [definitionFault?, hsame] at h
    cases hid : i.resultId with
    | none =>
      simp only [hid, Option.ite_none_right_eq_some, Option.some.injEq] at h
      obtain ⟨hop, rfl⟩ := h
      exact .missing hat hop hid
    | some id =>
      simp only [hid] at h
      split at h
      case isTrue hz =>
        obtain rfl := Option.some.inj h
        exact .zero hat (hz ▸ hid)
      case isFalse hz =>
        obtain ⟨hmem, heq⟩ := Option.ite_none_right_eq_some.mp h
        obtain rfl := Option.some.inj heq
        obtain ⟨j, hj, hjd⟩ := List.mem_filterMap.mp ((hseen id).mp hmem)
        obtain ⟨p, hp⟩ := List.mem_iff_getElem?.mp hj
        obtain ⟨hlt, -⟩ := List.getElem?_eq_some_iff.mp hp
        exact .duplicate hat hid hz hlt (by rwa [List.getElem?_append_left hlt]) hjd

theorem placeFrom_cons (n : Nat) (i : Instruction) (is : List Instruction) :
    placeFrom n (i :: is) = { i with position := n, uses := [] } :: placeFrom (n + 1) is := by
  rw [placeFrom, List.zipIdx_cons, List.map_cons, placeFrom]

theorem mem_seen_iff {before : List Instruction} {seen : List Id}
    (hseen : ∀ id, id ∈ seen ↔ id ∈ before.filterMap Instruction.resultId) (i : Instruction)
    (id : Id) : id ∈ i.resultId.toList ++ seen ↔
      id ∈ (before ++ [i]).filterMap Instruction.resultId := by
  have hlast : [i].filterMap Instruction.resultId = i.resultId.toList := by
    cases hid : i.resultId <;> simp [hid]
  rw [List.filterMap_append, hlast, List.mem_append, List.mem_append, hseen, or_comm]

/-- The check of the instructions behind `before`, whose ids it has seen, stops at the first of them
that is at fault. -/
theorem checkResults_placeFrom_eq_error_iff {before rest : List Instruction} {seen : List Id}
    (hseen : ∀ id, id ∈ seen ↔ id ∈ before.filterMap Instruction.resultId) (e : BuildError) :
    checkResults seen (placeFrom before.length rest) = .error e ↔
      ∃ n, before.length ≤ n ∧ FaultAt (before ++ rest) n e ∧
        ∀ p, before.length ≤ p → p < n → ∀ e', ¬ FaultAt (before ++ rest) p e' := by
  induction rest generalizing before seen with
  | nil =>
    constructor
    · intro h
      contradiction
    · rintro ⟨n, hn, hfault, -⟩
      have hnone : (before ++ [])[n]? = none := by simpa using hn
      cases hfault <;> simp_all
  | cons i rest ih =>
    rw [placeFrom_cons, checkResults_cons]
    have hfirst (e : BuildError) : FaultAt (before ++ i :: rest) before.length e ↔
        definitionFault? seen { i with position := before.length, uses := [] } = some e :=
      faultAt_length_iff hseen i e
    cases hfault : definitionFault? seen { i with position := before.length, uses := [] } with
    | some e' =>
      simp only [Except.error.injEq]
      constructor
      · rintro rfl
        refine ⟨before.length, Nat.le_refl _, (hfirst e').mpr hfault, fun p hle hlt => ?_⟩
        exact absurd hle (Nat.not_le_of_lt hlt)
      · rintro ⟨n, hn, hat, hbefore⟩
        obtain rfl | hlt := Nat.eq_or_lt_of_le hn
        · exact Option.some.inj (hfault.symm.trans ((hfirst e).mp hat))
        · exact absurd ((hfirst e').mpr hfault) (hbefore _ (Nat.le_refl _) hlt e')
    | none =>
      have hsound (e' : BuildError) : ¬ FaultAt (before ++ i :: rest) before.length e' := by
        rw [hfirst, hfault]
        simp
      have hrest := ih (mem_seen_iff hseen i)
      rw [List.length_append, List.length_singleton, List.append_assoc,
        List.singleton_append] at hrest
      change checkResults (i.resultId.toList ++ seen) _ = _ ↔ _
      rw [hrest]
      constructor
      · rintro ⟨n, hn, hat, hbefore⟩
        refine ⟨n, by omega, hat, fun p hle hlt => ?_⟩
        obtain rfl | hp := Nat.eq_or_lt_of_le hle
        · exact hsound
        · exact hbefore p hp hlt
      · rintro ⟨n, hn, hat, hbefore⟩
        obtain rfl | hlt := Nat.eq_or_lt_of_le hn
        · exact absurd hat (hsound e)
        · exact ⟨n, hlt, hat, fun p hle => hbefore p (by omega)⟩

theorem build_eq_error_iff (v : Version) (a : AddressingModel) (is : List Instruction)
    (e : BuildError) : build v a is = .error e ↔ checkResults [] (place is) = .error e := by
  rw [build, bind_eq_error_iff]
  constructor
  · rintro (h | ⟨_, -, h⟩)
    · exact h
    · contradiction
  · exact Or.inl

theorem definesApart_place_iff (is : List Instruction) :
    checkResults [] (place is) = .ok () ↔ DefinesApart is := by
  have hresults : (place is).filterMap Instruction.resultId = is.filterMap Instruction.resultId :=
    filterMap_place is fun _ _ => rfl
  rw [checkResults_eq_ok_iff, hresults]
  constructor
  · rintro ⟨hresult, hdistinct, -⟩
    refine ⟨fun i hi hop => ?_, hdistinct⟩
    obtain ⟨n, hn⟩ := List.mem_iff_getElem?.mp hi
    have hindex : i.opcode.resultIdIndex = some (if i.opcode.hasResultType then 1 else 0) :=
      if_pos hop
    obtain ⟨id, hid, hne⟩ := hresult _ ((mem_place_iff is _).mpr ⟨n, i, hn, rfl⟩) _ hindex
    refine ⟨id, ?_, hne⟩
    rw [Instruction.resultId, hindex]
    exact hid
  · rintro ⟨hresult, hdistinct⟩
    refine ⟨fun j hj k hk => ?_, hdistinct, fun id _ hnil => absurd hnil List.not_mem_nil⟩
    obtain ⟨n, i, hi, rfl⟩ := (mem_place_iff is j).mp hj
    have hop : i.opcode.hasResultId = true := by
      by_contra h
      rw [(resultIdIndex_eq_none_iff _).mpr (Bool.not_eq_true _ ▸ h)] at hk
      contradiction
    obtain ⟨id, hid, hne⟩ := hresult i (List.mem_of_getElem? hi) hop
    rw [Instruction.resultId, hk] at hid
    exact ⟨id, hid, hne⟩

theorem exists_build_iff (v : Version) (a : AddressingModel) (is : List Instruction) :
    (∃ m, build v a is = .ok m) ↔ DefinesApart is := by
  rw [← definesApart_place_iff]
  simp only [build_eq_ok_iff, exists_and_left, exists_eq', and_true]

/-- A module finds each id that a sequence defines where the sequence defines it. -/
structure Locates (m : Module) (is : List Instruction) : Prop where
  defined_iff : ∀ (n : Nat) (i : Instruction) (id : Id), is[n]? = some i →
    (i.resultId = some id ↔ ∃ d, m.definition? id = some d ∧ d.position = n ∧
      m.instruction? n = some d ∧ d.opcode = i.opcode ∧ d.words = i.words)
  undefined_iff : ∀ id, m.definition? id = none ↔ ∀ i ∈ is, i.resultId ≠ some id
  count : m.definitionCount = is.countP (·.resultId.isSome)
  count_ids : m.definitionCount = {id | (m.definition? id).isSome = true}.ncard

theorem definitionCount_eq_length (m : Module) :
    m.definitionCount = (m.instructions.filterMap Instruction.resultId).length := by
  rw [definitionCount, List.length_filterMap_eq_countP]

theorem Indexed.definitionCount_eq_ncard {m : Module} (hm : m.Indexed) :
    m.definitionCount = {id | (m.definition? id).isSome = true}.ncard := by
  have hset : {id | (m.definition? id).isSome = true} =
      ((m.instructions.filterMap Instruction.resultId).toFinset : Set Id) := by
    ext id
    simp only [Set.mem_ofPred_eq, Option.isSome_iff_exists, hm.definition?_eq_some_iff,
      List.coe_toFinset, List.mem_filterMap]
  rw [hset, Set.ncard_coe_finset, List.toFinset_card_of_nodup hm.distinct,
    definitionCount_eq_length]

theorem locates_of_build {v : Version} {a : AddressingModel} {is : List Instruction} {m : Module}
    (hbuild : build v a is = .ok m) : m.Locates is := by
  have hm := indexed_of_build hbuild
  have hkeeps := finish_keepsCode (place is)
  have hat (n : Nat) (i : Instruction) (hi : is[n]? = some i) :
      ∃ d, m.instruction? n = some d ∧ d.position = n ∧ d.opcode = i.opcode ∧ d.words = i.words ∧
        d.resultId = i.resultId := by
    refine ⟨finish (place is) { i with position := n, uses := [] }, ?_, hkeeps.position _,
      hkeeps.opcode _, hkeeps.words _, hkeeps.resultId _⟩
    rw [instruction?, build_getElem? hbuild, hi, Option.map_some]
  have hresults : m.instructions.filterMap Instruction.resultId =
      is.filterMap Instruction.resultId := by
    obtain ⟨-, rfl⟩ := (build_eq_ok_iff v a is m).mp hbuild
    rw [assemble_instructions, List.filterMap_map,
      ← filterMap_place (f := Instruction.resultId) is fun _ _ => rfl]
    exact congrArg (List.filterMap · _) (funext hkeeps.resultId)
  refine ⟨fun n i id hi => ?_, fun id => ?_, ?_, hm.definitionCount_eq_ncard⟩
  · obtain ⟨d, hd, hpos, hop, hwords, hid⟩ := hat n i hi
    rw [← hid]
    constructor
    · intro hdid
      have hmem : d ∈ m.instructions := List.mem_of_getElem? hd
      exact ⟨d, hm.definition?_eq_some_iff.mpr ⟨hmem, hdid⟩, hpos, hd, hop, hwords⟩
    · rintro ⟨d', hd', -, hdn, -, -⟩
      obtain rfl : d = d' := Option.some.inj (hd.symm.trans hdn)
      exact (mem_of_definition? hd').2
  · have hnone : m.definition? id = none ↔
        id ∉ m.instructions.filterMap Instruction.resultId := by
      simp [definition?]
    rw [hnone, hresults]
    simp
  · rw [definitionCount_eq_length, hresults, List.length_filterMap_eq_countP]

/-- Building succeeds exactly when the definitions are apart, fails with the fault of the first
position that is at fault, and otherwise indexes the definitions. -/
theorem build_indexes (v : Version) (a : AddressingModel) (is : List Instruction) :
    ((∃ m, build v a is = .ok m) ↔ DefinesApart is) ∧
      (∀ e, build v a is = .error e ↔
        ∃ n, FaultAt is n e ∧ ∀ p < n, ∀ e', ¬ FaultAt is p e') ∧
      ∀ m, build v a is = .ok m → m.Locates is := by
  refine ⟨exists_build_iff v a is, fun e => ?_, fun m => locates_of_build⟩
  have hstart : ∀ id : Id, id ∈ ([] : List Id) ↔
      id ∈ ([] : List Instruction).filterMap Instruction.resultId := fun _ => Iff.rfl
  have hchecked : checkResults [] (placeFrom 0 is) = .error e ↔ _ :=
    checkResults_placeFrom_eq_error_iff hstart e
  rw [build_eq_error_iff]
  change checkResults [] (place is) = .error e ↔ _ at hchecked
  rw [hchecked]
  simp only [List.length_nil, Nat.zero_le, true_and, List.nil_append, forall_const]

end Spirv.Module
