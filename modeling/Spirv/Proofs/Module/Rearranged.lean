import Mathlib.Data.List.Sort
import Mathlib.Logic.Equiv.Defs
import Spirv.Proofs.Agreement.Types
import Spirv.Proofs.Capability.Closure
import Spirv.Proofs.Module.Uses

set_option autoImplicit false

/-!
# Rearranged sequences

When instructions change places, the positions in the tables of a module change with them. What the
tables say about an id stays the same, as long as functions with their parameters, memory models and
decorations keep their order among themselves.
-/
namespace Spirv

def Opcode.delimitsParameters : Opcode → Bool
  | .function | .functionParameter => true
  | _ => false

def Opcode.decorates : Opcode → Bool
  | .decorate | .decorateId | .memberDecorate | .groupDecorate | .groupMemberDecorate => true
  | _ => false

def Instruction.movedBy (σ : Equiv.Perm Nat) (i : Instruction) : Instruction :=
  { i with position := σ i.position }

theorem Instruction.sameCode_movedBy (σ : Equiv.Perm Nat) (i : Instruction) :
    i.SameCode (i.movedBy σ) := ⟨rfl, rfl, rfl, rfl⟩

def ParameterSlot.enclosing? : ParameterSlot → Option (Nat × Nat)
  | .inFunction function index => some (function, index)
  | .firstInstruction | .noEnclosingFunction => none

namespace ParameterTable

/-- A function moves, and its parameters keep their indices. -/
def moveEnclosing (σ : Equiv.Perm Nat) : Option (Nat × Nat) → Option (Nat × Nat) :=
  Option.map fun (function, index) => (σ function, index)

theorem next_movedBy {σ : Equiv.Perm Nat} {enclosing : Option (Nat × Nat)} {i : Instruction}
    (h : enclosing ≠ none → i.position ≠ 0 ∧ σ i.position ≠ 0) :
    next (moveEnclosing σ enclosing) (i.movedBy σ) = moveEnclosing σ (next enclosing i) := by
  by_cases hfunction : i.opcode = .function
  · simp [next, Instruction.movedBy, hfunction, moveEnclosing]
  · cases enclosing with
    | none =>
      have hnone (j : Instruction) (hj : j.opcode ≠ .function) : next none j = none := by
        rw [next, if_neg hj]
        split <;> rfl
      rw [hnone i hfunction]
      exact hnone (i.movedBy σ) hfunction
    | some e =>
      obtain ⟨hposition, hmoved⟩ := h (by simp)
      by_cases hparameter : i.opcode = .functionParameter <;>
        simp [next, Instruction.movedBy, hfunction, hparameter, hposition, hmoved, moveEnclosing]

theorem slot?_none {i : Instruction} (h : i.opcode = .functionParameter) :
    ∃ s, slot? none i = some s ∧ s.enclosing? = none := by
  rw [slot?, if_pos h]
  split
  · exact ⟨_, rfl, rfl⟩
  · exact ⟨_, rfl, rfl⟩

theorem slot?_movedBy {σ : Equiv.Perm Nat} {enclosing : Option (Nat × Nat)} {i : Instruction}
    (h : enclosing ≠ none → i.position ≠ 0 ∧ σ i.position ≠ 0) :
    slot? enclosing i = none ∧ slot? (moveEnclosing σ enclosing) (i.movedBy σ) = none ∨
      ∃ s s', slot? enclosing i = some s ∧
        slot? (moveEnclosing σ enclosing) (i.movedBy σ) = some s' ∧
        s'.enclosing? = moveEnclosing σ s.enclosing? := by
  by_cases hparameter : i.opcode = .functionParameter
  · right
    cases enclosing with
    | none =>
      obtain ⟨s, hs, hnone⟩ := slot?_none hparameter
      obtain ⟨s', hs', hnone'⟩ := slot?_none (i := i.movedBy σ) hparameter
      refine ⟨s, s', hs, hs', ?_⟩
      rw [hnone, hnone']
      rfl
    | some e =>
      obtain ⟨function, index⟩ := e
      obtain ⟨hposition, hmoved⟩ := h (by simp)
      refine ⟨.inFunction function index, .inFunction (σ function) index, ?_, ?_, rfl⟩
      · simp [slot?, hparameter, hposition]
      · simp [slot?, Instruction.movedBy, moveEnclosing, hparameter, hmoved]
  · exact Or.inl ⟨if_neg hparameter, if_neg hparameter⟩

/-- The functions of the parameters move with them. A parameter without a function may only change
from being the first instruction to being another one. -/
theorem lookup_continueFrom_movedBy (σ : Equiv.Perm Nat) {is : List Instruction}
    {enclosing : Option (Nat × Nat)}
    (hordered : is.Pairwise fun i j => i.position < j.position ∧ σ i.position < σ j.position)
    (henclosing : enclosing ≠ none → ∀ i ∈ is, i.position ≠ 0 ∧ σ i.position ≠ 0) (n : Nat) :
    ((continueFrom (moveEnclosing σ enclosing) (is.map (·.movedBy σ))).lookup (σ n)).bind
        ParameterSlot.enclosing? =
      moveEnclosing σ (((continueFrom enclosing is).lookup n).bind ParameterSlot.enclosing?) := by
  induction is generalizing enclosing with
  | nil => rfl
  | cons i is ih =>
    obtain ⟨hbehind, hordered⟩ := List.pairwise_cons.mp hordered
    have hi := fun h => henclosing h i List.mem_cons_self
    -- positions increase, so below an instruction none is 0
    have hnext : next enclosing i ≠ none → ∀ j ∈ is, j.position ≠ 0 ∧ σ j.position ≠ 0 := by
      intro _ j hj
      obtain ⟨hlt, hlt'⟩ := hbehind j hj
      omega
    have hrest := ih hordered hnext
    rw [← next_movedBy hi] at hrest
    rw [List.map_cons, continueFrom, continueFrom]
    obtain ⟨hs, hs'⟩ | ⟨s, s', hs, hs', hss'⟩ := slot?_movedBy hi
    · rw [hs, hs']
      exact hrest
    · rw [hs, hs']
      by_cases hn : n = i.position
      · subst hn
        simpa [Instruction.movedBy, List.lookup_cons] using hss'
      · have hne : (n == i.position) = false := by simpa using hn
        have hne' : (σ n == σ i.position) = false := by simpa using hn
        simpa [Instruction.movedBy, List.lookup_cons, hne, hne'] using hrest

end ParameterTable

namespace Module

def KeepsOrder (σ : Equiv.Perm Nat) (is : List Instruction) (among : Opcode → Bool) : Prop :=
  ∀ (k : Nat) (hk : k < is.length) (l : Nat) (hl : l < is.length), among is[k].opcode = true →
    among is[l].opcode = true → k < l → σ k < σ l

/-- The second sequence has each instruction of the first one, at the place that the permutation
gives it, and no other. Where an order has a meaning it is kept. -/
structure Rearranges (σ : Equiv.Perm Nat) (is js : List Instruction) : Prop where
  moved : ∀ k, js[σ k]? = is[k]?
  functions : KeepsOrder σ is Opcode.delimitsParameters
  memoryModels : KeepsOrder σ is (· == .memoryModel)
  decorations : KeepsOrder σ is Opcode.decorates

theorem KeepsOrder.symm {σ : Equiv.Perm Nat} {is js : List Instruction} {among : Opcode → Bool}
    (hmoved : ∀ k, js[σ k]? = is[k]?) (h : KeepsOrder σ is among) :
    KeepsOrder σ.symm js among := by
  have horigin (k : Nat) (hk : k < js.length) : is[σ.symm k]? = some js[k] := by
    rw [← hmoved, σ.apply_symm_apply]
    exact List.getElem?_eq_getElem hk
  intro k hk l hl hkop hlop hlt
  obtain ⟨hk', hkeq⟩ := List.getElem?_eq_some_iff.mp (horigin k hk)
  obtain ⟨hl', hleq⟩ := List.getElem?_eq_some_iff.mp (horigin l hl)
  by_contra hge
  obtain hlt' | heq := Nat.lt_or_eq_of_le (Nat.le_of_not_lt hge)
  · have hmove := h _ hl' _ hk' (hleq ▸ hlop) (hkeq ▸ hkop) hlt'
    rw [σ.apply_symm_apply, σ.apply_symm_apply] at hmove
    omega
  · have hsame := σ.symm.injective heq
    omega

theorem Rearranges.symm {σ : Equiv.Perm Nat} {is js : List Instruction}
    (h : Rearranges σ is js) : Rearranges σ.symm js is where
  moved k := by rw [← h.moved, σ.apply_symm_apply]
  functions := h.functions.symm h.moved
  memoryModels := h.memoryModels.symm h.moved
  decorations := h.decorations.symm h.moved

/-! ### Numbered instructions -/

theorem mem_place_iff (is : List Instruction) (i : Instruction) :
    i ∈ place is ↔
      ∃ (n : Nat) (a : Instruction),
        is[n]? = some a ∧ { a with position := n, uses := [] } = i := by
  simp only [List.mem_iff_getElem?, place_getElem?, Option.map_eq_some_iff]

theorem pairwise_place (is : List Instruction) :
    (place is).Pairwise fun i j => i.position < j.position := by
  rw [place, List.pairwise_map]
  exact pairwise_zipIdx is 0

/-! ### Marks -/

theorem link_marks (refs : List (Id × Use)) (i : Instruction) :
    (link refs i).debugInfo = i.debugInfo ∧ (link refs i).nonSemantic = i.nonSemantic := by
  unfold link
  split <;> exact ⟨rfl, rfl⟩

theorem classify_marks (is : List Instruction) (i : Instruction) :
    let set? := (i.operand 2).bind (importedSet? is)
    (classify is i).debugInfo =
        (i.debugInfo || i.opcode == .extInst && set?.any isDebugInfoSet) ∧
      (classify is i).nonSemantic =
        (i.nonSemantic || i.opcode == .extInst && set?.any isNonSemanticSet) := by
  by_cases hop : i.opcode = .extInst
  · simp only [classify, dif_pos hop]
    cases (i.operand 2).bind (importedSet? is) <;> simp [hop]
  · simp [classify, hop]

theorem finish_sameCode {placed placed' : List Instruction}
    (hsets : importedSet? placed = importedSet? placed') {i j : Instruction} (hij : i.SameCode j) :
    (finish placed i).SameCode (finish placed' j) where
  opcode := by rw [(finish_keepsCode _).opcode, (finish_keepsCode _).opcode, hij.opcode]
  words := by rw [(finish_keepsCode _).words, (finish_keepsCode _).words, hij.words]
  debugInfo := by
    rw [finish, finish, (link_marks _ _).1, (link_marks _ _).1, (classify_marks _ _).1,
      (classify_marks _ _).1, hsets, hij.opcode, hij.operand, hij.debugInfo]
  nonSemantic := by
    rw [finish, finish, (link_marks _ _).2, (link_marks _ _).2, (classify_marks _ _).2,
      (classify_marks _ _).2, hsets, hij.opcode, hij.operand, hij.nonSemantic]

/-! ### Tables that depend on few instructions -/

theorem foldl_nextAddressing_filter (a : AddressingModel) (is : List Instruction) :
    (is.filter (·.opcode == .memoryModel)).foldl nextAddressing a = is.foldl nextAddressing a := by
  rw [List.foldl_filter]
  congr 1
  funext current i
  rw [nextAddressing]
  split <;> rfl

theorem ownDecorations_of_not_decorates {i : Instruction} (h : i.opcode.decorates = false) :
    i.ownDecorations = [] := by
  unfold Instruction.ownDecorations
  split <;> simp_all [Opcode.decorates]

theorem granted_of_not_decorates (table : List (Id × Decoration)) {i : Instruction}
    (h : i.opcode.decorates = false) : DecorationTable.granted table i = [] := by
  unfold DecorationTable.granted
  split <;> simp_all [Opcode.decorates]

theorem flatMap_ownDecorations_filter (is : List Instruction) :
    (is.filter (·.opcode.decorates)).flatMap Instruction.ownDecorations =
      is.flatMap Instruction.ownDecorations := by
  induction is with
  | nil => rfl
  | cons i is ih =>
    rw [List.filter_cons, List.flatMap_cons]
    cases hop : i.opcode.decorates with
    | true => rw [if_pos rfl, List.flatMap_cons, ih]
    | false =>
      rw [if_neg Bool.false_ne_true, ownDecorations_of_not_decorates hop, List.nil_append, ih]

theorem decorationTable_filter (is : List Instruction) :
    DecorationTable.ofInstructions (is.filter (·.opcode.decorates)) =
      DecorationTable.ofInstructions is := by
  rw [DecorationTable.ofInstructions, DecorationTable.ofInstructions,
    flatMap_ownDecorations_filter, List.foldl_filter]
  congr 1
  funext table i
  cases hop : i.opcode.decorates with
  | true => rfl
  | false =>
    rw [granted_of_not_decorates table hop, List.append_nil]
    rfl

theorem continueFrom_filter (enclosing : Option (Nat × Nat)) (is : List Instruction) :
    ParameterTable.continueFrom enclosing (is.filter (·.opcode.delimitsParameters)) =
      ParameterTable.continueFrom enclosing is := by
  induction is generalizing enclosing with
  | nil => rfl
  | cons i is ih =>
    rw [List.filter_cons]
    cases hop : i.opcode.delimitsParameters with
    | true => rw [if_pos rfl, ParameterTable.continueFrom, ParameterTable.continueFrom, ih]
    | false =>
      have hfunction : i.opcode ≠ .function := by
        intro h
        rw [h] at hop
        contradiction
      have hparameter : i.opcode ≠ .functionParameter := by
        intro h
        rw [h] at hop
        contradiction
      have hslot : ParameterTable.slot? enclosing i = none := if_neg hparameter
      have hnext : ParameterTable.next enclosing i = enclosing := by
        rw [ParameterTable.next, if_neg hfunction, if_neg fun h => hparameter h.1]
      rw [if_neg Bool.false_ne_true, ih, ParameterTable.continueFrom, hslot, hnext]
      rfl

section Filtered

variable {σ : Equiv.Perm Nat} {is js : List Instruction}

theorem foldl_nextAddressing_eq_of_filter
    (h : js.filter (·.opcode == .memoryModel) =
      (is.filter (·.opcode == .memoryModel)).map (·.movedBy σ)) (a : AddressingModel) :
    is.foldl nextAddressing a = js.foldl nextAddressing a := by
  rw [← foldl_nextAddressing_filter, ← foldl_nextAddressing_filter a js, h, List.foldl_map]
  rfl

theorem decorationTable_eq_of_filter
    (h : js.filter (·.opcode.decorates) = (is.filter (·.opcode.decorates)).map (·.movedBy σ)) :
    DecorationTable.ofInstructions is = DecorationTable.ofInstructions js := by
  rw [← decorationTable_filter, ← decorationTable_filter js, h, DecorationTable.ofInstructions,
    DecorationTable.ofInstructions, List.foldl_map, List.flatMap_map]
  rfl

theorem lookup_parameterTable_of_filter
    (h : js.filter (·.opcode.delimitsParameters) =
      (is.filter (·.opcode.delimitsParameters)).map (·.movedBy σ))
    (his : is.Pairwise fun i j => i.position < j.position)
    (hjs : js.Pairwise fun i j => i.position < j.position) (n : Nat) :
    ((ParameterTable.ofInstructions js).lookup (σ n)).bind ParameterSlot.enclosing? =
      ParameterTable.moveEnclosing σ
        (((ParameterTable.ofInstructions is).lookup n).bind ParameterSlot.enclosing?) := by
  have hordered := his.filter (·.opcode.delimitsParameters)
  have hmoved := hjs.filter (·.opcode.delimitsParameters)
  rw [h, List.pairwise_map] at hmoved
  have houtside : (none : Option (Nat × Nat)) ≠ none →
      ∀ i ∈ is.filter (·.opcode.delimitsParameters), i.position ≠ 0 ∧ σ i.position ≠ 0 :=
    fun hnone => absurd rfl hnone
  have hlookup :=
    ParameterTable.lookup_continueFrom_movedBy σ (hordered.and hmoved) houtside n
  rwa [← h, continueFrom_filter, continueFrom_filter] at hlookup

end Filtered

namespace Rearranges

variable {σ : Equiv.Perm Nat} {is js : List Instruction}

theorem mem_place_iff (h : Rearranges σ is js) (j : Instruction) :
    j ∈ place js ↔ ∃ i ∈ place is, i.movedBy σ = j := by
  simp only [Module.mem_place_iff]
  constructor
  · rintro ⟨n, a, ha, rfl⟩
    have hmoved := h.moved (σ.symm n)
    rw [σ.apply_symm_apply, ha] at hmoved
    refine ⟨_, ⟨σ.symm n, a, hmoved.symm, rfl⟩, ?_⟩
    simp only [Instruction.movedBy, σ.apply_symm_apply]
  · rintro ⟨_, ⟨n, a, ha, rfl⟩, rfl⟩
    exact ⟨σ n, a, (h.moved n).trans ha, rfl⟩

theorem place_perm (h : Rearranges σ is js) :
    (place js).Perm ((place is).map (·.movedBy σ)) := by
  have hdistinct : ((place is).map (·.movedBy σ)).Nodup := by
    rw [List.nodup_iff_pairwise_ne, List.pairwise_map]
    refine (pairwise_place is).imp fun hlt heq => ?_
    have hposition := σ.injective (congrArg Instruction.position heq)
    omega
  have hdistinct' : (place js).Nodup := by
    rw [List.nodup_iff_pairwise_ne]
    exact (pairwise_place js).imp fun hlt heq => Nat.ne_of_lt hlt (congrArg _ heq)
  rw [List.perm_ext_iff_of_nodup hdistinct' hdistinct]
  intro j
  rw [h.mem_place_iff, List.mem_map]

/-- Instructions that keep their order form the same sequence, up to their positions. -/
theorem filter_place (h : Rearranges σ is js) {among : Opcode → Bool}
    (hkeeps : KeepsOrder σ is among) :
    (place js).filter (among ·.opcode) =
      ((place is).filter (among ·.opcode)).map (·.movedBy σ) := by
  have hperm := h.place_perm.filter (among ·.opcode)
  rw [List.filter_map] at hperm
  -- both sides have the same instructions, and both are ordered by position
  refine List.Perm.eq_of_pairwise ?_ ((pairwise_place js).filter _) ?_ hperm
  · intro a b _ _ hab hba
    exact absurd hab (Nat.lt_asymm hba)
  · rw [List.pairwise_map]
    refine ((pairwise_place is).filter _).imp_of_mem fun {i j} hi hj hlt => ?_
    obtain ⟨hi, hiop⟩ := List.mem_filter.mp hi
    obtain ⟨hj, hjop⟩ := List.mem_filter.mp hj
    obtain ⟨k, a, ha, rfl⟩ := (Module.mem_place_iff is i).mp hi
    obtain ⟨l, b, hb, rfl⟩ := (Module.mem_place_iff is j).mp hj
    obtain ⟨hk, rfl⟩ := List.getElem?_eq_some_iff.mp ha
    obtain ⟨hl, rfl⟩ := List.getElem?_eq_some_iff.mp hb
    exact hkeeps k hk l hl hiop hjop hlt

theorem declared_perm (h : Rearranges σ is js) {α : Type} {declared? : Instruction → Option α}
    (hcode : ∀ i : Instruction, declared? (i.movedBy σ) = declared? i) :
    ((place js).filterMap declared?).Perm ((place is).filterMap declared?) := by
  have hperm := h.place_perm.filterMap declared?
  rwa [List.filterMap_map, show declared? ∘ Instruction.movedBy σ = declared? from funext hcode]
    at hperm

/-! ### Building -/

theorem checkResults_iff (h : Rearranges σ is js) :
    checkResults [] (place js) = .ok () ↔ checkResults [] (place is) = .ok () := by
  have hresults : ((place js).filterMap Instruction.resultId).Perm
      ((place is).filterMap Instruction.resultId) := h.declared_perm fun _ => rfl
  simp only [checkResults_eq_ok_iff, List.not_mem_nil, not_false_eq_true, implies_true, and_true,
    hresults.nodup_iff, h.mem_place_iff, forall_exists_index, and_imp, forall_apply_eq_imp_iff₂]
  rfl

theorem exists_build_iff (h : Rearranges σ is js) (v : Version) (a : AddressingModel) :
    (∃ m, build v a is = .ok m) ↔ ∃ m, build v a js = .ok m := by
  simp only [build_eq_ok_iff, exists_and_left, exists_eq', and_true, h.checkResults_iff]

theorem importedSet?_place (h : Rearranges σ is js)
    (hdistinct : ((place is).filterMap Instruction.resultId).Nodup) :
    importedSet? (place is) = importedSet? (place js) := by
  funext id
  have hfind : SameFind
      ((place is).find? fun i => i.opcode == .extInstImport && i.resultId == some id)
      ((place js).find? fun i => i.opcode == .extInstImport && i.resultId == some id) := by
    refine SameFind.find? ?_ ?_ ?_ ?_
    · intro i hi
      exact ⟨i.movedBy σ, (h.mem_place_iff _).mpr ⟨i, hi, rfl⟩, i.sameCode_movedBy σ⟩
    · intro j hj
      obtain ⟨i, hi, rfl⟩ := (h.mem_place_iff j).mp hj
      exact ⟨i, hi, i.sameCode_movedBy σ⟩
    · intro i j hij
      rw [hij.opcode, hij.resultId]
    · intro i hi j hj hpi hpj
      simp only [Bool.and_eq_true, beq_iff_eq] at hpi hpj
      exact eq_of_resultId_eq hdistinct hi hj hpi.2 hpj.2
  exact hfind.map fun _ _ hij => by rw [hij.operandsFrom]

/-! ### The tables of a rearranged sequence -/

theorem foldl_nextAddressing (h : Rearranges σ is js) (a : AddressingModel) :
    (place is).foldl nextAddressing a = (place js).foldl nextAddressing a :=
  foldl_nextAddressing_eq_of_filter (h.filter_place h.memoryModels) a

theorem decorationTable (h : Rearranges σ is js) :
    DecorationTable.ofInstructions (place is) = DecorationTable.ofInstructions (place js) :=
  decorationTable_eq_of_filter (h.filter_place h.decorations)

end Rearranges
end Module
end Spirv
