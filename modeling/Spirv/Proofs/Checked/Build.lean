import Spirv.Proofs.Checked.Operand
import Spirv.Proofs.Module.Rearranged

set_option autoImplicit false

/-!
# Checked building

Each reference is noted at the position that the table of definitions has for its id, each grant to
members takes its words two by two, and each parameter adds to the number of those in front of it.
-/
namespace Spirv

namespace Checked

/-! ### Uses -/

def definitionTable (is : List Instruction) : List (Id × Nat) :=
  is.filterMap fun i => i.resultId.map fun id => (id, i.position)

def links (table : List (Id × Nat)) (refs : List (Id × Use)) : List (Nat × Use) :=
  refs.filterMap fun r => (table.lookup r.1).map fun position => (position, r.2)

def addUse (is : List Instruction) (position : Nat) (u : Use) : Checked (List Instruction) := do
  let _ ← index is position
  return is.modify position fun i => { i with uses := i.uses ++ [u] }

def addUses (is : List Instruction) : List (Nat × Use) → Checked (List Instruction)
  | [] => .ok is
  | (position, u) :: rest => do
    let is ← addUse is position u
    addUses is rest

structure Placed (is : List Instruction) : Prop where
  position : ∀ (n : Nat) (i : Instruction), is[n]? = some i → i.position = n
  distinct : (is.filterMap Instruction.resultId).Nodup

theorem lookup_eq_some_iff_mem {table : List (Id × Nat)} {id : Id} {position : Nat}
    (h : (table.map Prod.fst).Nodup) :
    table.lookup id = some position ↔ (id, position) ∈ table := by
  constructor
  · intro hlookup
    obtain ⟨front, back, rfl, -⟩ := List.lookup_eq_some_iff.mp hlookup
    exact List.mem_append_right _ List.mem_cons_self
  · intro hmem
    obtain ⟨front, back, rfl⟩ := List.append_of_mem hmem
    refine List.lookup_eq_some_iff.mpr ⟨front, back, rfl, fun p hp => bne_iff_ne.mpr ?_⟩
    rw [List.map_append, List.map_cons, List.nodup_append] at h
    exact (h.2.2 p.1 (List.mem_map_of_mem hp) id List.mem_cons_self).symm

theorem mem_definitionTable_iff {is : List Instruction} (h : Placed is) {id : Id}
    {position : Nat} : (id, position) ∈ definitionTable is ↔
      ∃ i, is[position]? = some i ∧ i.resultId = some id := by
  simp only [definitionTable, List.mem_filterMap, Option.map_eq_some_iff, Prod.mk.injEq]
  constructor
  · rintro ⟨i, hi, _, hid, rfl, rfl⟩
    obtain ⟨n, hn⟩ := List.mem_iff_getElem?.mp hi
    exact ⟨i, (h.position n i hn).symm ▸ hn, hid⟩
  · rintro ⟨i, hi, hid⟩
    exact ⟨i, List.mem_of_getElem? hi, id, hid, rfl, h.position position i hi⟩

theorem Placed.lookup_definitionTable {is : List Instruction} (h : Placed is) {id : Id}
    {position : Nat} : (definitionTable is).lookup id = some position ↔
      ∃ i, is[position]? = some i ∧ i.resultId = some id := by
  have hkeys : (definitionTable is).map Prod.fst = is.filterMap Instruction.resultId := by
    rw [definitionTable, List.map_filterMap]
    congr 1
    funext i
    cases i.resultId <;> rfl
  rw [lookup_eq_some_iff_mem (hkeys ▸ h.distinct), mem_definitionTable_iff h]

theorem link_nil {i : Instruction} (h : i.uses = []) : Module.link [] i = i := by
  unfold Module.link
  split
  · exact congrArg (fun us => ({ i with uses := us } : Instruction)) h.symm
  · rfl

theorem link_append (refs : List (Id × Use)) (id : Id) (u : Use) (i : Instruction) :
    Module.link (refs ++ [(id, u)]) i =
      if i.resultId = some id then
        { Module.link refs i with uses := (Module.link refs i).uses ++ [u] }
      else Module.link refs i := by
  unfold Module.link
  cases hid : i.resultId with
  | none => simp
  | some x =>
    by_cases hx : x = id
    · simp [hx]
    · have hne : ¬ id = x := fun h => hx h.symm
      simp [hx, hne]

/-- A reference is noted at an instruction that there is, the definition of its id. -/
theorem Placed.addUse_eq_ok {is : List Instruction} (h : Placed is) (before : List (Id × Use))
    {id : Id} (u : Use) {position : Nat} (hlookup : (definitionTable is).lookup id = some position) :
    addUse (is.map (Module.link before)) position u =
      .ok (is.map (Module.link (before ++ [(id, u)]))) := by
  obtain ⟨d, hd, hid⟩ := h.lookup_definitionTable.mp hlookup
  have hindex : (is.map (Module.link before))[position]? = some (Module.link before d) := by
    rw [List.getElem?_map, hd, Option.map_some]
  rw [addUse, index_eq_ok hindex, ok_bind, pure_eq_ok]
  refine congrArg Except.ok (List.ext_getElem? fun n => ?_)
  rw [List.getElem?_modify, List.getElem?_map, List.getElem?_map]
  cases hn : is[n]? with
  | none => rfl
  | some i =>
    have hdefines : i.resultId = some id ↔ position = n := by
      constructor
      · intro hi
        exact Option.some.inj (hlookup.symm.trans (h.lookup_definitionTable.mpr ⟨i, hn, hi⟩))
      · rintro rfl
        rwa [← Option.some.inj (hd.symm.trans hn)]
    simp only [Option.map_some, link_append, hdefines, Option.map_eq_map]

theorem Placed.addUses_eq_ok {is : List Instruction} (h : Placed is) (before : List (Id × Use))
    (refs : List (Id × Use)) :
    addUses (is.map (Module.link before)) (links (definitionTable is) refs) =
      .ok (is.map (Module.link (before ++ refs))) := by
  induction refs generalizing before with
  | nil => rw [List.append_nil]; rfl
  | cons r refs ih =>
    obtain ⟨id, u⟩ := r
    have hnext := ih (before ++ [(id, u)])
    rw [List.append_assoc, List.singleton_append] at hnext
    cases hlookup : (definitionTable is).lookup id with
    | none =>
      have hsame : is.map (Module.link (before ++ [(id, u)])) = is.map (Module.link before) := by
        refine List.map_congr_left fun i hi => ?_
        rw [link_append, if_neg fun hid => ?_]
        obtain ⟨n, hn⟩ := List.mem_iff_getElem?.mp hi
        rw [h.lookup_definitionTable.mpr ⟨i, hn, hid⟩] at hlookup
        contradiction
      rw [hsame] at hnext
      simpa [links, hlookup] using hnext
    | some position =>
      have hlinks : links (definitionTable is) ((id, u) :: refs) =
          (position, u) :: links (definitionTable is) refs := by
        simp [links, hlookup]
      rw [hlinks, addUses, h.addUse_eq_ok before u hlookup, ok_bind, hnext]

def references (is : List Instruction) : Checked (List (Id × Use)) :=
  gather (fun i => do
    let operands ← idOperands i
    return operands.map fun p => (p.2, ⟨i.position, p.1⟩)) is

theorem references_eq_ok {is : List Instruction}
    (hlen : ∀ i ∈ is, i.words.length < UInt64.size) :
    references is = .ok (Module.references is) := by
  refine gather_eq_ok fun i hi => ?_
  rw [idOperands_eq_ok (hlen i hi), ok_bind, pure_eq_ok]

/-! ### Texts -/

def decode (ws : List Word) : Checked String := do
  let _ ← mul ws.length 4
  return Literal.decode ws

theorem decode_eq_ok {ws : List Word} (h : ws.length * 4 < UInt64.size) :
    decode ws = .ok (Literal.decode ws) := by
  rw [decode, mul_eq_ok h, ok_bind, pure_eq_ok]

def text? (i : Instruction) : Option (List Word) :=
  match i.opcode with
  | .extension => some i.words
  | .extInstImport | .name => (i.operand 0).map fun _ => i.operandsFrom 1
  | _ => none

theorem text?_length_le {i : Instruction} {ws : List Word} (h : text? i = some ws) :
    ws.length ≤ i.words.length := by
  have hdrop : (i.operandsFrom 1).length ≤ i.words.length := by
    rw [Instruction.operandsFrom, List.length_drop]
    omega
  rw [text?] at h
  split at h
  · rw [← Option.some.inj h]
  · obtain ⟨_, -, rfl⟩ := Option.map_eq_some_iff.mp h
    exact hdrop
  · obtain ⟨_, -, rfl⟩ := Option.map_eq_some_iff.mp h
    exact hdrop
  · contradiction

def texts (is : List Instruction) : Checked (List String) :=
  gather (fun i => match text? i with
    | none => .ok []
    | some ws => do
      let text ← decode ws
      return [text]) is

theorem texts_eq_ok {is : List Instruction} (hlen : ∀ i ∈ is, i.words.length * 4 < UInt64.size) :
    texts is = .ok (is.flatMap fun i => ((text? i).map Literal.decode).toList) := by
  refine gather_eq_ok fun i hi => ?_
  cases htext : text? i with
  | none => rfl
  | some ws =>
    have hws := text?_length_le htext
    have hbytes : ws.length * 4 < UInt64.size :=
      Nat.lt_of_le_of_lt (Nat.mul_le_mul_right 4 hws) (hlen i hi)
    dsimp only
    rw [decode_eq_ok hbytes, ok_bind]
    rfl

/-! ### Decorations -/

/-- The parts of a given length, without a rest that is shorter. -/
def chunks (n : Nat) (ws : List Word) : List (List Word) :=
  (List.range (ws.length / n)).map fun k => (ws.drop (n * k)).take n

theorem chunks_two_cons (a b : Word) (rest : List Word) :
    chunks 2 (a :: b :: rest) = [a, b] :: chunks 2 rest := by
  have hlength : (a :: b :: rest).length / 2 = rest.length / 2 + 1 := by
    simp only [List.length_cons]
    omega
  rw [chunks, hlength, List.range_succ_eq_map, List.map_cons, List.map_map, chunks]
  rfl

theorem chunks_two (ws : List Word) :
    chunks 2 ws = (DecorationTable.pairs ws).map fun p => [p.1, p.2] := by
  fun_induction DecorationTable.pairs ws with
  | case1 a b rest ih => rw [chunks_two_cons, ih, List.map_cons]
  | case2 ws h =>
    have hshort : ws.length / 2 = 0 := by
      match ws, h with
      | [], _ => exact Nat.zero_div 2
      | [_], _ => exact Nat.div_eq_of_lt Nat.one_lt_two
      | a :: b :: rest, h => exact absurd rfl (h a b rest)
    rw [chunks, hshort]
    rfl

def granted (table : List (Id × Decoration)) (i : Instruction) :
    Checked (List (Id × Decoration)) :=
  match i.opcode, i.words with
  | .groupMemberDecorate, group :: targets =>
    gather (fun chunk => do
      let target ← index chunk 0
      let member ← index chunk 1
      return (decorationsIn table group).map fun d => (target, { d with member := some member }))
      (chunks 2 targets)
  | _, _ => .ok (DecorationTable.granted table i)

theorem granted_eq_ok (table : List (Id × Decoration)) (i : Instruction) :
    granted table i = .ok (DecorationTable.granted table i) := by
  unfold granted
  split
  · rename_i group targets hop hwords
    have heach (p : Word × Word) : (do
        let target ← index [p.1, p.2] 0
        let member ← index [p.1, p.2] 1
        return (decorationsIn table group).map fun d =>
          (target, ({ d with member := some member } : Decoration))) =
        (.ok ((decorationsIn table group).map fun d =>
          (p.1, { d with member := some p.2 })) : Checked (List (Id × Decoration))) := rfl
    rw [chunks_two, gather_map, gather_eq_ok fun p _ => heach p]
    simp only [DecorationTable.granted, hop, hwords]
  · rfl

def grantAll (table : List (Id × Decoration)) : List Instruction → Checked (List (Id × Decoration))
  | [] => .ok table
  | i :: rest => do
    let more ← granted table i
    grantAll (table ++ more) rest

theorem grantAll_eq_ok (table : List (Id × Decoration)) (is : List Instruction) :
    grantAll table is =
      .ok (is.foldl (fun table i => table ++ DecorationTable.granted table i) table) := by
  induction is generalizing table with
  | nil => rfl
  | cons i is ih => rw [grantAll, granted_eq_ok, ok_bind, ih, List.foldl_cons]

/-! ### Parameters -/

def next (enclosing : Option (Nat × Nat)) (i : Instruction) : Checked (Option (Nat × Nat)) :=
  if i.opcode = .function then .ok (some (i.position, 0))
  else if i.opcode = .functionParameter ∧ i.position ≠ 0 then
    match enclosing with
    | none => .ok none
    | some slot => do
      let index ← add slot.2 1
      return some (slot.1, index)
  else .ok enclosing

def parametersFrom : Option (Nat × Nat) → List Instruction → Checked (List (Nat × ParameterSlot))
  | _, [] => .ok []
  | enclosing, i :: rest => do
    let after ← next enclosing i
    let slots ← parametersFrom after rest
    return ((ParameterTable.slot? enclosing i).toList.map fun slot => (i.position, slot)) ++ slots

/-- The number of parameters of the enclosing function so far, with all instructions to come, fits
into a word. -/
def Fits (enclosing : Option (Nat × Nat)) (is : List Instruction) : Prop :=
  ∀ slot, enclosing = some slot → slot.2 + is.length < UInt64.size

theorem next_eq_ok {enclosing : Option (Nat × Nat)} {i : Instruction} {rest : List Instruction}
    (h : Fits enclosing (i :: rest)) (hlen : rest.length < UInt64.size) :
    next enclosing i = .ok (ParameterTable.next enclosing i) ∧
      Fits (ParameterTable.next enclosing i) rest := by
  unfold next ParameterTable.next
  split
  case isTrue =>
    refine ⟨rfl, fun slot hslot => ?_⟩
    obtain rfl := Option.some.inj hslot
    rwa [Nat.zero_add]
  case isFalse =>
    split
    case isTrue =>
      cases enclosing with
      | none => exact ⟨rfl, fun slot hslot => (nomatch hslot)⟩
      | some slot =>
        have hslot : slot.2 + (rest.length + 1) < UInt64.size := h slot rfl
        refine ⟨?_, fun slot' hslot' => ?_⟩
        · dsimp only
          rw [add_eq_ok (by omega), ok_bind]
          rfl
        · obtain rfl := Option.some.inj hslot'
          change slot.2 + 1 + rest.length < UInt64.size
          omega
    case isFalse =>
      refine ⟨rfl, fun slot hslot => ?_⟩
      have hle : slot.2 + (rest.length + 1) < UInt64.size := h slot hslot
      omega

theorem parametersFrom_eq_ok {enclosing : Option (Nat × Nat)} {is : List Instruction}
    (h : Fits enclosing is) (hlen : is.length < UInt64.size) :
    parametersFrom enclosing is = .ok (ParameterTable.continueFrom enclosing is) := by
  induction is generalizing enclosing with
  | nil => rfl
  | cons i rest ih =>
    have hrest : rest.length < UInt64.size := Nat.lt_of_succ_lt hlen
    obtain ⟨hnext, hfits⟩ := next_eq_ok h hrest
    rw [parametersFrom, hnext, ok_bind, ih hfits hrest, ok_bind, pure_eq_ok,
      ParameterTable.continueFrom]

/-! ### Building -/

def assemble (v : Version) (a : AddressingModel) (placed : List Instruction) : Checked Module := do
  let _ ← texts placed
  let classified := placed.map (Module.classify placed)
  let refs ← references classified
  let instructions ← addUses classified (links (definitionTable classified) refs)
  let decorations ← grantAll (placed.flatMap Instruction.ownDecorations) placed
  let parameters ← parametersFrom none placed
  return { Module.assemble v a placed with instructions, decorations, parameters }

def build (v : Version) (a : AddressingModel) (is : List Instruction) :
    Checked (Except BuildError Module) :=
  after (Module.checkResults [] (Module.place is)) fun _ => do
    let m ← assemble v a (Module.place is)
    return .ok m

/-- A sequence of instructions that memory can hold. -/
structure InMemory (is : List Instruction) : Prop where
  length : is.length < UInt64.size
  words : ∀ i ∈ is, i.words.length * 4 < UInt64.size

theorem InMemory.place {is : List Instruction} (h : InMemory is) : InMemory (Module.place is) where
  length := by
    rw [Module.place, List.length_map, List.length_zipIdx]
    exact h.length
  words := by
    intro i hi
    obtain ⟨n, j, hj, rfl⟩ := (Module.mem_place_iff is i).mp hi
    exact h.words j (List.mem_of_getElem? hj)

theorem Placed.map {is : List Instruction} (h : Placed is) {f : Instruction → Instruction}
    (hf : Module.KeepsCode f) : Placed (is.map f) where
  position := by
    intro n i hi
    rw [List.getElem?_map] at hi
    obtain ⟨j, hj, rfl⟩ := Option.map_eq_some_iff.mp hi
    rw [hf.position, h.position n j hj]
  distinct := by
    rw [List.filterMap_map]
    simpa only [Function.comp_def, hf.resultId] using h.distinct

theorem placed_of_checkResults {is : List Instruction}
    (h : Module.checkResults [] (Module.place is) = .ok ()) : Placed (Module.place is) where
  position := by
    intro n i hi
    rw [Module.place_getElem?] at hi
    obtain ⟨j, -, rfl⟩ := Option.map_eq_some_iff.mp hi
    rfl
  distinct := ((Module.checkResults_eq_ok_iff [] _).mp h).2.1

theorem assemble_eq_ok {placed : List Instruction} (h : InMemory placed) (hplaced : Placed placed)
    (huses : ∀ i ∈ placed, i.uses = []) (v : Version) (a : AddressingModel) :
    assemble v a placed = .ok (Module.assemble v a placed) := by
  have hkeeps := Module.classify_keepsCode placed
  have hwords : ∀ i ∈ placed.map (Module.classify placed), i.words.length < UInt64.size := by
    intro i hi
    obtain ⟨j, hj, rfl⟩ := List.mem_map.mp hi
    have hj' := h.words j hj
    rw [hkeeps.words]
    omega
  have hunlinked : (placed.map (Module.classify placed)).map (Module.link []) =
      placed.map (Module.classify placed) := by
    rw [List.map_map]
    refine List.map_congr_left fun i hi => link_nil ?_
    rw [Module.classify_uses, huses i hi]
  have hadd := (hplaced.map hkeeps).addUses_eq_ok [] (Module.references placed)
  rw [hunlinked, List.nil_append] at hadd
  have hfits : Fits none placed := fun slot hslot => (nomatch hslot)
  rw [assemble, texts_eq_ok h.words, ok_bind]
  dsimp only
  rw [references_eq_ok hwords, ok_bind, hkeeps.references, hadd, ok_bind, grantAll_eq_ok, ok_bind,
    parametersFrom_eq_ok hfits h.length, ok_bind]
  rfl

/-- Nothing goes wrong when a module is built. -/
theorem build_eq_ok {is : List Instruction} (h : InMemory is) (v : Version) (a : AddressingModel) :
    build v a is = .ok (Module.build v a is) := by
  rw [build, Module.build]
  cases hchecked : Module.checkResults [] (Module.place is) with
  | error e => rfl
  | ok u =>
    have huses : ∀ i ∈ Module.place is, i.uses = [] := by
      intro i hi
      obtain ⟨n, j, -, rfl⟩ := (Module.mem_place_iff is i).mp hi
      rfl
    rw [after, assemble_eq_ok h.place (placed_of_checkResults hchecked) huses]
    rfl

end Checked
end Spirv
