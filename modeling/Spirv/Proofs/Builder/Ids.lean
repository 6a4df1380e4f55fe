import Spirv.Builder.Basic
import Spirv.Proofs.Module.Definitions

set_option autoImplicit false

/-!
# The ids of a builder

The next id of a builder is above every id that the builder has handed out and above every result id
of its instructions. So a declaration never takes an id that is in use, and only instructions that
are pushed with words of their own can keep a module from being built.
-/
namespace Spirv

def BuilderStep.appended? (next : Id) : BuilderStep → Option Instruction
  | .push op words => some (.ofOpcode op words)
  | .append directive => some (.ofOpcode directive.parts.1 directive.parts.2)
  | .define declaration => some (declaration.instruction next)
  | .version _ | .addressing _ | .fresh => none

theorem Directive.hasResultId_eq_false (d : Directive) : d.parts.1.hasResultId = false := by
  cases d <;> rfl

theorem Declaration.hasResultId_eq_true (d : Declaration) : d.parts.1.hasResultId = true := by
  cases d with
  | typeTensor element rank shape => cases rank <;> rfl
  | _ => rfl

/-- A declaration has a result type exactly when its opcode asks for one. -/
theorem Declaration.hasResultType_eq (d : Declaration) :
    d.parts.1.hasResultType = d.parts.2.1.isSome := by
  cases d with
  | typeTensor element rank shape => cases rank <;> rfl
  | _ => rfl

theorem Declaration.resultId_instruction (d : Declaration) (id : Id) :
    (d.instruction id).resultId = some id := by
  have hindex : d.parts.1.resultIdIndex = some (if d.parts.2.1.isSome then 1 else 0) := by
    rw [Opcode.resultIdIndex, if_pos d.hasResultId_eq_true, d.hasResultType_eq]
  change d.parts.1.resultIdIndex.bind (fun k => (d.parts.2.1.toList ++ id :: d.parts.2.2)[k]?) = _
  rw [hindex]
  cases d.parts.2.1 <;> rfl

namespace Builder

theorem step_instructions (b : Builder) (s : BuilderStep) :
    (b.step s).2.instructions = b.instructions ++ (s.appended? b.nextId).toList := by
  cases s with
  | version v => exact (List.append_nil _).symm
  | addressing model => exact (List.append_nil _).symm
  | fresh => exact (List.append_nil _).symm
  | push op words => rfl
  | append directive => rfl
  | define declaration => rfl

theorem step_handsOut {b : Builder} {s : BuilderStep} {id : Id} (h : (b.step s).1 = some id) :
    id = b.nextId ∧ (b.step s).2.nextId = b.nextId + 1 := by
  cases s with
  | fresh => exact ⟨(Option.some.inj h).symm, rfl⟩
  | define declaration => exact ⟨(Option.some.inj h).symm, rfl⟩
  | version v => contradiction
  | addressing model => contradiction
  | push op words => contradiction
  | append directive => contradiction

/-- The call does not take the last id there is. -/
def CountsOn (b : Builder) (s : BuilderStep) : Prop :=
  (b.step s).1.isSome = true → b.nextId ≠ 0xFFFFFFFF

theorem lt_add_one {id : Id} (h : id ≠ 0xFFFFFFFF) : id < id + 1 := by
  have hlt := id.toNat_lt
  have hne : id.toNat ≠ 4294967295 := fun heq => h (UInt32.toNat_inj.mp heq)
  rw [UInt32.lt_iff_toNat_lt, UInt32.toNat_add, UInt32.toNat_one, Nat.mod_eq_of_lt (by omega)]
  omega

theorem lt_idAfter (id : Id) : id < idAfter id ∨ idAfter id = 0xFFFFFFFF := by
  rw [idAfter]
  split
  case isTrue h => exact Or.inr h
  case isFalse h => exact Or.inl (lt_add_one h)

theorem le_last (id : Id) : id ≤ 0xFFFFFFFF := by
  have hlt := id.toNat_lt
  rw [UInt32.le_iff_toNat_le]
  change id.toNat ≤ 4294967295
  omega

theorem max_eq_ite (a b : Id) : max a b = if a ≤ b then b else a := rfl

theorem push_nextId_le (b : Builder) (op : Opcode) (words : List Word) :
    b.nextId ≤ (b.push op words).nextId := by
  simp only [push]
  cases (Instruction.ofOpcode op words).resultId with
  | none => exact UInt32.le_refl _
  | some id =>
    dsimp only
    rw [max_eq_ite]
    split
    case isTrue h => exact h
    case isFalse => exact UInt32.le_refl _

theorem lt_push_nextId {b : Builder} {op : Opcode} {words : List Word} {id : Id}
    (h : (Instruction.ofOpcode op words).resultId = some id) :
    id < (b.push op words).nextId ∨ (b.push op words).nextId = 0xFFFFFFFF := by
  have hnext : (b.push op words).nextId = max b.nextId (idAfter id) := by simp only [push, h]
  rw [hnext, max_eq_ite]
  split
  case isTrue => exact lt_idAfter id
  case isFalse hle =>
    obtain hlt | hlast := lt_idAfter id
    · exact Or.inl (UInt32.lt_trans hlt (UInt32.not_le.mp hle))
    · exact absurd (hlast ▸ le_last b.nextId) hle

theorem step_nextId_le {b : Builder} {s : BuilderStep} (h : b.CountsOn s) :
    b.nextId ≤ (b.step s).2.nextId := by
  cases s with
  | version v => exact UInt32.le_refl _
  | addressing model => exact UInt32.le_refl _
  | fresh => exact UInt32.le_of_lt (lt_add_one (h rfl))
  | push op words => exact push_nextId_le b op words
  | append directive => exact push_nextId_le b _ _
  | define declaration => exact UInt32.le_of_lt (lt_add_one (h rfl))

/-- The next id is above the result ids in use, unless it is the last id there is. -/
structure Ahead (b : Builder) : Prop where
  nextId_ne_zero : b.nextId ≠ 0
  lt_nextId : ∀ i ∈ b.instructions, ∀ id, i.resultId = some id →
    id < b.nextId ∨ b.nextId = 0xFFFFFFFF

theorem ahead_empty : empty.Ahead where
  nextId_ne_zero := by decide
  lt_nextId := fun _ hi => absurd hi List.not_mem_nil

theorem appended_lt_nextId {b : Builder} {s : BuilderStep} (h : b.CountsOn s) {i : Instruction}
    {id : Id} (hi : s.appended? b.nextId = some i) (hid : i.resultId = some id) :
    id < (b.step s).2.nextId ∨ (b.step s).2.nextId = 0xFFFFFFFF := by
  cases s with
  | push op words =>
    obtain rfl := Option.some.inj hi
    exact lt_push_nextId hid
  | append directive =>
    obtain rfl := Option.some.inj hi
    exact lt_push_nextId hid
  | define declaration =>
    obtain rfl := Option.some.inj hi
    rw [declaration.resultId_instruction] at hid
    obtain rfl := Option.some.inj hid
    exact Or.inl (lt_add_one (h rfl))
  | version v => contradiction
  | addressing model => contradiction
  | fresh => contradiction

theorem Ahead.step {b : Builder} (hb : b.Ahead) {s : BuilderStep} (h : b.CountsOn s) :
    (b.step s).2.Ahead := by
  have hle := step_nextId_le h
  constructor
  · intro hzero
    have hpos := UInt32.pos_iff_ne_zero.mpr hb.nextId_ne_zero
    rw [hzero] at hle
    exact absurd hpos (UInt32.not_lt.mpr hle)
  · intro i hi id hid
    rw [step_instructions, List.mem_append] at hi
    obtain hi | hi := hi
    · obtain hlt | hlast := hb.lt_nextId i hi id hid
      · exact Or.inl (UInt32.lt_of_lt_of_le hlt hle)
      · exact Or.inr (UInt32.le_antisymm (le_last _) (hlast ▸ hle))
    · exact appended_lt_nextId h (Option.mem_toList.mp hi) hid

def DefinesAnew (is : List Instruction) (i : Instruction) : Prop :=
  i.opcode.hasResultId = true →
    ∃ id, i.resultId = some id ∧ id ≠ 0 ∧ ∀ j ∈ is, j.resultId ≠ some id

theorem resultId_eq_none {i : Instruction} (h : i.opcode.hasResultId = false) :
    i.resultId = none := by
  rw [Instruction.resultId, (Module.resultIdIndex_eq_none_iff i.opcode).mpr h, Option.bind_none]

theorem definesApart_append_iff (is : List Instruction) (i : Instruction) :
    Module.DefinesApart (is ++ [i]) ↔ Module.DefinesApart is ∧ DefinesAnew is i := by
  constructor
  · rintro ⟨hresult, hdistinct⟩
    rw [List.filterMap_append, List.nodup_append] at hdistinct
    obtain ⟨hfront, -, hapart⟩ := hdistinct
    refine ⟨⟨fun j hj => hresult j (List.mem_append_left _ hj), hfront⟩, fun hop => ?_⟩
    obtain ⟨id, hid, hne⟩ := hresult i List.mem_concat_self hop
    refine ⟨id, hid, hne, fun j hj hjd => ?_⟩
    have hj' : id ∈ is.filterMap Instruction.resultId := List.mem_filterMap.mpr ⟨j, hj, hjd⟩
    have hi' : id ∈ [i].filterMap Instruction.resultId :=
      List.mem_filterMap.mpr ⟨i, List.mem_singleton_self i, hid⟩
    exact hapart id hj' id hi' rfl
  · rintro ⟨⟨hresult, hdistinct⟩, hnew⟩
    cases hop : i.opcode.hasResultId with
    | false =>
      have hnone : [i].filterMap Instruction.resultId = [] := by simp [resultId_eq_none hop]
      refine ⟨fun j hj hjop => ?_, by rwa [List.filterMap_append, hnone, List.append_nil]⟩
      obtain hj | hj := List.mem_append.mp hj
      · exact hresult j hj hjop
      · rw [List.mem_singleton.mp hj, hop] at hjop
        contradiction
    | true =>
      obtain ⟨id, hid, hne, hfree⟩ := hnew hop
      constructor
      · intro j hj hjop
        obtain hj | hj := List.mem_append.mp hj
        · exact hresult j hj hjop
        · rw [List.mem_singleton.mp hj]
          exact ⟨id, hid, hne⟩
      · have hone : [i].filterMap Instruction.resultId = [id] := by simp [hid]
        rw [List.filterMap_append, hone, List.nodup_append]
        refine ⟨hdistinct, List.nodup_singleton id, ?_⟩
        rintro _ hmem _ hlast rfl
        obtain ⟨j, hj, hjd⟩ := List.mem_filterMap.mp hmem
        exact hfree j hj (List.mem_singleton.mp hlast ▸ hjd)

/-- The ids of a builder are apart again after a call unless the call pushes words of its own. -/
theorem definesApart_step_iff {b : Builder} (hb : b.Ahead) {s : BuilderStep} (h : b.CountsOn s) :
    Module.DefinesApart (b.step s).2.instructions ↔ Module.DefinesApart b.instructions ∧
      ∀ op words, s = .push op words → DefinesAnew b.instructions (.ofOpcode op words) := by
  rw [step_instructions]
  cases s with
  | version v => simp [BuilderStep.appended?]
  | addressing model => simp [BuilderStep.appended?]
  | fresh => simp [BuilderStep.appended?]
  | push op words => simp [BuilderStep.appended?, definesApart_append_iff]
  | append d =>
    have hnew : DefinesAnew b.instructions (.ofOpcode d.parts.1 d.parts.2) := fun hop =>
      absurd (d.hasResultId_eq_false.symm.trans hop) Bool.false_ne_true
    simp [BuilderStep.appended?, definesApart_append_iff, hnew]
  | define d =>
    have hnew : DefinesAnew b.instructions (d.instruction b.nextId) := by
      refine fun _ => ⟨b.nextId, d.resultId_instruction _, hb.nextId_ne_zero, fun j hj hjd => ?_⟩
      obtain hlt | hlast := hb.lt_nextId j hj _ hjd
      · exact UInt32.lt_irrefl _ hlt
      · exact h rfl hlast
    simp [BuilderStep.appended?, definesApart_append_iff, hnew]

/-! ### Runs of calls -/

def run (b : Builder) (steps : List BuilderStep) : Builder :=
  steps.foldl (fun b s => (b.step s).2) b

def before (steps : List BuilderStep) (k : Nat) : Builder := empty.run (steps.take k)

def Counts (steps : List BuilderStep) : Prop :=
  ∀ k s, steps[k]? = some s → (before steps k).CountsOn s

theorem before_succ {steps : List BuilderStep} {k : Nat} {s : BuilderStep}
    (h : steps[k]? = some s) : before steps (k + 1) = ((before steps k).step s).2 := by
  rw [before, List.take_add_one, h, run, List.foldl_append]
  rfl

theorem before_length (steps : List BuilderStep) :
    before steps steps.length = empty.run steps := by
  rw [before, List.take_length]

/-- What holds of a new builder and is kept by each call of a sequence holds in front of each of
them and behind the last one. -/
theorem before_induction {steps : List BuilderStep} {P : Nat → Builder → Prop} (hempty : P 0 empty)
    (hstep : ∀ k s, steps[k]? = some s → P k (before steps k) →
      P (k + 1) ((before steps k).step s).2) :
    ∀ k ≤ steps.length, P k (before steps k) := by
  intro k hk
  induction k with
  | zero => exact hempty
  | succ k ih =>
    have hs : steps[k]? = some steps[k] := List.getElem?_eq_getElem hk
    rw [before_succ hs]
    exact hstep k _ hs (ih (Nat.le_of_succ_le hk))

theorem Counts.ahead {steps : List BuilderStep} (h : Counts steps) :
    ∀ k ≤ steps.length, (before steps k).Ahead :=
  before_induction ahead_empty fun k s hs hk => hk.step (h k s hs)

/-- What each call does to the builder, if it adds up, relates earlier builders to later ones. -/
theorem before_rel {steps : List BuilderStep} {R : Builder → Builder → Prop}
    (hrefl : ∀ b, R b b) (htrans : ∀ {b c d}, R b c → R c d → R b d)
    (hstep : ∀ k s, steps[k]? = some s → R (before steps k) ((before steps k).step s).2) {p k : Nat}
    (hpk : p ≤ k) (hk : k ≤ steps.length) : R (before steps p) (before steps k) := by
  induction k, hpk using Nat.le_induction with
  | base => exact hrefl _
  | succ k _ ih =>
    have hs : steps[k]? = some steps[k] := List.getElem?_eq_getElem hk
    have hnext := hstep k _ hs
    rw [← before_succ hs] at hnext
    exact htrans (ih (Nat.le_of_succ_le hk)) hnext

theorem Counts.nextId_le {steps : List BuilderStep} (h : Counts steps) {p k : Nat} (hpk : p ≤ k)
    (hk : k ≤ steps.length) : (before steps p).nextId ≤ (before steps k).nextId :=
  before_rel (R := fun b c => b.nextId ≤ c.nextId) (fun _ => UInt32.le_refl _) UInt32.le_trans
    (fun k s hs => step_nextId_le (h k s hs)) hpk hk

theorem before_instructions_prefix {steps : List BuilderStep} {p k : Nat} (hpk : p ≤ k)
    (hk : k ≤ steps.length) :
    (before steps p).instructions <+: (before steps k).instructions :=
  before_rel (R := fun b c => b.instructions <+: c.instructions) (fun _ => List.prefix_refl _)
    List.IsPrefix.trans (fun _ s _ => ⟨_, (step_instructions _ s).symm⟩) hpk hk

structure KeepsIdsApart (steps : List BuilderStep) : Prop where
  handsOut_new : ∀ k s id, steps[k]? = some s → ((before steps k).step s).1 = some id → id ≠ 0 ∧
    (∀ p t earlier, p < k → steps[p]? = some t →
      ((before steps p).step t).1 = some earlier → earlier < id) ∧
    ∀ i ∈ (before steps k).instructions, ∀ used, i.resultId = some used → used < id
  builds_iff : (∃ m, (empty.run steps).build = .ok m) ↔
    ∀ k op words, steps[k]? = some (.push op words) →
      DefinesAnew (before steps k).instructions (.ofOpcode op words)
  definition : ∀ m, (empty.run steps).build = .ok m → ∀ k d id, steps[k]? = some (.define d) →
    ((before steps k).step (.define d)).1 = some id →
    ∃ i, m.definition? id = some i ∧ i.position = (before steps k).instructions.length ∧
      i.opcode = d.parts.1 ∧ i.words = d.parts.2.1.toList ++ id :: d.parts.2.2

theorem Counts.lt_handedOut {steps : List BuilderStep} (h : Counts steps) {p k : Nat} (hpk : p < k)
    {s t : BuilderStep} {earlier id : Id} (ht : steps[p]? = some t) (hs : steps[k]? = some s)
    (hearlier : ((before steps p).step t).1 = some earlier)
    (hid : ((before steps k).step s).1 = some id) : earlier < id := by
  obtain ⟨hlt, -⟩ := List.getElem?_eq_some_iff.mp hs
  obtain ⟨rfl, hnext⟩ := step_handsOut hearlier
  obtain ⟨rfl, -⟩ := step_handsOut hid
  have hle := h.nextId_le hpk (Nat.le_of_lt hlt)
  rw [before_succ ht, hnext] at hle
  exact UInt32.lt_of_lt_of_le (lt_add_one (h p t ht (by rw [hearlier]; rfl))) hle

theorem Counts.definesApart_iff {steps : List BuilderStep} (h : Counts steps) :
    ∀ k ≤ steps.length, (Module.DefinesApart (before steps k).instructions ↔
      ∀ p < k, ∀ op words, steps[p]? = some (.push op words) →
        DefinesAnew (before steps p).instructions (.ofOpcode op words)) := by
  refine before_induction (P := fun k b => Module.DefinesApart b.instructions ↔
    ∀ p < k, ∀ op words, steps[p]? = some (.push op words) →
      DefinesAnew (before steps p).instructions (.ofOpcode op words)) ?_ fun k s hs ih => ?_
  · have hempty : Module.DefinesApart [] := ⟨fun i hi => absurd hi List.not_mem_nil, List.nodup_nil⟩
    exact iff_of_true hempty fun p hp => absurd hp (Nat.not_lt_zero p)
  · have hk : k ≤ steps.length := Nat.le_of_lt (List.getElem?_eq_some_iff.mp hs).1
    rw [definesApart_step_iff (h.ahead k hk) (h k s hs), ih, Nat.forall_lt_succ_right, hs]
    simp only [Option.some.injEq]

theorem getElem?_defined {steps : List BuilderStep} {k : Nat} {d : Declaration}
    (hd : steps[k]? = some (.define d)) :
    (empty.run steps).instructions[(before steps k).instructions.length]? =
      some (d.instruction (before steps k).nextId) := by
  obtain ⟨hlt, -⟩ := List.getElem?_eq_some_iff.mp hd
  have hprefix : (before steps (k + 1)).instructions <+: (before steps steps.length).instructions :=
    before_instructions_prefix hlt (Nat.le_refl _)
  obtain ⟨rest, hrest⟩ := hprefix
  rw [before_succ hd, step_instructions, before_length, List.append_assoc] at hrest
  rw [← hrest]
  simp [BuilderStep.appended?]

/-- Ids are handed out in increasing order above all ids in use, only pushes can keep a module from
being built, and a module holds each declaration under the id that was handed out for it. -/
theorem keepsIdsApart_of_counts {steps : List BuilderStep} (h : Counts steps) :
    KeepsIdsApart steps := by
  refine ⟨fun k s id hs hid => ?_, ?_, fun m hm k d id hd hid => ?_⟩
  · obtain ⟨hlt, -⟩ := List.getElem?_eq_some_iff.mp hs
    have hahead := h.ahead k (Nat.le_of_lt hlt)
    obtain ⟨rfl, -⟩ := step_handsOut hid
    refine ⟨hahead.nextId_ne_zero, fun p t earlier hpk ht hearlier =>
      h.lt_handedOut hpk ht hs hearlier hid, fun i hi used hused => ?_⟩
    exact (hahead.lt_nextId i hi used hused).resolve_right (h k s hs (by rw [hid]; rfl))
  · rw [build, Module.exists_build_iff, ← before_length, h.definesApart_iff _ (Nat.le_refl _)]
    refine ⟨fun hall k op words hs => ?_, fun hall k _ op words hs => hall k op words hs⟩
    exact hall k (List.getElem?_eq_some_iff.mp hs).1 op words hs
  · obtain ⟨rfl, -⟩ := step_handsOut hid
    obtain ⟨i, hi, hpos, -, hop, hwords⟩ :=
      ((Module.locates_of_build hm).defined_iff _ _ _ (getElem?_defined hd)).mp
        (d.resultId_instruction _)
    exact ⟨i, hi, hpos, hop, hwords⟩

/-- Calls that reserve an id, push declarations above and below the next one, and declare a type. -/
def reservedAndPushed : List BuilderStep :=
  [.fresh, .push .typeVoid [7], .append (.name 7 "none"), .define .typeBool, .push .typeSampler [3]]

theorem reservedAndPushed_keepsIdsApart :
    Counts reservedAndPushed ∧ KeepsIdsApart reservedAndPushed := by
  have hcounts : Counts reservedAndPushed := by
    have hall : ∀ k (hk : k < reservedAndPushed.length),
        (before reservedAndPushed k).nextId ≠ 0xFFFFFFFF := by decide
    intro k s hs _
    exact hall k (List.getElem?_eq_some_iff.mp hs).1
  exact ⟨hcounts, keepsIdsApart_of_counts hcounts⟩

end Builder
end Spirv
