import Mathlib.Data.List.Basic
import Spirv.Proofs.Module.Indexed

set_option autoImplicit false

/-!
# Decoration groups

The table of decorations is filled in two passes, and the second one reads what it adds to. As long
as no group is a target of a group, what it reads of a group is complete after the first pass, and
an id has its own decorations followed by the ones that each application of a group gives it.
-/
namespace Spirv

def Instruction.decoration? (i : Instruction) : Option Decoration :=
  match i.opcode with
  | .decorate | .decorateId => (i.operand 1).map fun kind => ⟨kind, i.operandsFrom 2, none⟩
  | .memberDecorate =>
    (i.operand 1).bind fun member =>
      (i.operand 2).map fun kind => ⟨kind, i.operandsFrom 3, some member⟩
  | _ => none

def Instruction.group? (i : Instruction) : Option Id :=
  match i.opcode with
  | .groupDecorate | .groupMemberDecorate => i.operand 0
  | _ => none

/-- The targets of a group in order, each with the member that is decorated, if it is not the whole
target. Members stand behind their targets, and a target without one is none. -/
def Instruction.groupTargets (i : Instruction) : List (Id × Option Word) :=
  match i.opcode with
  | .groupDecorate => (i.operandsFrom 1).map fun target => (target, none)
  | .groupMemberDecorate =>
    (List.range i.words.length).filterMap fun k =>
      (i.operand (2 * k + 1)).bind fun target =>
        (i.operand (2 * k + 2)).map fun member => (target, some member)
  | _ => []

def Decoration.onMember (d : Decoration) : Option Word → Decoration
  | none => d
  | some member => { d with member := some member }

def decorationsOn (is : List Instruction) (id : Id) : List Decoration :=
  (is.filter (·.operand 0 == some id)).filterMap Instruction.decoration?

/-- The decorations that an instruction gives an id from a group, as often as the id is a target. -/
def groupDecorations (is : List Instruction) (i : Instruction) (id : Id) : List Decoration :=
  (i.groupTargets.filter (·.1 == id)).flatMap fun target =>
    (i.group?.toList.flatMap (decorationsOn is)).map (·.onMember target.2)

def GroupsApart (is : List Instruction) : Prop :=
  ∀ i ∈ is, ∀ group ∈ i.group?, ∀ j ∈ is, ∀ target ∈ j.groupTargets, target.1 ≠ group

namespace DecorationTable

theorem decorationsIn_append (table table' : List (Id × Decoration)) (id : Id) :
    decorationsIn (table ++ table') id = decorationsIn table id ++ decorationsIn table' id := by
  simp only [decorationsIn, List.filter_append, List.map_append]

theorem decorationsIn_flatMap {α : Type} (as : List α) (f : α → List (Id × Decoration)) (id : Id) :
    decorationsIn (as.flatMap f) id = as.flatMap fun a => decorationsIn (f a) id := by
  induction as with
  | nil => rfl
  | cons a as ih => rw [List.flatMap_cons, List.flatMap_cons, decorationsIn_append, ih]

/-- The table of some decorations of one target. -/
theorem decorationsIn_map (target : Id) (ds : List Decoration) (id : Id) :
    decorationsIn (ds.map fun d => (target, d)) id = if target == id then ds else [] := by
  cases h : target == id <;> simp [decorationsIn, List.filter_map, Function.comp_def, h]

theorem ownDecorations_eq (i : Instruction) :
    i.ownDecorations =
      (i.operand 0).toList.flatMap fun target => i.decoration?.toList.map fun d => (target, d) := by
  unfold Instruction.decoration?
  split
  case h_1 hop | h_2 hop =>
    rcases hwords : i.words with _ | ⟨target, _ | ⟨kind, literals⟩⟩ <;>
      simp [Instruction.ownDecorations, Instruction.operand, Instruction.operandsFrom, hop, hwords]
  case h_3 hop =>
    rcases hwords : i.words with _ | ⟨target, _ | ⟨member, _ | ⟨kind, literals⟩⟩⟩ <;>
      simp [Instruction.ownDecorations, Instruction.operand, Instruction.operandsFrom, hop, hwords]
  case h_4 hdecorate hdecorateId hmember =>
    unfold Instruction.ownDecorations
    split <;> simp_all

theorem decorationsIn_own (is : List Instruction) (id : Id) :
    decorationsIn (is.flatMap Instruction.ownDecorations) id = decorationsOn is id := by
  rw [decorationsIn_flatMap, decorationsOn]
  induction is with
  | nil => rfl
  | cons i is ih =>
    rw [List.flatMap_cons, ih, ownDecorations_eq]
    cases hoperand : i.operand 0 with
    | none => simp [hoperand, decorationsIn]
    | some target =>
      rw [Option.toList_some, List.flatMap_singleton, decorationsIn_map]
      by_cases h : target = id
      · cases hd : i.decoration? <;> simp [hoperand, h, hd]
      · simp [hoperand, h]

/-- Words taken two at a time are the words at even places, each with the word behind it. -/
theorem filterMap_range_pairs (ws : List Word) {n : Nat} (hn : ws.length ≤ n) :
    (List.range n).filterMap (fun k => (ws[2 * k]?).bind fun target =>
      (ws[2 * k + 1]?).map fun member => (target, some member)) =
      (pairs ws).map fun p => (p.1, some p.2) := by
  induction ws using pairs.induct generalizing n with
  | case1 a b rest ih =>
    have hlength : rest.length + 2 ≤ n := hn
    have hpairs : pairs (a :: b :: rest) = (a, b) :: pairs rest := rfl
    obtain ⟨n, rfl⟩ : ∃ k, n = k + 1 := Nat.exists_eq_succ_of_ne_zero (by omega)
    have hrest := @ih n (by omega)
    rw [List.range_succ_eq_map, List.filterMap_cons, hpairs]
    simp [List.filterMap_map, ← hrest, Nat.mul_succ]
  | case2 ws hws =>
    have hshort : ws.length ≤ 1 ∧ pairs ws = [] := by
      match ws with
      | [] => exact ⟨Nat.zero_le 1, rfl⟩
      | [_] => exact ⟨Nat.le_refl 1, rfl⟩
      | a :: b :: rest => exact absurd rfl (hws a b rest)
    rw [hshort.2, List.map_nil, List.filterMap_eq_nil_iff]
    intro k _
    rw [List.getElem?_eq_none (by omega : ws.length ≤ 2 * k + 1)]
    simp

theorem granted_eq (table : List (Id × Decoration)) (i : Instruction) :
    granted table i = i.groupTargets.flatMap fun target =>
      (i.group?.toList.flatMap (decorationsIn table)).map fun d => (target.1, d.onMember target.2) := by
  unfold Instruction.groupTargets Instruction.group?
  split
  case h_1 hop =>
    rcases hwords : i.words with _ | ⟨group, targets⟩ <;>
      simp [granted, Instruction.operand, Instruction.operandsFrom, hop, hwords,
        List.flatMap_map, Decoration.onMember]
  case h_2 hop =>
    rcases hwords : i.words with _ | ⟨group, targets⟩
    · simp [granted, hop, hwords]
    · have htargets := filterMap_range_pairs targets (Nat.le_succ targets.length)
      simp [granted, Instruction.operand, hop, hwords, htargets, List.flatMap_map,
        Decoration.onMember]
  case h_3 hdecorate hmember =>
    unfold granted
    split <;> simp_all

/-- The table of what targets have from a list each, for one id. -/
theorem decorationsIn_flatMap_map {α : Type} (as : List α) (target : α → Id)
    (ds : α → List Decoration) (id : Id) :
    decorationsIn (as.flatMap fun a => (ds a).map fun d => (target a, d)) id =
      (as.filter (target · == id)).flatMap ds := by
  rw [decorationsIn_flatMap]
  induction as with
  | nil => rfl
  | cons a as ih =>
    rw [List.flatMap_cons, ih, decorationsIn_map, List.filter_cons]
    cases target a == id <;> simp

theorem decorationsIn_granted (table : List (Id × Decoration)) (i : Instruction) (id : Id) :
    decorationsIn (granted table i) id =
      (i.groupTargets.filter (·.1 == id)).flatMap fun target =>
        (i.group?.toList.flatMap (decorationsIn table)).map (·.onMember target.2) := by
  rw [granted_eq, ← decorationsIn_flatMap_map]
  simp only [List.map_map, Function.comp_def]

/-- What an instruction hands on only depends on the decorations of its group. -/
theorem granted_congr {table table' : List (Id × Decoration)} {i : Instruction}
    (h : ∀ group ∈ i.group?, decorationsIn table group = decorationsIn table' group) :
    granted table i = granted table' i := by
  rw [granted_eq, granted_eq]
  cases hgroup : i.group? with
  | none => rfl
  | some group => simp [h group hgroup]

/-- The second pass reads of each group what the first one has put into the table. -/
theorem foldl_granted {is : List Instruction} (hgroups : GroupsApart is)
    {own table : List (Id × Decoration)} {rest : List Instruction} (hrest : rest ⊆ is)
    (htable : ∀ i ∈ is, ∀ group ∈ i.group?, decorationsIn table group = decorationsIn own group) :
    rest.foldl (fun table i => table ++ granted table i) table =
      table ++ rest.flatMap (granted own) := by
  induction rest generalizing table with
  | nil => simp
  | cons i rest ih =>
    obtain ⟨hi, hrest⟩ := List.cons_subset.mp hrest
    have hgranted : granted table i = granted own i := granted_congr (htable i hi)
    rw [List.foldl_cons, hgranted, ih hrest ?_, List.flatMap_cons, List.append_assoc]
    intro j hj group hgroup
    have hnone : decorationsIn (granted own i) group = [] := by
      rw [decorationsIn_granted, List.filter_eq_nil_iff.mpr, List.flatMap_nil]
      intro target htarget
      simpa using hgroups j hj group hgroup i hi target htarget
    rw [decorationsIn_append, hnone, List.append_nil, htable j hj group hgroup]

theorem ofInstructions_place (is : List Instruction) :
    ofInstructions (Module.place is) = ofInstructions is := by
  rw [ofInstructions, Module.place, List.foldl_map, List.flatMap_map]
  calc
    _ = (is.zipIdx.map Prod.fst).foldl (fun table i => table ++ granted table i)
          ((is.zipIdx.map Prod.fst).flatMap Instruction.ownDecorations) := by
      rw [List.foldl_map, List.flatMap_map]
      rfl
    _ = ofInstructions is := by rw [List.zipIdx_map_fst, ofInstructions]

end DecorationTable

/-- An id has its own decorations, and behind them those that each application of a group gives it,
whether the group is decorated in front of the application or behind it. -/
theorem Module.decorationsOf_eq {v : Version} {addressing : AddressingModel}
    {is : List Instruction} {m : Module} (hbuild : build v addressing is = .ok m)
    (hgroups : GroupsApart is) (id : Id) :
    m.decorationsOf id =
      decorationsOn is id ++ is.flatMap fun i => groupDecorations is i id := by
  let own := is.flatMap Instruction.ownDecorations
  have htable : m.decorations = own ++ is.flatMap (DecorationTable.granted own) := by
    obtain ⟨-, rfl⟩ := (build_eq_ok_iff v addressing is m).mp hbuild
    exact (DecorationTable.ofInstructions_place is).trans
      (DecorationTable.foldl_granted hgroups (List.Subset.refl is) fun _ _ _ _ => rfl)
  have hown : decorationsIn own = decorationsOn is := funext (DecorationTable.decorationsIn_own is)
  rw [decorationsOf, htable, DecorationTable.decorationsIn_append, hown,
    DecorationTable.decorationsIn_flatMap]
  simp only [DecorationTable.decorationsIn_granted, hown, groupDecorations]

/-- A group that is applied before it is decorated, to one struct twice and to members of another
one, the last of which is missing. -/
def lateGroup : List Instruction :=
  [.ofOpcode .groupDecorate [1, 2, 3, 2], .ofOpcode .groupMemberDecorate [1, 3, 7, 2, 0, 3],
    .ofOpcode .decorate [1, 24], .ofOpcode .memberDecorate [3, 0, 35, 4],
    .ofOpcode .decorationGroup [1], .ofOpcode .decorate [1, 35, 8],
    .ofOpcode .typeStruct [2], .ofOpcode .typeStruct [3]]

theorem lateGroup_decorationsOf :
    ∃ m, Module.build .v1_6 .logical lateGroup = .ok m ∧ GroupsApart lateGroup ∧
      m.decorationsOf 3 = [⟨35, [4], some 0⟩, ⟨24, [], none⟩, ⟨35, [8], none⟩, ⟨24, [], some 7⟩,
        ⟨35, [8], some 7⟩] := by
  let m := Module.assemble .v1_6 .logical (Module.place lateGroup)
  have hbuild : Module.build .v1_6 .logical lateGroup = .ok m := rfl
  have hgroup : ∀ i ∈ lateGroup, i.group? = none ∨ i.group? = some 1 := by decide
  have htargets : ∀ j ∈ lateGroup, j.groupTargets.all (·.1 != 1) = true := by decide
  have hgroups : GroupsApart lateGroup := by
    intro i hi group hsome j hj target htarget
    obtain hnone | hone := hgroup i hi
    · simp [hnone] at hsome
    · obtain rfl : 1 = group := Option.some.inj (hone.symm.trans hsome)
      exact bne_iff_ne.mp (List.all_eq_true.mp (htargets j hj) target htarget)
  exact ⟨m, hbuild, hgroups, Module.decorationsOf_eq hbuild hgroups 3⟩

end Spirv
