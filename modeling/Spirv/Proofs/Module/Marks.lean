import Mathlib.Data.List.Forall2
import Spirv.Proofs.Module.Definitions
import Spirv.Validate

set_option autoImplicit false

/-!
# Marks that instructions bring along

Building numbers instructions anew and lists their uses anew, so neither depends on where the
instructions have been before. A mark is only ever added. An instruction that was marked in one
module stays marked in the next one, whatever set it names there.
-/
namespace Spirv

structure Instruction.SameText (i j : Instruction) : Prop where
  opcode : i.opcode = j.opcode
  rawOpcode : i.rawOpcode = j.rawOpcode
  words : i.words = j.words

def Instruction.unmarked (i : Instruction) : Instruction :=
  { i with debugInfo := false, nonSemantic := false, marks := fun h => absurd h Bool.false_ne_true }

theorem Instruction.eq_iff_unmarked {i j : Instruction} (h : i.unmarked = j.unmarked) :
    i = j ↔ i.debugInfo = j.debugInfo ∧ i.nonSemantic = j.nonSemantic := by
  constructor
  · rintro rfl
    exact ⟨rfl, rfl⟩
  · rintro ⟨hdebug, hnon⟩
    cases i
    cases j
    simp only [unmarked, mk.injEq, true_and] at h
    simp only at hdebug hnon
    simp [h, hdebug, hnon]

/-- Numbered alike, two instructions have the same text exactly if they differ in marks at most. -/
theorem Instruction.unmarked_placed_iff (i j : Instruction) (n : Nat) :
    ({ i with position := n, uses := [] } : Instruction).unmarked =
      ({ j with position := n, uses := [] } : Instruction).unmarked ↔ i.SameText j := by
  simp only [unmarked, mk.injEq, and_true]
  constructor
  · rintro ⟨hop, hraw, hwords⟩
    exact ⟨hop, hraw, hwords⟩
  · intro h
    exact ⟨h.opcode, h.rawOpcode, h.words⟩

namespace Module

theorem unmarked_keepsCode : KeepsCode Instruction.unmarked :=
  ⟨fun _ => rfl, fun _ => rfl, fun _ => rfl⟩

theorem classify_unmarked (is : List Instruction) (i : Instruction) :
    (classify is i).unmarked = i.unmarked := by
  unfold classify
  split
  · split <;> rfl
  · rfl

theorem link_unmarked (refs : List (Id × Use)) (i : Instruction) :
    (link refs i).unmarked = link refs i.unmarked := by
  have hid : i.unmarked.resultId = i.resultId := unmarked_keepsCode.resultId i
  unfold link
  rw [hid]
  split <;> rfl

theorem finish_unmarked (placed : List Instruction) (i : Instruction) :
    (finish placed i).unmarked = link (references placed) i.unmarked := by
  rw [finish, link_unmarked, classify_unmarked]

theorem checkResults_unmarked (seen : List Id) (is : List Instruction) :
    checkResults seen (is.map Instruction.unmarked) = checkResults seen is := by
  induction is generalizing seen with
  | nil => rfl
  | cons i is ih =>
    rw [List.map_cons, checkResults_cons, checkResults_cons, ih]
    rfl

/-- Apart from the instructions themselves, a module does not depend on marks. -/
theorem assemble_unmarked (v : Version) (a : AddressingModel) (placed : List Instruction) :
    assemble v a (placed.map Instruction.unmarked) =
      { assemble v a placed with
        instructions := (assemble v a (placed.map Instruction.unmarked)).instructions } := by
  have hparameters : ParameterTable.ofInstructions (placed.map Instruction.unmarked) =
      ParameterTable.ofInstructions placed := unmarked_keepsCode.parameters none placed
  simp only [assemble, DecorationTable.ofInstructions, List.filterMap_map, List.foldl_map,
    List.flatMap_map, hparameters]
  rfl

theorem forall₂_congr {α β : Type} {R S T : α → β → Prop} {as : List α} {bs : List β}
    (h : List.Forall₂ R as bs) (hST : ∀ a b, R a b → (S a b ↔ T a b)) :
    List.Forall₂ S as bs ↔ List.Forall₂ T as bs := by
  induction h with
  | nil => simp
  | cons hab _ ih => rw [List.forall₂_cons, List.forall₂_cons, hST _ _ hab, ih]

/-- Numbering relates two sequences as their instructions are related under equal numbers. -/
theorem forall₂_placeFrom_iff {R S : Instruction → Instruction → Prop}
    (hRS : ∀ i j n, R { i with position := n, uses := [] } { j with position := n, uses := [] } ↔
      S i j) (n : Nat) (is js : List Instruction) :
    List.Forall₂ R (placeFrom n is) (placeFrom n js) ↔ List.Forall₂ S is js := by
  induction is generalizing n js with
  | nil =>
    cases js with
    | nil => exact iff_of_true .nil .nil
    | cons j js => exact iff_of_false (nomatch ·) (nomatch ·)
  | cons i is ih =>
    cases js with
    | nil => exact iff_of_false (nomatch ·) (nomatch ·)
    | cons j js =>
      rw [placeFrom_cons, placeFrom_cons, List.forall₂_cons, List.forall₂_cons, hRS, ih]

def setName? (placed : List Instruction) (i : Instruction) : Option String :=
  if i.opcode = .extInst then (i.operand 2).bind (importedSet? placed) else none

/-- Each mark that only one of the two instructions brings along is one that its set gives it. -/
structure MarkedAlike (placed : List Instruction) (i j : Instruction) : Prop where
  debugInfo : i.debugInfo = j.debugInfo ∨ (setName? placed i).any isDebugInfoSet = true
  nonSemantic : i.nonSemantic = j.nonSemantic ∨ (setName? placed i).any isNonSemanticSet = true

theorem finish_debugInfo (placed : List Instruction) (i : Instruction) :
    (finish placed i).debugInfo = (i.debugInfo || (setName? placed i).any isDebugInfoSet) := by
  rw [finish, (link_marks _ _).1, (classify_marks placed i).1, setName?]
  by_cases hop : i.opcode = .extInst <;> simp [hop]

theorem finish_nonSemantic (placed : List Instruction) (i : Instruction) :
    (finish placed i).nonSemantic =
      (i.nonSemantic || (setName? placed i).any isNonSemanticSet) := by
  rw [finish, (link_marks _ _).2, (classify_marks placed i).2, setName?]
  by_cases hop : i.opcode = .extInst <;> simp [hop]

section SameText

variable {is js : List Instruction}

theorem place_unmarked (h : List.Forall₂ Instruction.SameText is js) :
    (place is).map Instruction.unmarked = (place js).map Instruction.unmarked := by
  have hplaced := (forall₂_placeFrom_iff (R := fun i j => i.unmarked = j.unmarked)
    Instruction.unmarked_placed_iff 0 is js).mpr h
  rw [← List.forall₂_eq_eq_eq, List.forall₂_map_left_iff, List.forall₂_map_right_iff]
  exact hplaced

theorem finish_eq_iff {placed placed' : List Instruction} {i j : Instruction}
    (hplaced : placed.map Instruction.unmarked = placed'.map Instruction.unmarked)
    (h : i.unmarked = j.unmarked) :
    finish placed i = finish placed' j ↔ MarkedAlike placed i j := by
  have hrefs : references placed = references placed' := by
    rw [← unmarked_keepsCode.references placed, hplaced, unmarked_keepsCode.references]
  have hsets : importedSet? placed = importedSet? placed' := by
    rw [← unmarked_keepsCode.importedSet? placed, hplaced, unmarked_keepsCode.importedSet?]
  have hname : setName? placed i = setName? placed' j := by
    calc
      setName? placed i = setName? placed i.unmarked := rfl
      _ = setName? placed' j.unmarked := by rw [setName?, setName?, hsets, h]
  have hunmarked : (finish placed i).unmarked = (finish placed' j).unmarked := by
    rw [finish_unmarked, finish_unmarked, hrefs, h]
  rw [Instruction.eq_iff_unmarked hunmarked, finish_debugInfo, finish_debugInfo,
    finish_nonSemantic, finish_nonSemantic, ← hname]
  have hor (a b c : Bool) : (a || c) = (b || c) ↔ a = b ∨ c = true := by
    cases c <;> simp
  rw [hor, hor]
  constructor
  · rintro ⟨hdebug, hnon⟩
    exact ⟨hdebug, hnon⟩
  · intro h
    exact ⟨h.debugInfo, h.nonSemantic⟩

/-- Two modules that differ in the marks of their instructions at most. -/
structure SameButMarks (m m' : Module) : Prop where
  tables : m' = { m with instructions := m'.instructions }
  instructions : m.instructions.map Instruction.unmarked = m'.instructions.map Instruction.unmarked

theorem SameButMarks.eq_iff {m m' : Module} (h : m.SameButMarks m') :
    m = m' ↔ m.instructions = m'.instructions := by
  refine ⟨congrArg Module.instructions, fun heq => ?_⟩
  rw [h.tables, ← heq]

theorem assemble_sameButMarks {placed placed' : List Instruction} (v : Version)
    (a : AddressingModel)
    (h : placed.map Instruction.unmarked = placed'.map Instruction.unmarked) :
    (assemble v a placed).SameButMarks (assemble v a placed') := by
  constructor
  · have heq := assemble_unmarked v a placed
    rw [h, assemble_unmarked v a placed'] at heq
    exact congrArg (fun m => { m with instructions := (assemble v a placed').instructions }) heq
  · have hlinked (is : List Instruction) : (assemble v a is).instructions.map Instruction.unmarked =
        (is.map Instruction.unmarked).map
          (link (references (is.map Instruction.unmarked))) := by
      rw [assemble_instructions, unmarked_keepsCode.references, List.map_map, List.map_map]
      exact List.map_congr_left fun i _ => finish_unmarked is i
    rw [hlinked, hlinked, h]

theorem assemble_eq_iff (h : List.Forall₂ Instruction.SameText is js) (v : Version)
    (a : AddressingModel) : assemble v a (place is) = assemble v a (place js) ↔
      List.Forall₂ (MarkedAlike (place is)) is js := by
  have hplaced := place_unmarked h
  have hpairs : List.Forall₂ (fun i j => i.unmarked = j.unmarked) (place is) (place js) :=
    (forall₂_placeFrom_iff Instruction.unmarked_placed_iff 0 is js).mpr h
  rw [(assemble_sameButMarks v a hplaced).eq_iff, assemble_instructions, assemble_instructions,
    ← List.forall₂_eq_eq_eq, List.forall₂_map_left_iff, List.forall₂_map_right_iff,
    forall₂_congr hpairs fun i j => finish_eq_iff hplaced]
  exact forall₂_placeFrom_iff (fun i j n => ⟨fun h => ⟨h.debugInfo, h.nonSemantic⟩,
    fun h => ⟨h.debugInfo, h.nonSemantic⟩⟩) 0 is js

theorem checkResults_eq (h : List.Forall₂ Instruction.SameText is js) :
    checkResults [] (place is) = checkResults [] (place js) := by
  rw [← checkResults_unmarked, place_unmarked h, checkResults_unmarked]

theorem build_eq_iff (h : List.Forall₂ Instruction.SameText is js) (v : Version)
    (a : AddressingModel) : build v a is = build v a js ↔
      (∃ e, build v a is = .error e) ∨ List.Forall₂ (MarkedAlike (place is)) is js := by
  rw [← assemble_eq_iff h v a, build, build, ← checkResults_eq h]
  cases checkResults [] (place is) with
  | error e => exact iff_of_true rfl (Or.inl ⟨e, rfl⟩)
  | ok _ =>
    constructor
    · exact fun heq => Or.inr (Except.ok.inj heq)
    · rintro (⟨e, he⟩ | heq)
      · contradiction
      · exact congrArg Except.ok heq

theorem forall₂_placeFrom_self {R : Instruction → Instruction → Prop}
    (hR : ∀ i n, R i { i with position := n, uses := [] }) (n : Nat) (is : List Instruction) :
    List.Forall₂ R is (placeFrom n is) := by
  induction is generalizing n with
  | nil => exact .nil
  | cons i is ih =>
    rw [placeFrom_cons]
    exact .cons (hR i n) (ih (n + 1))

theorem finish_rawOpcode (placed : List Instruction) (i : Instruction) :
    (finish placed i).rawOpcode = i.rawOpcode := by
  have hunmarked := congrArg Instruction.rawOpcode (finish_unmarked placed i)
  refine hunmarked.trans ?_
  unfold link
  split <;> rfl

theorem sameText_finish (placed : List Instruction) (i : Instruction) :
    i.SameText (finish placed i) where
  opcode := ((finish_keepsCode placed).opcode i).symm
  rawOpcode := (finish_rawOpcode placed i).symm
  words := ((finish_keepsCode placed).words i).symm

theorem markedAlike_finish (placed : List Instruction) (i : Instruction) :
    MarkedAlike placed i (finish placed i) := by
  constructor
  · rw [finish_debugInfo]
    cases (setName? placed i).any isDebugInfoSet <;> simp
  · rw [finish_nonSemantic]
    cases (setName? placed i).any isNonSemanticSet <;> simp

/-- Building a module once more, from its own instructions, gives the same module. -/
theorem build_instructions {v : Version} {a : AddressingModel} {m : Module}
    (h : build v a is = .ok m) : build v a m.instructions = .ok m := by
  have hinstructions : m.instructions = (place is).map (finish (place is)) := by
    obtain ⟨-, rfl⟩ := (build_eq_ok_iff v a is m).mp h
    exact assemble_instructions v a (place is)
  have hsame : List.Forall₂ Instruction.SameText is m.instructions := by
    rw [hinstructions, List.forall₂_map_right_iff]
    refine forall₂_placeFrom_self (fun i n => ?_) 0 is
    have htext := sameText_finish (place is) { i with position := n, uses := [] }
    exact ⟨htext.opcode, htext.rawOpcode, htext.words⟩
  have halike : List.Forall₂ (MarkedAlike (place is)) is m.instructions := by
    rw [hinstructions, List.forall₂_map_right_iff]
    refine forall₂_placeFrom_self (fun i n => ?_) 0 is
    have hmarks := markedAlike_finish (place is) { i with position := n, uses := [] }
    exact ⟨hmarks.debugInfo, hmarks.nonSemantic⟩
  rw [← (build_eq_iff hsame v a).mpr (Or.inr halike), h]

/-- Sequences of one text fail to build alike, and the modules built from them differ in marks at
most. The modules are the same exactly if each mark that only one of two instructions brings along
is one that its set gives it. -/
theorem build_eq_iff_markedAlike (h : List.Forall₂ Instruction.SameText is js) (v : Version)
    (a : AddressingModel) :
    (∀ e, build v a is = .error e ↔ build v a js = .error e) ∧
      (∀ m m', build v a is = .ok m → build v a js = .ok m' → m.SameButMarks m') ∧
      (build v a is = build v a js ↔
        (∃ e, build v a is = .error e) ∨ List.Forall₂ (MarkedAlike (place is)) is js) := by
  refine ⟨fun e => ?_, fun m m' hm hm' => ?_, build_eq_iff h v a⟩
  · rw [build_eq_error_iff, build_eq_error_iff, checkResults_eq h]
  · obtain ⟨-, rfl⟩ := (build_eq_ok_iff v a is m).mp hm
    obtain ⟨-, rfl⟩ := (build_eq_ok_iff v a js m').mp hm'
    exact assemble_sameButMarks v a (place_unmarked h)

end SameText

def located (set : String) (i : Instruction) : List Instruction :=
  [.ofOpcode .extInstImport (1 :: Literal.encode set), .ofOpcode .typeVoid [2],
    .ofOpcode .typeFunction [3, 2], i, .ofOpcode .function [2, 6, 0, 3], .ofOpcode .label [7],
    .ofOpcode .returnVoid [], .ofOpcode .functionEnd []]

def locatedModule (set : String) (i : Instruction) : Module :=
  assemble .v1_6 .logical (place (located set i))

def location : Instruction := .ofOpcode .extInst [2, 9, 1, 2, 6]

/-- The same instruction, taken from a module in which its set holds debug information. -/
def markedLocation : Instruction := (locatedModule "DebugInfo" location).instructions[3]

theorem forall₂_located {R : Instruction → Instruction → Prop} (hself : ∀ i, R i i)
    {i j : Instruction} (h : R i j) (set : String) :
    List.Forall₂ R (located set i) (located set j) :=
  .cons (hself _) (.cons (hself _) (.cons (hself _) (.cons h (.cons (hself _) (.cons (hself _)
    (.cons (hself _) (.cons (hself _) .nil)))))))

theorem sameText_located (set : String) :
    List.Forall₂ Instruction.SameText (located set location) (located set markedLocation) :=
  forall₂_located (fun _ => ⟨rfl, rfl, rfl⟩) ⟨rfl, rfl, rfl⟩ set

/-- In a set of debug information the mark is one that the instruction gets anyway. -/
theorem debugLocation_build_eq :
    List.Forall₂ Instruction.SameText (located "DebugInfo" location)
        (located "DebugInfo" markedLocation) ∧
      build .v1_6 .logical (located "DebugInfo" location) =
        build .v1_6 .logical (located "DebugInfo" markedLocation) := by
  have hset : (setName? (place (located "DebugInfo" location)) location).any isDebugInfoSet =
      true := by decide +kernel
  have hnon : location.nonSemantic = markedLocation.nonSemantic := by decide +kernel
  have halike : List.Forall₂ (MarkedAlike (place (located "DebugInfo" location)))
      (located "DebugInfo" location) (located "DebugInfo" markedLocation) :=
    forall₂_located (fun _ => ⟨Or.inl rfl, Or.inl rfl⟩) ⟨Or.inr hset, Or.inl hnon⟩ _
  have hsame := sameText_located "DebugInfo"
  exact ⟨hsame, (build_eq_iff_markedAlike hsame .v1_6 .logical).2.2.mpr (Or.inr halike)⟩

/-- In another set the mark stays on, and the function rule accepts what it rejects without it. -/
theorem markedLocation_changes_verdict :
    build .v1_6 .logical (located "DebugInfo" location) =
        .ok (locatedModule "DebugInfo" location) ∧
      (locatedModule "DebugInfo" location).instruction? 3 = some markedLocation ∧
      List.Forall₂ Instruction.SameText (located "GLSL.std.450" location)
        (located "GLSL.std.450" markedLocation) ∧
      build .v1_6 .logical (located "GLSL.std.450" location) =
        .ok (locatedModule "GLSL.std.450" location) ∧
      build .v1_6 .logical (located "GLSL.std.450" markedLocation) =
        .ok (locatedModule "GLSL.std.450" markedLocation) ∧
      (locatedModule "GLSL.std.450" location).validate .standard ≠ .ok () ∧
      (locatedModule "GLSL.std.450" markedLocation).validate .standard = .ok () := by
  refine ⟨rfl, rfl, sameText_located _, rfl, rfl, ?_, ?_⟩
  · decide +kernel
  · decide +kernel

end Module
end Spirv
