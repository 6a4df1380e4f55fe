import Spirv.Proofs.Checked.Build
import Spirv.Proofs.Checked.Rules
import Spirv.Validate

set_option autoImplicit false

/-!
# Checked runs

A run builds a module from raw instructions, stops at its first failure and collects all of them. It
comes to what the unchecked functions give, for every configuration, and all that it can run out of
is the stack for the walks over types.
-/
namespace Spirv

def rawInstructions (stream : List (Nat × List Word)) : List Instruction :=
  stream.map fun p => .ofRaw p.1 p.2

/-- What becomes of raw instructions: no module, or the first failure and all diagnostics. -/
abbrev Outcome := Except BuildError (Except Error Unit × List Diagnostic)

def outcome (v : Version) (stream : List (Nat × List Word)) (config : Config)
    (names : NameResolver) : Outcome := do
  let m ← Module.build v .logical (rawInstructions stream)
  return (Engine.validate ⟨m, config, names⟩, Engine.collect ⟨m, config, names⟩)

namespace Checked

section Rules

variable (m : Module) (config : Config) (frames : Nat)

def checkConstantPass (i : Instruction) : Checked (Except Violation Unit) :=
  (checkConstant m config frames i).map (·.mapError fun fault => ⟨i, .constant fault⟩)

def checkFunctionPass (i : Instruction) : Checked (Except Violation Unit) :=
  match i.opcode with
  | .functionCall =>
    (checkCall m config frames i).map (·.mapError fun fault => ⟨i, .function fault⟩)
  | .cooperativeMatrixPerElementOpNV =>
    (checkPerElement m i).map (·.mapError fun fault => ⟨i, .function fault⟩)
  | _ => .ok (m.checkFunctionPass config i)

def check (i : Instruction) : Checked (Except Violation Unit) :=
  match i.opcode.family with
  | .constant => if config.checkConstants then checkConstantPass m config frames i else .ok (.ok ())
  | .function => if config.checkFunctions then checkFunctionPass m config frames i else .ok (.ok ())
  | .other => .ok (.ok ())

variable {m config frames} {enough : Prop}

theorem checkFunctionPass_ends (h : Room enough config.maxTypeDepth frames 0) (i : Instruction) :
    Ends enough (checkFunctionPass m config frames i) (m.checkFunctionPass config i) := by
  rw [checkFunctionPass]
  split
  case h_1 hop =>
    rw [Module.checkFunctionPass, hop]
    exact (checkCall_ends h i).map
  case h_2 hop =>
    rw [Module.checkFunctionPass, hop]
    exact (checkPerElement_ends i).map
  case h_3 => exact .ok _

theorem check_ends (hm : m.RanksBelow) (h : Room enough config.maxTypeDepth frames 0)
    (i : Instruction) : Ends enough (check m config frames i) (m.check config i) := by
  rw [check, Module.check]
  cases i.opcode.family with
  | constant =>
    dsimp only
    split
    · exact (checkConstant_ends hm h i).map
    · exact .ok _
  | function =>
    dsimp only
    split
    · exact checkFunctionPass_ends h i
    · exact .ok _
  | other => exact .ok _

end Rules

/-! ### Engines -/

def validateInstruction (e : Engine) (frames : Nat) (i : Instruction) :
    Checked (Except Error Unit) :=
  (check e.module e.config frames i).map (·.mapError e.report)

def validate (e : Engine) (frames : Nat) : Checked (Except Error Unit) :=
  requireEach (validateInstruction e frames) e.module.instructions

def collectFrom (validate : Instruction → Checked (Except Error Unit)) (keepGoing : Bool) :
    List Instruction → Checked (List Diagnostic)
  | [] => .ok []
  | i :: rest => do
    match ← validate i with
    | .ok () => collectFrom validate keepGoing rest
    | .error failure =>
      let more ← if keepGoing then collectFrom validate keepGoing rest else .ok []
      return failure.diagnostic?.toList ++ more

def collect (e : Engine) (frames : Nat) : Checked (List Diagnostic) :=
  collectFrom (validateInstruction e frames) e.config.continueAfterError e.module.instructions

theorem collectFrom_ends {enough : Prop} {check : Instruction → Checked (Except Error Unit)}
    {rule : Instruction → Except Error Unit} (h : ∀ i, Ends enough (check i) (rule i))
    (keepGoing : Bool) (is : List Instruction) :
    Ends enough (collectFrom check keepGoing is) (Engine.collectFrom rule keepGoing is) := by
  induction is with
  | nil => exact .ok _
  | cons i rest ih =>
    rw [collectFrom, Engine.collectFrom]
    refine .bind (h i) ?_
    cases rule i with
    | ok u => exact ih
    | error failure =>
      cases keepGoing with
      | false => exact .ok _
      | true => exact .bind ih (.ok _)

theorem validateInstruction_ends {e : Engine} {frames : Nat} {enough : Prop}
    (hm : e.module.RanksBelow) (h : Room enough e.config.maxTypeDepth frames 0) (i : Instruction) :
    Ends enough (validateInstruction e frames i) (e.validateInstruction i) :=
  (check_ends hm h i).map

/-! ### Runs -/

/-- Builds a module and applies both ways of validation, where the stack has room for a number of
calls of a walk. -/
def run (frames : Nat) (v : Version) (stream : List (Nat × List Word)) (config : Config)
    (names : NameResolver) : Checked Outcome := do
  let built ← build v .logical (rawInstructions stream)
  after built fun m => do
    let verdict ← validate ⟨m, config, names⟩ frames
    let diagnostics ← collect ⟨m, config, names⟩ frames
    return .ok (verdict, diagnostics)

theorem run_ends {frames : Nat} (hframes : frames < UInt64.size) {v : Version}
    {stream : List (Nat × List Word)} (hstream : InMemory (rawInstructions stream))
    (hranks : ∀ m, Module.build v .logical (rawInstructions stream) = .ok m → m.RanksBelow)
    (config : Config) (names : NameResolver) :
    Ends (config.maxTypeDepth + 2 ≤ frames) (run frames v stream config names)
      (outcome v stream config names) := by
  have hroom : Room (config.maxTypeDepth + 2 ≤ frames) config.maxTypeDepth frames 0 :=
    ⟨hframes, Nat.zero_le _, fun henough => henough⟩
  rw [run, outcome, build_eq_ok hstream, ok_bind]
  refine .after fun m hbuild => ?_
  have hcheck := validateInstruction_ends (e := ⟨m, config, names⟩) (hranks m hbuild) hroom
  exact .bind (.requireEach fun i _ => hcheck i) (.bind (collectFrom_ends hcheck _ _) (.ok _))

/-- With room for one call more than there are levels, a run comes to its outcome. -/
theorem run_eq_outcome {frames : Nat} (hframes : frames < UInt64.size) {v : Version}
    {stream : List (Nat × List Word)} (hstream : InMemory (rawInstructions stream))
    (hranks : ∀ m, Module.build v .logical (rawInstructions stream) = .ok m → m.RanksBelow)
    {config : Config} (henough : config.maxTypeDepth + 2 ≤ frames) (names : NameResolver) :
    run frames v stream config names = .ok (outcome v stream config names) :=
  (run_ends hframes hstream hranks config names).eq_ok henough

/-- Nothing goes wrong for a stream: not where operands are read, not where a table or a list is
indexed, and not in a run, which comes to its outcome unless it is short of stack. -/
structure Safe (frames : Nat) (v : Version) (stream : List (Nat × List Word)) (config : Config)
    (names : NameResolver) : Prop where
  operand : ∀ (op : Opcode), ∀ i ∈ rawInstructions stream, ∀ k < i.words.length,
    operandIsId op i.words k = .ok (op.operandIsId i.words k)
  definition : ∀ p ∈ definitionTable (Module.place (rawInstructions stream)), p.2 < stream.length
  parameters : ∀ (m : Module) (component : Id) (parameters : List Id),
    takesElement m component parameters = .ok (m.takesElement component parameters)
  pairs : ∀ (table : List (Id × Decoration)) (i : Instruction),
    granted table i = .ok (DecorationTable.granted table i)
  run : Ends (config.maxTypeDepth + 2 ≤ frames) (run frames v stream config names)
    (outcome v stream config names)

theorem definitionTable_lt {is : List Instruction} {p : Id × Nat}
    (hp : p ∈ definitionTable (Module.place is)) : p.2 < is.length := by
  obtain ⟨i, hi, hid⟩ := List.mem_filterMap.mp hp
  obtain ⟨n, j, hj, rfl⟩ := (Module.mem_place_iff is i).mp hi
  obtain ⟨_, -, rfl⟩ := Option.map_eq_some_iff.mp hid
  exact (List.getElem?_eq_some_iff.mp hj).1

/-- Building a module from raw instructions and validating it is safe, if memory holds them and no
tensor has the greatest rank that there is. -/
theorem safe_of_ranksBelow {frames : Nat} (hframes : frames < UInt64.size) (v : Version)
    {stream : List (Nat × List Word)} (hstream : InMemory (rawInstructions stream))
    (hranks : ∀ m, Module.build v .logical (rawInstructions stream) = .ok m → m.RanksBelow)
    (config : Config) (names : NameResolver) : Safe frames v stream config names where
  operand op i hi k hk := by
    have hwords := hstream.words i hi
    exact operandIsId_eq_ok (by omega) op hk
  definition p hp := by
    have hlt := definitionTable_lt hp
    rwa [rawInstructions, List.length_map] at hlt
  parameters m component parameters := takesElement_eq_ok component parameters
  pairs := granted_eq_ok
  run := run_ends hframes hstream hranks config names

def nestedOperations : List (Nat × List Word) :=
  [(21, [1, 32, 0]), (43, [1, 2, 1]), (4163, [3, 1, 2]), (52, [1, 4, 52, 52, 15]), (52, [1, 5, 15])]

theorem nestedOperations_safe :
    InMemory (rawInstructions nestedOperations) ∧
      (∀ m, Module.build .v1_6 .logical (rawInstructions nestedOperations) = .ok m →
        m.RanksBelow) ∧
      Safe 66 .v1_6 nestedOperations .standard friendlyName := by
  have hstream : InMemory (rawInstructions nestedOperations) := ⟨by decide, by decide⟩
  have hranks : ∀ m, Module.build .v1_6 .logical (rawInstructions nestedOperations) = .ok m →
      m.RanksBelow := by
    intro m hm
    obtain ⟨-, rfl⟩ := (Module.build_eq_ok_iff _ _ _ m).mp hm
    unfold Module.RanksBelow
    decide +kernel
  exact ⟨hstream, hranks, safe_of_ranksBelow (by decide) .v1_6 hstream hranks .standard friendlyName⟩

end Checked
end Spirv
