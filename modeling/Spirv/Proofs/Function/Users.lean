import Spirv.Proofs.Engine.Order
import Spirv.Proofs.Function.Rules
import Spirv.Proofs.Module.Accepted
import Spirv.Proofs.Module.Marks

set_option autoImplicit false

/-!
# Who may refer to a function

The rule for a function asks about the whole module: every instruction that refers to the function
has an opcode that is about functions, or the capability for function pointers stands behind it, or
it is from a set of debug information or of instructions without meaning. Such a set may be
imported anywhere. The first instruction that may not refer is the one that is reported. A function
type without a return type counts as one that returns id 0.
-/
namespace Spirv

def Instruction.Fresh (i : Instruction) : Prop :=
  (∃ op words, i = ofOpcode op words) ∨ ∃ raw words, i = ofRaw raw words

theorem Instruction.Fresh.unmarked {i : Instruction} (h : i.Fresh) :
    i.debugInfo = false ∧ i.nonSemantic = false := by
  rcases h with ⟨op, words, rfl⟩ | ⟨raw, words, rfl⟩ <;> exact ⟨rfl, rfl⟩

def Instruction.ofOpcodes (codes : List (Opcode × List Word)) : List Instruction :=
  codes.map fun code => ofOpcode code.1 code.2

theorem Instruction.fresh_of_mem_ofOpcodes {codes : List (Opcode × List Word)} {i : Instruction}
    (hi : i ∈ ofOpcodes codes) : i.Fresh := by
  obtain ⟨code, -, rfl⟩ := List.mem_map.mp hi
  exact Or.inl ⟨_, _, rfl⟩

def Opcode.functionUsers : List Opcode := [
  .groupDecorate, .decorate, .enqueueKernel, .entryPoint, .executionMode, .executionModeId,
  .functionCall, .getKernelNDrangeSubGroupCount, .getKernelNDrangeMaxSubGroupSize,
  .getKernelWorkGroupSize, .getKernelPreferredWorkGroupSizeMultiple,
  .getKernelLocalSizeForSubgroupCount, .getKernelMaxNumSubgroups, .name,
  .cooperativeMatrixPerElementOpNV, .cooperativeMatrixReduceNV, .cooperativeMatrixLoadTensorNV]

namespace Module

/-- A set whose instructions have no part in the program. -/
def isSilentSet (name : String) : Bool := isDebugInfoSet name || isNonSemanticSet name

inductive MayRefer (m : Module) (u : Instruction) : Prop where
  | listed (hop : u.opcode ∈ Opcode.functionUsers)
  | pointer (hop : u.opcode = .constantFunctionPointerINTEL)
      (hcapability : m.hasCapability .functionPointersINTEL = true)
  | silent (id : Id) (set : Instruction) (hop : u.opcode = .extInst)
      (hid : u.operand 2 = some id) (hset : m.definition? id = some set)
      (himport : set.opcode = .extInstImport)
      (hname : isSilentSet (Literal.decode (set.operandsFrom 1)) = true)

/-- An instruction that refers to an id but may not, if the id is a function. -/
structure Misuses (m : Module) (id : Id) (u : Instruction) : Prop where
  mem : u ∈ m.instructions
  refers : ∃ k, (k, id) ∈ u.idOperands
  forbidden : ¬ m.MayRefer u

def UsedRightly (m : Module) (id : Id) : Prop :=
  ∀ u ∈ m.instructions, ∀ k, (k, id) ∈ u.idOperands → m.MayRefer u

def ReturnsAsDeclared (m : Module) (f : Instruction) : Prop :=
  ∃ id type t, f.operand 3 = some id ∧ m.definition? id = some type ∧
    type.opcode = .typeFunction ∧ type.operand 1 = some t ∧ f.typeId = some t

/-- The function type declares no return type, and id 0 stands for one in the function. -/
def ReturnsUnstated (m : Module) (f : Instruction) : Prop :=
  ∃ id type, f.operand 3 = some id ∧ m.definition? id = some type ∧
    type.opcode = .typeFunction ∧ type.operand 1 = none ∧ f.typeId = some 0

theorem ReturnsUnstated.not_returnsAsDeclared {m : Module} {f : Instruction}
    (h : m.ReturnsUnstated f) : ¬ m.ReturnsAsDeclared f := by
  rintro ⟨id, type, t, hid, hdef, -, hreturn, -⟩
  obtain ⟨id', type', hid', hdef', -, hnone, -⟩ := h
  obtain rfl := Option.some.inj (hid.symm.trans hid')
  obtain rfl := Option.some.inj (hdef.symm.trans hdef')
  rw [hreturn] at hnone
  contradiction

/-- A missing operand reads as id 0, so a function may return what its type does not declare. -/
theorem Indexed.checkSignature_eq_ok_iff {m : Module} (hm : m.Indexed) {f : Instruction}
    (hf : f ∈ m.instructions) (hop : f.opcode = .function) :
    m.checkSignature f = .ok () ↔ m.ReturnsAsDeclared f ∨ m.ReturnsUnstated f := by
  have htypeId := hm.typeId_eq hf (by rw [hop]; rfl)
  rw [Module.checkSignature_eq_ok_iff]
  simp only [functionType?_eq_some_iff]
  constructor
  · rintro ⟨type, ⟨id, hid, hdef, htop⟩, hreturn⟩
    rw [← hreturn, Instruction.operandOrZero] at htypeId
    cases hdeclared : type.operand 1 with
    | some t =>
      rw [hdeclared] at htypeId
      exact Or.inl ⟨id, type, t, hid, hdef, htop, hdeclared, htypeId⟩
    | none =>
      rw [hdeclared] at htypeId
      exact Or.inr ⟨id, type, hid, hdef, htop, hdeclared, htypeId⟩
  · rintro (⟨id, type, t, hid, hdef, htop, hdeclared, ht⟩ | ⟨id, type, hid, hdef, htop, hnone, ht⟩)
    · refine ⟨type, ⟨id, hid, hdef, htop⟩, ?_⟩
      rw [Instruction.operandOrZero, hdeclared, Instruction.typeIdOrZero, ht]
    · refine ⟨type, ⟨id, hid, hdef, htop⟩, ?_⟩
      rw [Instruction.operandOrZero, hnone, Instruction.typeIdOrZero, ht]
      rfl

/-- No two instructions import a set under one id, so the set of an id is what its definition
imports, wherever that stands. -/
theorem Indexed.find?_extInstImport {m : Module} (hm : m.Indexed) (id : Id) (set : Instruction) :
    m.instructions.find? (fun i => i.opcode == .extInstImport && i.resultId == some id) =
        some set ↔
      m.definition? id = some set ∧ set.opcode = .extInstImport := by
  have hfound {i : Instruction} (h : m.instructions.find?
      (fun i => i.opcode == .extInstImport && i.resultId == some id) = some i) :
      m.definition? id = some i ∧ i.opcode = .extInstImport := by
    have hkey : i.opcode = .extInstImport ∧ i.resultId = some id := by
      simpa using List.find?_some h
    exact ⟨hm.definition?_eq_some_iff.mpr ⟨List.mem_of_find?_eq_some h, hkey.2⟩, hkey.1⟩
  refine ⟨hfound, ?_⟩
  rintro ⟨hset, hop⟩
  obtain ⟨hmem, hid⟩ := mem_of_definition? hset
  obtain ⟨i, hi⟩ : ∃ i, m.instructions.find?
      (fun i => i.opcode == .extInstImport && i.resultId == some id) = some i := by
    rw [← Option.isSome_iff_exists, List.find?_isSome]
    exact ⟨set, hmem, by simp [hop, hid]⟩
  obtain rfl := Option.some.inj ((hfound hi).1.symm.trans hset)
  exact hi

theorem Indexed.importedSet?_eq_some_iff {m : Module} (hm : m.Indexed) (id : Id) (name : String) :
    importedSet? m.instructions id = some name ↔
      ∃ set, m.definition? id = some set ∧ set.opcode = .extInstImport ∧
        Literal.decode (set.operandsFrom 1) = name := by
  simp only [importedSet?, Option.map_eq_some_iff, hm.find?_extInstImport, and_assoc]

theorem Indexed.setName?_any_iff {m : Module} (hm : m.Indexed) (u : Instruction)
    (p : String → Bool) :
    (setName? m.instructions u).any p = true ↔
      ∃ id set, u.opcode = .extInst ∧ u.operand 2 = some id ∧ m.definition? id = some set ∧
        set.opcode = .extInstImport ∧ p (Literal.decode (set.operandsFrom 1)) = true := by
  rw [setName?, Option.any_eq_true]
  simp only [Option.ite_none_right_eq_some, Option.bind_eq_some_iff, hm.importedSet?_eq_some_iff]
  constructor
  · rintro ⟨_, ⟨hop, id, hid, set, hset, himport, rfl⟩, hname⟩
    exact ⟨id, set, hop, hid, hset, himport, hname⟩
  · rintro ⟨id, set, hop, hid, hset, himport, hname⟩
    exact ⟨_, ⟨hop, id, hid, set, hset, himport, rfl⟩, hname⟩

section Fresh

variable {v : Version} {a : AddressingModel} {is : List Instruction} {m : Module}

theorem unmarked_of_mem_place (hfresh : ∀ i ∈ is, i.Fresh) {j : Instruction}
    (hj : j ∈ place is) : j.debugInfo = false ∧ j.nonSemantic = false := by
  obtain ⟨n, hn⟩ := List.mem_iff_getElem?.mp hj
  rw [place_getElem?, Option.map_eq_some_iff] at hn
  obtain ⟨i, hi, rfl⟩ := hn
  exact (hfresh i (List.mem_of_getElem? hi)).unmarked

/-- Instructions that bring no mark along have the marks that their sets give them. -/
theorem marked_of_fresh (hbuild : build v a is = .ok m) (hfresh : ∀ i ∈ is, i.Fresh)
    {u : Instruction} (hu : u ∈ m.instructions) :
    (u.debugInfo || u.nonSemantic) = (setName? m.instructions u).any isSilentSet := by
  have hkeeps := finish_keepsCode (place is)
  have hinstructions : m.instructions = (place is).map (finish (place is)) := by
    obtain ⟨-, rfl⟩ := (build_eq_ok_iff v a is m).mp hbuild
    exact assemble_instructions v a (place is)
  rw [hinstructions] at hu ⊢
  obtain ⟨j, hj, rfl⟩ := List.mem_map.mp hu
  obtain ⟨hdebug, hnon⟩ := unmarked_of_mem_place hfresh hj
  have hname : setName? ((place is).map (finish (place is))) (finish (place is) j) =
      setName? (place is) j := by
    simp only [setName?, hkeeps.importedSet?, hkeeps.opcode, Instruction.operand, hkeeps.words]
  rw [finish_debugInfo, finish_nonSemantic, hname, hdebug, hnon, Bool.false_or, Bool.false_or]
  cases setName? (place is) j <;> rfl

theorem mayUseFunction_iff (hbuild : build v a is = .ok m) (hfresh : ∀ i ∈ is, i.Fresh)
    {u : Instruction} (hu : u ∈ m.instructions) : m.mayUseFunction u = true ↔ m.MayRefer u := by
  have hsilent := (indexed_of_build hbuild).setName?_any_iff u isSilentSet
  rw [← marked_of_fresh hbuild hfresh hu] at hsilent
  constructor
  · intro h
    unfold mayUseFunction at h
    split at h
    case h_18 hop => exact .pointer hop h
    case h_19 =>
      obtain ⟨id, set, hop, hid, hset, himport, hname⟩ := hsilent.mp h
      exact .silent id set hop hid hset himport hname
    all_goals
      rename_i hop
      exact .listed (by rw [hop]; decide)
  · rintro (hop | ⟨hop, hcapability⟩ | ⟨id, set, hop, hid, hset, himport, hname⟩)
    · unfold mayUseFunction
      split
      case h_18 hpointer => exact absurd (hpointer ▸ hop) (by decide)
      case h_19 => simp_all [Opcode.functionUsers]
      all_goals rfl
    · rw [mayUseFunction, hop]
      exact hcapability
    · rw [mayUseFunction, hop]
      exact hsilent.mpr ⟨id, set, hop, hid, hset, himport, hname⟩

theorem misuses_iff (hbuild : build v a is = .ok m) (hfresh : ∀ i ∈ is, i.Fresh)
    (id : Id) (u : Instruction) :
    m.Misuses id u ↔
      u ∈ m.instructions ∧ (u.idOperands.any (·.2 == id) && !m.mayUseFunction u) = true := by
  have hany : u.idOperands.any (·.2 == id) = true ↔ ∃ k, (k, id) ∈ u.idOperands := by
    simp
  rw [Bool.and_eq_true, hany, Bool.not_eq_true', Bool.eq_false_iff]
  constructor
  · rintro ⟨hu, hrefers, hforbidden⟩
    exact ⟨hu, hrefers, mt (mayUseFunction_iff hbuild hfresh hu).mp hforbidden⟩
  · rintro ⟨hu, hrefers, hforbidden⟩
    exact ⟨hu, hrefers, mt (mayUseFunction_iff hbuild hfresh hu).mpr hforbidden⟩

end Fresh

/-- A search through a module finds the qualifying instruction of the least position. -/
theorem Indexed.least_of_find? {m : Module} (hm : m.Indexed) {p : Instruction → Bool}
    {u w : Instruction} (h : m.instructions.find? p = some u) (hw : w ∈ m.instructions)
    (hp : p w = true) : u.position ≤ w.position := by
  obtain ⟨-, before, after, hsplit, hbefore⟩ := List.find?_eq_some_iff_append.mp h
  have hordered := hm.pairwise_position
  rw [hsplit, List.pairwise_append, List.pairwise_cons] at hordered
  rw [hsplit, List.mem_append, List.mem_cons] at hw
  rcases hw with hw | rfl | hw
  · have hnone := hbefore w hw
    rw [hp] at hnone
    contradiction
  · exact Nat.le_refl _
  · exact Nat.le_of_lt (hordered.2.1.1 w hw)

theorem check_of_function {m : Module} {config : Config} (hc : config.checkFunctions = true)
    {f : Instruction} (hop : f.opcode = .function) : m.check config f = m.checkFunction f := by
  rw [check_eq_checkFunctionPass hc (by rw [hop]; rfl), checkFunctionPass, hop]

theorem checkFunction_eq_ok_iff_forbiddenUser? (m : Module) (f : Instruction) :
    m.checkFunction f = .ok () ↔ m.checkSignature f = .ok () ∧ m.forbiddenUser? f = none := by
  rw [checkFunction, then_eq_ok_iff, mapError_eq_ok_iff]
  cases m.forbiddenUser? f <;> simp

end Module

theorem Diagnostic.ids_about (i : Instruction) (kind : Kind) (id : Id) (message : String) :
    (Diagnostic.about i kind [id] message).ids = (i.resultId.toList ++ [id]).eraseDups := by
  cases h : i.resultId with
  | none => simp [about, withIds, h, List.eraseDups_cons]
  | some r =>
    by_cases hr : id = r <;> simp [about, withIds, h, hr, List.eraseDups_cons]

section Function

variable {v : Version} {a : AddressingModel} {is : List Instruction} {e : Engine} {f : Instruction}
  {id : Id}

theorem Engine.function_eq_ok_iff (hbuild : Module.build v a is = .ok e.module)
    (hfresh : ∀ i ∈ is, i.Fresh) (hconfig : e.config.checkFunctions = true)
    (hf : f ∈ e.module.instructions) (hop : f.opcode = .function) (hid : f.resultId = some id) :
    e.validateInstruction f = .ok () ↔
      (e.module.ReturnsAsDeclared f ∨ e.module.ReturnsUnstated f) ∧ e.module.UsedRightly id := by
  have hm := Module.indexed_of_build hbuild
  have hmisuses := Module.misuses_iff hbuild hfresh id
  rw [validateInstruction, mapError_eq_ok_iff, Module.check_of_function hconfig hop,
    Module.checkFunction_eq_ok_iff_forbiddenUser?, hm.checkSignature_eq_ok_iff hf hop,
    hm.forbiddenUser?_eq hf hid, List.find?_eq_none]
  refine and_congr_right fun _ => ⟨fun hnone u hu k hk => ?_, fun hall u hu hforbidden => ?_⟩
  · by_contra hforbidden
    exact hnone u hu ((hmisuses u).mp ⟨hu, ⟨k, hk⟩, hforbidden⟩).2
  · have hmisuse := (hmisuses u).mpr ⟨hu, hforbidden⟩
    obtain ⟨k, hk⟩ := hmisuse.refers
    exact hmisuse.forbidden (hall u hu k hk)

theorem Engine.reports_first_misuse (hbuild : Module.build v a is = .ok e.module)
    (hfresh : ∀ i ∈ is, i.Fresh) (hconfig : e.config.checkFunctions = true)
    (hf : f ∈ e.module.instructions) (hop : f.opcode = .function) (hid : f.resultId = some id)
    (hsignature : e.module.checkSignature f = .ok ()) (hmisused : ∃ u, e.module.Misuses id u) :
    ∃ d u, e.validateInstruction f = .error (.validation d) ∧
      e.module.Misuses id u ∧ (∀ w, e.module.Misuses id w → u.position ≤ w.position) ∧
      d.position = u.position ∧ d.ids = (u.resultId.toList ++ [id]).eraseDups := by
  have hm := Module.indexed_of_build hbuild
  have hmisuses := Module.misuses_iff hbuild hfresh id
  have hfirst := hm.forbiddenUser?_eq hf hid
  obtain ⟨w, hw⟩ := hmisused
  obtain ⟨u, hu⟩ : ∃ u, e.module.forbiddenUser? f = some u := by
    rw [hfirst, ← Option.isSome_iff_exists, List.find?_isSome]
    exact ⟨w, (hmisuses w).mp hw⟩
  have hfind := hfirst.symm.trans hu
  let violation : Violation := ⟨u, .function (.invalidUse id)⟩
  have hviolation : e.module.check e.config f = .error violation := by
    have hmisused : e.module.Misused e.config f u := ⟨hf, hconfig, hop, hsignature, hu⟩
    rw [hmisused.check_eq, hid]
    rfl
  refine ⟨violation.diagnostic (e.names e.module), u, ?_, ?_, fun w hw => ?_, rfl, ?_⟩
  · rw [validateInstruction, hviolation]
    rfl
  · have hforbidden := (List.find?_eq_some_iff_append.mp hfind).1
    exact (hmisuses u).mpr ⟨List.mem_of_find?_eq_some hfind, hforbidden⟩
  · obtain ⟨hmem, hforbidden⟩ := (hmisuses w).mp hw
    exact hm.least_of_find? hfind hmem hforbidden
  · exact Diagnostic.ids_about u _ id _

/-- A function is accepted exactly if it returns what its type declares, or no type that is declared,
and every instruction of the module that refers to it may do so. Otherwise the first instruction that
may not is reported. -/
theorem Engine.function_accepted_iff (hbuild : Module.build v a is = .ok e.module)
    (hfresh : ∀ i ∈ is, i.Fresh) (hconfig : e.config.checkFunctions = true)
    (hf : f ∈ e.module.instructions) (hop : f.opcode = .function) (hid : f.resultId = some id) :
    (e.validateInstruction f = .ok () ↔
      (e.module.ReturnsAsDeclared f ∨ e.module.ReturnsUnstated f) ∧ e.module.UsedRightly id) ∧
    ((e.validateInstruction f = .ok () ↔
        e.module.ReturnsAsDeclared f ∧ e.module.UsedRightly id) ↔
      ¬ (e.module.ReturnsUnstated f ∧ e.module.UsedRightly id)) ∧
    (e.module.ReturnsAsDeclared f ∨ e.module.ReturnsUnstated f → (∃ u, e.module.Misuses id u) →
      ∃ d u, e.validateInstruction f = .error (.validation d) ∧
        e.module.Misuses id u ∧ (∀ w, e.module.Misuses id w → u.position ≤ w.position) ∧
        d.position = u.position ∧ d.ids = (u.resultId.toList ++ [id]).eraseDups) := by
  have haccepted := function_eq_ok_iff hbuild hfresh hconfig hf hop hid
  refine ⟨haccepted, ?_, fun hreturns hmisused => ?_⟩
  · rw [haccepted]
    constructor
    · rintro hclaim ⟨hunstated, hused⟩
      exact hunstated.not_returnsAsDeclared (hclaim.mp ⟨Or.inr hunstated, hused⟩).1
    · intro hnot
      refine and_congr_left fun hused => or_iff_left fun hunstated => hnot ⟨hunstated, hused⟩
  · have hm := Module.indexed_of_build hbuild
    have hsignature := (hm.checkSignature_eq_ok_iff hf hop).mpr hreturns
    exact reports_first_misuse hbuild hfresh hconfig hf hop hid hsignature hmisused

end Function

namespace Engine

/-- A function `4` with a name, and an instruction that refers to it from a set imported last. -/
def traced : List Instruction :=
  Instruction.ofOpcodes [(.extInst, [1, 9, 10, 2, 4]), (.typeVoid, [1]), (.typeFunction, [3, 1]),
    (.function, [1, 4, 0, 3]), (.label, [5]), (.returnVoid, []), (.functionEnd, []),
    (.name, [4, 0x66]), (.extInstImport, 10 :: Literal.encode "NonSemantic.Trace")]

theorem traced_function_accepted :
    let e := exhaustive traced
    Module.build .v1_6 .logical traced = .ok e.module ∧ (∀ i ∈ traced, i.Fresh) ∧
      e.config.checkFunctions = true ∧
      ∃ f ∈ e.module.instructions, f.opcode = .function ∧ f.resultId = some 4 ∧
        e.validateInstruction f = .ok () ∧ e.module.ReturnsAsDeclared f ∧
        e.module.UsedRightly 4 := by
  intro e
  have hbuild : Module.build .v1_6 .logical traced = .ok e.module := rfl
  have hfresh : ∀ i ∈ traced, i.Fresh := fun i hi => Instruction.fresh_of_mem_ofOpcodes hi
  let f := e.module.instructions[3]
  have hf : f ∈ e.module.instructions := List.getElem_mem _
  have haccepted : e.validateInstruction f = .ok () := by decide +kernel
  have hreturns : e.module.ReturnsAsDeclared f := ⟨3, _, 1, rfl, rfl, rfl, rfl, rfl⟩
  have hused := ((function_accepted_iff hbuild hfresh rfl hf rfl rfl).1.mp haccepted).2
  exact ⟨hbuild, hfresh, rfl, f, hf, rfl, rfl, haccepted, hreturns, hused⟩

/-- A function `4` of the result type 0, and a function type without a return type. -/
def untyped : List Instruction :=
  Instruction.ofOpcodes [(.typeFunction, [3]), (.function, [0, 4, 0, 3]), (.functionEnd, [])]

theorem untyped_function_accepted :
    let e := exhaustive untyped
    Module.build .v1_6 .logical untyped = .ok e.module ∧ (∀ i ∈ untyped, i.Fresh) ∧
      e.config.checkFunctions = true ∧
      ∃ f ∈ e.module.instructions, f.opcode = .function ∧ f.resultId = some 4 ∧
        e.validateInstruction f = .ok () ∧
        ¬ (e.validateInstruction f = .ok () ↔
          e.module.ReturnsAsDeclared f ∧ e.module.UsedRightly 4) := by
  intro e
  have hbuild : Module.build .v1_6 .logical untyped = .ok e.module := rfl
  have hfresh : ∀ i ∈ untyped, i.Fresh := fun i hi => Instruction.fresh_of_mem_ofOpcodes hi
  let f := e.module.instructions[1]
  have hf : f ∈ e.module.instructions := List.getElem_mem _
  have haccepted : e.validateInstruction f = .ok () := rfl
  have hunstated : e.module.ReturnsUnstated f := ⟨3, _, rfl, rfl, rfl, rfl, rfl⟩
  refine ⟨hbuild, hfresh, rfl, f, hf, rfl, rfl, haccepted, fun hclaim => ?_⟩
  exact hunstated.not_returnsAsDeclared (hclaim.mp haccepted).1

/-- The first of the two instructions that copy the function `6` is reported, and only once. -/
example :
    let copies := withTypes ([.ofOpcode .copyObject [2, 9, 6], .ofOpcode .copyObject [2, 8, 6]] ++
      [.ofOpcode .function [1, 6, 0, 3], .ofOpcode .functionEnd []])
    (exhaustive copies).collect.map Diagnostic.ids = [[9, 6]] := rfl

end Engine
end Spirv
