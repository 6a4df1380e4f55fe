import Spirv.Proofs.Function.Rules
import Spirv.Proofs.Module.Layout
import Spirv.Proofs.Module.Rearranged
import Spirv.Validate

set_option autoImplicit false

/-!
# Parameters follow the declared signature

The rule for parameters looks at one parameter and its index. It passes all parameters of a module
exactly when the parameters below each function have the types that the function type lists first.
Only functions, parameters and the declared types decide it, whatever else stands in between.
-/
namespace Spirv

/-- Where the elements that count read the same, each has a counterpart, between elements that read
the same in front of it and behind it. -/
theorem exists_split_of_filter_map {α β : Type} {counts : α → Bool} {code : α → β}
    {as bs before after : List α} {b : α}
    (h : (as.filter counts).map code = (bs.filter counts).map code)
    (hbs : bs = before ++ b :: after) (hb : counts b = true) :
    ∃ before' a after', as = before' ++ a :: after' ∧ code a = code b ∧
      (before'.filter counts).map code = (before.filter counts).map code ∧
      (after'.filter counts).map code = (after.filter counts).map code := by
  rw [hbs, List.filter_append, List.filter_cons_of_pos hb, List.map_append, List.map_cons] at h
  obtain ⟨front, back, hsplit, hfront, hback⟩ := List.map_eq_append_iff.mp h
  obtain ⟨a, rest, rfl, ha, hrest⟩ := List.map_eq_cons_iff.mp hback
  obtain ⟨before', back', rfl, rfl, hback'⟩ := List.filter_eq_append_iff.mp hsplit
  obtain ⟨gap, after', rfl, hgap, -, rfl⟩ := List.filter_eq_cons_iff.mp hback'
  refine ⟨before' ++ gap, a, after', by simp, ha, ?_, hrest⟩
  rw [List.filter_append, List.filter_eq_nil_iff.mpr hgap, List.append_nil]
  exact hfront

def Instruction.code (i : Instruction) : Opcode × List Word := (i.opcode, i.words)

namespace Module

/-- No parameter stands in front of all functions, and the result types of the parameters below each
function that has some are the first parameter types of its function type. -/
structure ParametersDeclared (m : Module) : Prop where
  enclosed : ∀ p ∈ m.instructions, p.opcode = .functionParameter →
    ∃ f ∈ m.instructions, f.opcode = .function ∧ f.position < p.position
  declared : ∀ f ∈ m.instructions, f.opcode = .function → m.parametersOf f ≠ [] →
    ∃ id type, f.operand 3 = some id ∧ m.definition? id = some type ∧
      type.opcode = .typeFunction ∧
      (m.parametersOf f).map (·.typeId) <+: (type.operandsFrom 2).map some

structure SameSignatures (m m' : Module) : Prop where
  lines : (m.instructions.filter (·.opcode.delimitsParameters)).map Instruction.code =
    (m'.instructions.filter (·.opcode.delimitsParameters)).map Instruction.code
  types : ∀ f ∈ m.instructions, f.opcode = .function →
    (m.functionType? f).map Instruction.code = (m'.functionType? f).map Instruction.code

variable {m m' : Module} {f p : Instruction}

/-! ### The rule for one parameter -/

theorem Indexed.checkParameter_parametersOf (hm : m.Indexed) {k : Nat} (hf : f ∈ m.instructions)
    (hop : f.opcode = .function) (hp : (m.parametersOf f)[k]? = some p) :
    m.checkParameter p = .ok () ↔
      ∃ type, m.functionType? f = some type ∧
        ((type.operandsFrom 2).map some)[k]? = some p.typeId := by
  obtain ⟨hmem, hparameter⟩ := mem_parametersOf (List.mem_of_getElem? hp)
  have htype : p.typeId = some p.typeIdOrZero := hm.typeId_eq hmem (by rw [hparameter]; rfl)
  rw [checkParameter, hm.parameterSlot? hf hop hp]
  simp only [checkParameterOf_eq_ok_iff, hm.instruction?_position hf, htype, List.getElem?_map,
    Option.map_eq_some_iff, Option.some.injEq, exists_eq_right]
  constructor
  · rintro ⟨f', type, rfl, htype, hk⟩
    exact ⟨type, htype, hk⟩
  · rintro ⟨type, htype, hk⟩
    exact ⟨f, type, rfl, htype, hk⟩

open ParameterTable in
/-- A parameter behind some function is one of the parameters of a function. -/
theorem Indexed.exists_mem_parametersOf (hm : m.Indexed) (hp : p ∈ m.instructions)
    (hparameter : p.opcode = .functionParameter)
    (hbehind : ∃ f ∈ m.instructions, f.opcode = .function ∧ f.position < p.position) :
    ∃ f ∈ m.instructions, f.opcode = .function ∧ p ∈ m.parametersOf f := by
  obtain ⟨g, hg, hgop, hlt⟩ := hbehind
  have hstands : StandsAt m.instructions .functionParameter p.position :=
    ⟨p, hm.instruction?_position hp, hparameter⟩
  have hscanned := hm.scannedSlot p.position
  generalize m.parameterSlot? p.position = slot at hscanned
  cases hscanned with
  | other hother => exact absurd hstands hother
  | first _ hzero => omega
  | unenclosed _ _ hnone =>
    exact absurd ⟨g, hm.instruction?_position hg, hgop⟩ (hnone g.position hlt)
  | inFunction _ hlast =>
    obtain ⟨f, hf, hop⟩ := hlast.stands
    have hposition := hm.position _ _ hf
    have hmem := List.mem_of_getElem? hf
    rw [← hposition] at hlast
    have hindex := (hm.getElem?_parametersOf_iff hmem hop).mpr ⟨hp, hparameter, hlast, rfl⟩
    exact ⟨f, hmem, hop, List.mem_of_getElem? hindex⟩

open ParameterTable in
theorem Indexed.exists_function_of_checkParameter (hm : m.Indexed) (hp : p ∈ m.instructions)
    (hparameter : p.opcode = .functionParameter) (h : m.checkParameter p = .ok ()) :
    ∃ f ∈ m.instructions, f.opcode = .function ∧ f.position < p.position := by
  have hstands : StandsAt m.instructions .functionParameter p.position :=
    ⟨p, hm.instruction?_position hp, hparameter⟩
  have hscanned := hm.scannedSlot p.position
  rw [checkParameter] at h
  generalize m.parameterSlot? p.position = slot at hscanned h
  cases hscanned with
  | other | first | unenclosed => contradiction
  | inFunction _ hlast =>
    obtain ⟨f, hf, hop⟩ := hlast.stands
    refine ⟨f, List.mem_of_getElem? hf, hop, ?_⟩
    rw [hm.position _ _ hf]
    exact hlast.lt

/-! ### The rule for all parameters -/

/-- The parameters of a function pass when their types are the first ones that it declares. -/
theorem Indexed.checkParameter_forall_parametersOf (hm : m.Indexed) (hf : f ∈ m.instructions)
    (hop : f.opcode = .function) :
    (∀ p ∈ m.parametersOf f, m.checkParameter p = .ok ()) ↔
      (m.parametersOf f ≠ [] → ∃ type, m.functionType? f = some type ∧
        (m.parametersOf f).map (·.typeId) <+: (type.operandsFrom 2).map some) := by
  have hrule (k : Nat) (p : Instruction) (hp : (m.parametersOf f)[k]? = some p) :=
    hm.checkParameter_parametersOf hf hop hp
  constructor
  · intro hall hne
    -- the first parameter shows that the type is there, and each one what it says at its index
    obtain ⟨first, hfirst⟩ := List.exists_mem_of_ne_nil _ hne
    obtain ⟨k, hk⟩ := List.mem_iff_getElem?.mp hfirst
    obtain ⟨type, htype, -⟩ := (hrule k first hk).mp (hall first hfirst)
    refine ⟨type, htype, List.prefix_iff_getElem?.mpr fun n hn => ?_⟩
    rw [List.length_map] at hn
    obtain ⟨type', htype', hexpected⟩ :=
      (hrule n _ (List.getElem?_eq_getElem hn)).mp (hall _ (List.getElem_mem hn))
    obtain rfl := Option.some.inj (htype.symm.trans htype')
    rw [hexpected, List.getElem_map]
  · intro hdeclared p hp
    obtain ⟨k, hk⟩ := List.mem_iff_getElem?.mp hp
    obtain ⟨type, htype, hprefix⟩ := hdeclared (List.ne_nil_of_mem hp)
    refine (hrule k p hk).mpr ⟨type, htype, ?_⟩
    obtain ⟨hlt, rfl⟩ := List.getElem?_eq_some_iff.mp hk
    rw [List.prefix_iff_getElem?.mp hprefix k (by rwa [List.length_map]), List.getElem_map]

theorem Indexed.checkParameter_forall_iff (hm : m.Indexed) :
    (∀ p ∈ m.instructions, p.opcode = .functionParameter → m.checkParameter p = .ok ()) ↔
      m.ParametersDeclared := by
  constructor
  · intro hall
    refine ⟨fun p hp hparameter => ?_, fun f hf hop hne => ?_⟩
    · exact hm.exists_function_of_checkParameter hp hparameter (hall p hp hparameter)
    · have hparameters (p : Instruction) (hp : p ∈ m.parametersOf f) :
          m.checkParameter p = .ok () := by
        obtain ⟨hmem, hparameter⟩ := mem_parametersOf hp
        exact hall p hmem hparameter
      obtain ⟨type, htype, hprefix⟩ :=
        (hm.checkParameter_forall_parametersOf hf hop).mp hparameters hne
      obtain ⟨id, hid, hdef, htop⟩ := (functionType?_eq_some_iff m f type).mp htype
      exact ⟨id, type, hid, hdef, htop, hprefix⟩
  · intro h p hp hparameter
    obtain ⟨f, hf, hop, hmem⟩ :=
      hm.exists_mem_parametersOf hp hparameter (h.enclosed p hp hparameter)
    refine (hm.checkParameter_forall_parametersOf hf hop).mpr (fun hne => ?_) p hmem
    obtain ⟨id, type, hid, hdef, htop, hprefix⟩ := h.declared f hf hop hne
    exact ⟨type, (functionType?_eq_some_iff m f type).mpr ⟨id, hid, hdef, htop⟩, hprefix⟩

/-! ### What stands in between -/

theorem map_code_parameters (is : List Instruction) :
    ((is.takeWhile (·.opcode != .function)).filter (·.opcode == .functionParameter)).map
        Instruction.code =
      ((is.filter (·.opcode.delimitsParameters)).map Instruction.code).takeWhile
        (·.1 != .function) := by
  induction is with
  | nil => rfl
  | cons i is ih =>
    by_cases hfunction : i.opcode = .function
    · simp [hfunction, Opcode.delimitsParameters, Instruction.code]
    by_cases hparameter : i.opcode = .functionParameter
    · simpa [hparameter, Opcode.delimitsParameters, Instruction.code] using ih
    · have hdelimits : i.opcode.delimitsParameters = false := by
        unfold Opcode.delimitsParameters
        split <;> simp_all
      simpa [hfunction, hparameter, hdelimits] using ih

theorem Indexed.mem_front_iff (hm : m.Indexed) {before after : List Instruction}
    (hsplit : m.instructions = before ++ p :: after) (hf : f ∈ m.instructions) :
    f ∈ before ↔ f.position < p.position := by
  have hpositions := hm.pairwise_position
  rw [hsplit, List.pairwise_append] at hpositions
  obtain ⟨-, hback, hfront⟩ := hpositions
  constructor
  · exact fun hbefore => hfront f hbefore p List.mem_cons_self
  · intro hlt
    rw [hsplit, List.mem_append, List.mem_cons] at hf
    obtain hbefore | rfl | hafter := hf
    · exact hbefore
    · omega
    · have hgt := (List.pairwise_cons.mp hback).1 f hafter
      omega

theorem Indexed.map_code_parametersOf (hm : m.Indexed) {before after : List Instruction}
    (hsplit : m.instructions = before ++ f :: after) :
    (m.parametersOf f).map Instruction.code =
      ((after.filter (·.opcode.delimitsParameters)).map Instruction.code).takeWhile
        (·.1 != .function) := by
  have hposition : f.position = before.length := hm.position _ _ (by rw [hsplit]; simp)
  have hdrop : m.instructions.drop (f.position + 1) = after := by
    rw [hsplit, hposition, ← List.drop_drop, List.drop_left, List.drop_one, List.tail_cons]
  rw [parametersOf, hdrop, map_code_parameters]

theorem map_typeId_of_map_code {is js : List Instruction}
    (h : is.map Instruction.code = js.map Instruction.code) :
    is.map (·.typeId) = js.map (·.typeId) := by
  -- the result type is read off the opcode and the words
  let read (code : Opcode × List Word) : Option Id :=
    if code.1.hasResultType then code.2[0]? else none
  calc
    is.map (·.typeId) = (is.map Instruction.code).map read := by rw [List.map_map]; rfl
    _ = (js.map Instruction.code).map read := by rw [h]
    _ = js.map (·.typeId) := by rw [List.map_map]; rfl

theorem functionType?_of_code (hcode : p.code = f.code) :
    m.functionType? p = m.functionType? f := by
  have hwords : p.words = f.words := congrArg Prod.snd hcode
  simp only [functionType?, Instruction.operand, hwords]

namespace SameSignatures

/-- A function or a parameter of one module has a counterpart in the other one, and what stands in
front of the two and behind them has the same functions and parameters. -/
theorem exists_split (h : m.SameSignatures m') {before after : List Instruction}
    (hsplit : m'.instructions = before ++ p :: after)
    (hp : p.opcode.delimitsParameters = true) :
    ∃ before' q after', m.instructions = before' ++ q :: after' ∧ q.code = p.code ∧
      (before'.filter (·.opcode.delimitsParameters)).map Instruction.code =
        (before.filter (·.opcode.delimitsParameters)).map Instruction.code ∧
      (after'.filter (·.opcode.delimitsParameters)).map Instruction.code =
        (after.filter (·.opcode.delimitsParameters)).map Instruction.code :=
  exists_split_of_filter_map h.lines hsplit hp

theorem symm (h : m.SameSignatures m') : m'.SameSignatures m where
  lines := h.lines.symm
  types f hf hop := by
    obtain ⟨before, after, hsplit⟩ := List.append_of_mem hf
    obtain ⟨before', g, after', hsplit', hcode, -⟩ :=
      h.exists_split hsplit (by rw [hop]; rfl)
    have hg : g ∈ m.instructions := by simp [hsplit']
    have hgop : g.opcode = .function := (congrArg Prod.fst hcode).trans hop
    have htypes := h.types g hg hgop
    rw [functionType?_of_code hcode, functionType?_of_code hcode] at htypes
    exact htypes.symm

theorem parametersDeclared (h : m.SameSignatures m') (hm : m.Indexed) (hm' : m'.Indexed)
    (hd : m.ParametersDeclared) : m'.ParametersDeclared := by
  constructor
  · intro p hp hparameter
    obtain ⟨before, after, hsplit⟩ := List.append_of_mem hp
    obtain ⟨before', q, after', hsplit', hcode, hfront, -⟩ :=
      h.exists_split hsplit (by rw [hparameter]; rfl)
    obtain ⟨g, hg, hgop, hlt⟩ := hd.enclosed q (by simp [hsplit'])
      ((congrArg Prod.fst hcode).trans hparameter)
    have hgfront : g ∈ before'.filter (·.opcode.delimitsParameters) :=
      List.mem_filter.mpr ⟨(hm.mem_front_iff hsplit' hg).mpr hlt, by rw [hgop]; rfl⟩
    have hcounterpart := List.mem_map_of_mem (f := Instruction.code) hgfront
    rw [hfront] at hcounterpart
    obtain ⟨f, hf, hfcode⟩ := List.mem_map.mp hcounterpart
    have hbefore := (List.mem_filter.mp hf).1
    have hmem : f ∈ m'.instructions := by simp [hsplit, hbefore]
    exact ⟨f, hmem, (congrArg Prod.fst hfcode).trans hgop,
      (hm'.mem_front_iff hsplit hmem).mp hbefore⟩
  · intro f hf hop hne
    obtain ⟨before, after, hsplit⟩ := List.append_of_mem hf
    obtain ⟨before', g, after', hsplit', hcode, -, hback⟩ :=
      h.exists_split hsplit (by rw [hop]; rfl)
    have hg : g ∈ m.instructions := by simp [hsplit']
    have hgop : g.opcode = .function := (congrArg Prod.fst hcode).trans hop
    have hparameters : (m.parametersOf g).map Instruction.code =
        (m'.parametersOf f).map Instruction.code := by
      rw [hm.map_code_parametersOf hsplit', hm'.map_code_parametersOf hsplit, hback]
    have hne' : m.parametersOf g ≠ [] := by
      intro hnil
      rw [hnil, List.map_nil, eq_comm, List.map_eq_nil_iff] at hparameters
      exact hne hparameters
    obtain ⟨id, type, hid, hdef, htop, hprefix⟩ := hd.declared g hg hgop hne'
    have htype := (functionType?_eq_some_iff m g type).mpr ⟨id, hid, hdef, htop⟩
    have htypes := h.types g hg hgop
    rw [htype, functionType?_of_code hcode, Option.map_some, eq_comm,
      Option.map_eq_some_iff] at htypes
    obtain ⟨type', htype', hcode'⟩ := htypes
    obtain ⟨id', hid', hdef', htop'⟩ := (functionType?_eq_some_iff m' f type').mp htype'
    have hwords : type'.operandsFrom 2 = type.operandsFrom 2 :=
      congrArg (fun code : Opcode × List Word => code.2.drop 2) hcode'
    refine ⟨id', type', hid', hdef', htop', ?_⟩
    rw [hwords, ← map_typeId_of_map_code hparameters]
    exact hprefix

end SameSignatures

/-- With the rules for functions on, all parameters pass exactly when they are declared, and no
instruction but functions, parameters and function types has a say in it. -/
theorem parametersDeclared_iff {v : Version} {addressing : AddressingModel}
    {is : List Instruction} (hbuild : build v addressing is = .ok m) {config : Config}
    (hc : config.checkFunctions = true) (names : NameResolver) :
    ((∀ p ∈ m.instructions, p.opcode = .functionParameter →
        Engine.validateInstruction ⟨m, config, names⟩ p = .ok ()) ↔ m.ParametersDeclared) ∧
      ∀ (v' : Version) (addressing' : AddressingModel) (is' : List Instruction) (m' : Module),
        build v' addressing' is' = .ok m' → m.SameSignatures m' →
          (m.ParametersDeclared ↔ m'.ParametersDeclared) := by
  have hm := indexed_of_build hbuild
  refine ⟨?_, fun _ _ _ _ hbuild' hsame => ⟨?_, ?_⟩⟩
  · rw [← hm.checkParameter_forall_iff]
    refine forall₃_congr fun p _ hparameter => ?_
    have hfamily : p.opcode.family = .function := by rw [hparameter]; rfl
    rw [Engine.validateInstruction, mapError_eq_ok_iff, check, hfamily]
    simp only [hc, ↓reduceIte, checkFunctionPass, hparameter, mapError_eq_ok_iff]
  · exact hsame.parametersDeclared hm (indexed_of_build hbuild')
  · exact hsame.symm.parametersDeclared (indexed_of_build hbuild') hm

/-- Two functions of one type, of which the second one leaves its last parameter out. -/
def twoFunctions : List Instruction :=
  [.ofOpcode .typeFloat [1, 32], .ofOpcode .typeInt [2, 32, 0],
    .ofOpcode .typeFunction [3, 1, 1, 2], .ofOpcode .function [1, 4, 0, 3],
    .ofOpcode .functionParameter [1, 5], .ofOpcode .functionParameter [2, 6],
    .ofOpcode .function [1, 7, 0, 3], .ofOpcode .functionParameter [1, 8]]

def twoFunctionsWithLines : List Instruction :=
  [.ofOpcode .typeFloat [1, 32], .ofOpcode .typeInt [2, 32, 0],
    .ofOpcode .typeFunction [3, 1, 1, 2], .ofOpcode .function [1, 4, 0, 3],
    .ofOpcode .functionParameter [1, 5], .ofOpcode .line [9, 1, 1], .ofOpcode .functionEnd [],
    .ofOpcode .functionParameter [2, 6], .ofOpcode .function [1, 7, 0, 3], .ofOpcode .noLine [],
    .ofOpcode .functionParameter [1, 8]]

theorem twoFunctionsWithLines_parametersDeclared :
    ∃ m m', build .v1_6 .logical twoFunctions = .ok m ∧
      build .v1_6 .logical twoFunctionsWithLines = .ok m' ∧ Config.standard.checkFunctions = true ∧
      m.SameSignatures m' ∧ m.ParametersDeclared ∧ m'.ParametersDeclared := by
  let m := assemble .v1_6 .logical (place twoFunctions)
  let m' := assemble .v1_6 .logical (place twoFunctionsWithLines)
  have hbuild : build .v1_6 .logical twoFunctions = .ok m := rfl
  have hbuild' : build .v1_6 .logical twoFunctionsWithLines = .ok m' := rfl
  have hsame : m.SameSignatures m' := ⟨rfl, by decide⟩
  have hpass : m.validate .standard = .ok () := rfl
  have hc : Config.standard.checkFunctions = true := rfl
  obtain ⟨hiff, hbetween⟩ := parametersDeclared_iff hbuild hc friendlyName
  have hdeclared : m.ParametersDeclared := by
    refine hiff.mp fun p hp _ => ?_
    rw [Engine.validateInstruction, mapError_eq_ok_iff]
    exact requireEach_eq_ok_iff.mp hpass p hp
  exact ⟨m, m', hbuild, hbuild', hc, hsame, hdeclared,
    (hbetween _ _ _ m' hbuild' hsame).mp hdeclared⟩

end Module
end Spirv
