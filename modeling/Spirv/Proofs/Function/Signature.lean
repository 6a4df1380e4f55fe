import Spirv.Proofs.Function.Rules
import Spirv.Proofs.Module.Accepted
import Spirv.Proofs.Module.Layout

set_option autoImplicit false

/-!
# Calls agree with the functions they call

In an accepted module the result and the arguments of every call have the types that the called
function declares, and so have the parameters below that function, wherever it stands.
-/
namespace Spirv.Module

theorem parametersOf_typeId {m : Module} {config : Config} (hm : m.Indexed)
    (hc : config.checkFunctions = true) (h : m.validate config = .ok ()) {f type p : Instruction}
    {k : Nat} (hf : f ∈ m.instructions) (hop : f.opcode = .function)
    (htype : m.functionType? f = some type) (hp : (m.parametersOf f)[k]? = some p) :
    ∃ t, p.typeId = some t ∧ (type.operandsFrom 2)[k]? = some t := by
  obtain ⟨hmem, hpop⟩ := mem_parametersOf (List.mem_of_getElem? hp)
  have hrule := checkParameter_of_validate hc h hmem hpop
  rw [checkParameter, hm.parameterSlot? hf hop hp] at hrule
  obtain ⟨f', type', hf', htype', hk⟩ := (checkParameterOf_eq_ok_iff m p _ k).mp hrule
  -- the slot holds the position of the function, and no other function stands there
  obtain rfl : f = f' := Option.some.inj ((hm.instruction?_position hf).symm.trans hf')
  obtain rfl : type = type' := Option.some.inj (htype.symm.trans htype')
  exact ⟨p.typeIdOrZero, hm.typeId_eq hmem (by rw [hpop]; rfl), hk⟩

theorem functionType_returns {m : Module} {config : Config} (hm : m.Indexed)
    (hc : config.checkFunctions = true) (h : m.validate config = .ok ()) {f type : Instruction}
    {t : Id} (hf : f ∈ m.instructions) (hop : f.opcode = .function)
    (htype : m.functionType? f = some type) (ht : f.typeId = some t)
    (hdef : (m.definition? t).isSome) : type.operand 1 = some t := by
  obtain ⟨⟨type', htype', hdecl⟩, -⟩ :=
    (checkFunction_eq_ok_iff m f).mp (checkFunction_of_validate hc h hf hop)
  obtain rfl : type = type' := Option.some.inj (htype.symm.trans htype')
  rw [Instruction.typeIdOrZero, ht, Option.getD_some] at hdecl
  obtain ⟨d, hd⟩ := Option.isSome_iff_exists.mp hdef
  rw [← hdecl] at hd
  obtain ⟨r, hr, -⟩ := hm.definition?_operandOrZero.mp hd
  rw [Instruction.operandOrZero, hr, Option.getD_some] at hdecl
  rw [hr, hdecl]

structure CallAgrees (m : Module) (call callee type : Instruction) : Prop where
  callee_defined : (call.operand 2).bind m.definition? = some callee
  callee_opcode : callee.opcode = .function
  type_defined : (callee.operand 3).bind m.definition? = some type
  type_opcode : type.opcode = .typeFunction
  result : ∃ t, call.typeId = some t ∧ callee.typeId = some t ∧ type.operand 1 = some t
  count : (call.operandsFrom 3).length = (type.operandsFrom 2).length
  argument : ∀ (k : Nat) (id : Id), (call.operandsFrom 3)[k]? = some id →
    ∃ a t, m.definition? id = some a ∧ a.typeId = some t ∧ (type.operandsFrom 2)[k]? = some t
  parameter : ∀ (k : Nat) (p : Instruction), (m.parametersOf callee)[k]? = some p →
    ∃ id a t, (call.operandsFrom 3)[k]? = some id ∧ m.definition? id = some a ∧
      a.typeId = some t ∧ p.typeId = some t

theorem call_agrees {v : Version} {addressing : AddressingModel} {is : List Instruction}
    {m : Module} (hbuild : build v addressing is = .ok m) (h : m.validate .standard = .ok ())
    {call : Instruction} (hcall : call ∈ m.instructions) (hop : call.opcode = .functionCall) :
    ∃ callee type, m.CallAgrees call callee type := by
  have hm := indexed_of_build hbuild
  obtain ⟨callee, type, hcallee, hreturn, hresult, htype, harguments⟩ :=
    (checkCall_eq_ok_iff m .standard call).mp (checkCall_of_validate rfl h hcall hop)
  obtain ⟨hdef, hcop⟩ := (function?_eq_some_iff m _ callee).mp hcallee
  obtain ⟨calleeId, hid, hdef'⟩ := hm.definition?_operandOrZero.mp hdef
  obtain ⟨typeId, htid, htdef, htop⟩ := (functionType?_eq_some_iff m callee type).mp htype
  have hmem := (mem_of_definition? hdef).1
  obtain ⟨t, ht, -⟩ := hm.exists_typeId hcall (by rw [hop]; rfl)
  obtain ⟨t', ht', -⟩ := hm.exists_typeId hmem (by rw [hcop]; rfl)
  simp only [Instruction.typeIdOrZero, ht, ht', Option.getD_some] at hresult hreturn
  subst hresult
  have hcount := ((checkArguments_eq_ok_iff m .standard _ _ _).mp harguments).1
  have hargument := checkArguments_typeId rfl harguments
  refine ⟨callee, type, ?_, hcop, ?_, htop, ⟨t', ht, ht', ?_⟩, hcount, hargument, ?_⟩
  · rw [hid]
    exact hdef'
  · rw [htid]
    exact htdef
  · exact functionType_returns hm rfl h hmem hcop htype ht' hreturn
  · -- a parameter has the declared type of its index, and so has the argument there
    intro k p hp
    obtain ⟨pt, hpt, hk⟩ := parametersOf_typeId hm rfl h hmem hcop htype hp
    obtain ⟨hlt, -⟩ := List.getElem?_eq_some_iff.mp hk
    obtain ⟨id, hid⟩ : ∃ id, (call.operandsFrom 3)[k]? = some id := by simp [hcount, hlt]
    obtain ⟨a, at', ha, hat, hk'⟩ := hargument k id hid
    obtain rfl : pt = at' := Option.some.inj (hk.symm.trans hk')
    exact ⟨id, a, pt, hid, ha, hat, hpt⟩

def forwardCall : List Instruction :=
  [.ofOpcode .typeFloat [1, 32], .ofOpcode .typeFunction [2, 1, 1],
    .ofOpcode .function [1, 3, 0, 2], .ofOpcode .functionParameter [1, 4], .ofOpcode .label [5],
    .ofOpcode .functionCall [1, 6, 7, 4], .ofOpcode .returnValue [6], .ofOpcode .functionEnd [],
    .ofOpcode .function [1, 7, 0, 2], .ofOpcode .functionParameter [1, 8], .ofOpcode .label [9],
    .ofOpcode .returnValue [8], .ofOpcode .functionEnd []]

def forwardCallModule : Module := assemble .v1_6 .logical (place forwardCall)

theorem forwardCall_agrees :
    build .v1_6 .logical forwardCall = .ok forwardCallModule ∧
      forwardCallModule.validate .standard = .ok () ∧
      ∃ call ∈ forwardCallModule.instructions, call.opcode = .functionCall ∧
        ∃ callee type, forwardCallModule.CallAgrees call callee type := by
  have hbuild : build .v1_6 .logical forwardCall = .ok forwardCallModule := rfl
  have hvalid : forwardCallModule.validate .standard = .ok () := rfl
  have hcall : forwardCallModule.instructions[5] ∈ forwardCallModule.instructions :=
    List.getElem_mem _
  exact ⟨hbuild, hvalid, _, hcall, rfl, call_agrees hbuild hvalid hcall rfl⟩

end Spirv.Module
