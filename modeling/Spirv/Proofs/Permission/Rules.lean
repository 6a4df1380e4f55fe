import Spirv.Proofs.Agreement.Rules
import Spirv.Proofs.Function.Rules
import Spirv.Proofs.Module.Accepted

set_option autoImplicit false

/-!
# More permissions

A module permits more than another one when it has the same instructions and tables and all
permissions of the other one, and a configuration relaxes another one when it asks for no more. Both
only turn rules off or weaken what they require, so an instruction that passes its rule still passes
it. `Shader` alone is a capability that also forbids: constants with narrow components.
-/
namespace Spirv

/-- The second configuration may relax the rules on pointers and may leave out families of rules. -/
structure Config.Relaxes (config config' : Config) : Prop where
  relaxLogicalPointer : config.relaxLogicalPointer = true → config'.relaxLogicalPointer = true
  beforeLegalization : config.beforeLegalization = true → config'.beforeLegalization = true
  checkConstants : config'.checkConstants = true → config.checkConstants = true
  checkFunctions : config'.checkFunctions = true → config.checkFunctions = true
  maxTypeDepth : config'.maxTypeDepth = config.maxTypeDepth

theorem Config.Relaxes.refl (config : Config) : config.Relaxes config := ⟨id, id, id, id, rfl⟩

theorem require_imp {ε : Type} {holds holds' : Bool} {fault fault' : ε}
    (himp : holds = true → holds' = true) (h : require holds fault = .ok ()) :
    require holds' fault' = .ok () :=
  require_eq_ok_iff.mpr (himp (require_eq_ok_iff.mp h))

namespace Module

/-- The second module is the first one with more permissions, though not with `Shader` if the first
one does without it. -/
structure PermitsMore (m m' : Module) : Prop where
  instructions : m'.instructions = m.instructions
  decorations : m'.decorations = m.decorations
  parameters : m'.parameters = m.parameters
  addressing : m'.addressing = m.addressing
  hasCapability : ∀ c, m.hasCapability c = true → m'.hasCapability c = true
  shader : m'.hasCapability .shader = true → m.hasCapability .shader = true
  uConvertSpecConstantOp : m.features.uConvertSpecConstantOp = true →
    m'.features.uConvertSpecConstantOp = true
  variablePointers : m.features.variablePointers = true → m'.features.variablePointers = true

namespace PermitsMore

variable {config config' : Config} {m m' : Module} {i : Instruction}

theorem refl (m : Module) : m.PermitsMore m :=
  ⟨rfl, rfl, rfl, rfl, fun _ => id, id, id, id⟩

theorem definition? (h : m.PermitsMore m') : m'.definition? = m.definition? := by
  funext id
  simp only [Module.definition?, h.instructions]

theorem sameDefinitions (h : m.PermitsMore m') (config : Config) : SameDefinitions config m m' where
  definition? id := by
    rw [h.definition?]
    cases m.definition? id with
    | none => exact .none
    | some i => exact .some (.refl i)
  decorationsOf _ id := by simp only [Module.decorationsOf, h.decorations]

theorem functionType? (h : m.PermitsMore m') (f : Instruction) :
    m'.functionType? f = m.functionType? f := by
  simp only [Module.functionType?, h.definition?]

/-! ### Constants -/

theorem checkOperation (h : m.PermitsMore m') {op : Opcode} :
    m.checkOperation op = .ok () → m'.checkOperation op = .ok () := by
  unfold Module.checkOperation
  split
  case h_2 =>
    apply require_imp
    simp only [Bool.or_eq_true]
    exact Or.imp h.uConvertSpecConstantOp (h.hasCapability _)
  all_goals first | exact require_imp (h.hasCapability _) | exact id

theorem checkFunctionPointer (h : m.PermitsMore m') (hok : m.checkFunctionPointer i = .ok ()) :
    m'.checkFunctionPointer i = .ok () := by
  rw [Module.checkFunctionPointer, then_eq_ok_iff] at hok ⊢
  obtain ⟨hgate, htarget⟩ := hok
  refine ⟨require_imp (h.hasCapability _) hgate, ?_⟩
  simpa only [Module.pointee?, Module.opcodeOf?, h.definition?] using htarget

/-- With more capabilities fewer types have a component that lacks one. -/
theorem containsLimitedNumeric (h : m.PermitsMore m') {depth : Nat} {t : Id}
    (hlimited : m'.containsLimitedNumeric depth t = true) :
    m.containsLimitedNumeric depth t = true := by
  have hlacks (c : Capability) (hc : m'.hasCapability c = false) : m.hasCapability c = false := by
    by_contra hhas
    rw [h.hasCapability c (eq_true_of_ne_false hhas)] at hc
    contradiction
  have hcontains := (h.sameDefinitions .standard).containsNumeric depth
  simp only [Module.containsLimitedNumeric, Bool.or_eq_true, Bool.and_eq_true, Bool.not_eq_true',
    hcontains] at hlimited ⊢
  exact hlimited.imp (Or.imp (And.imp_left (hlacks _)) (And.imp_left (hlacks _)))
    (And.imp_left (hlacks _))

theorem checkNarrowNumeric (h : m.PermitsMore m') (hc : config.Relaxes config')
    (hok : m.checkNarrowNumeric config i = .ok ()) : m'.checkNarrowNumeric config' i = .ok () := by
  rw [Module.checkNarrowNumeric] at hok ⊢
  cases ht : i.typeId with
  | none => rfl
  | some t =>
    rw [ht] at hok
    refine require_imp (fun hpasses => ?_) hok
    -- the rule refuses, so what the second module refuses is traced back to the first one
    rw [Bool.not_eq_true', ← Bool.not_eq_true] at hpasses ⊢
    intro hfails
    simp only [Bool.and_eq_true, ← (h.sameDefinitions config).isPointerType,
      hc.maxTypeDepth] at hfails
    obtain ⟨⟨hshader, hpointer⟩, hlimited⟩ := hfails
    apply hpasses
    rw [h.shader hshader, hpointer, h.containsLimitedNumeric hlimited]
    rfl

theorem checkConstantKind (h : m.PermitsMore m') (hc : config.Relaxes config') :
    m.checkConstantKind config i = .ok () → m'.checkConstantKind config' i = .ok () := by
  have hsame := h.sameDefinitions config
  unfold Module.checkConstantKind
  split
  -- these two kinds ask for permissions, and the others look at definitions only
  case h_10 =>
    rw [Module.checkSpecConstantOp, Module.checkSpecConstantOp]
    cases i.embeddedOpcode with
    | none => exact id
    | some op => exact h.checkOperation
  case h_11 => exact h.checkFunctionPointer
  all_goals simp only [checkBoolean, isBoolType, hsame.checkComposite (.refl i), checkSampler,
    checkNull, hc.maxTypeDepth, hsame.isNullableId, checkSpecConstant, hsame.opcodeOf?, imp_self]

theorem checkConstant (h : m.PermitsMore m') (hc : config.Relaxes config')
    (hok : m.checkConstant config i = .ok ()) : m'.checkConstant config' i = .ok () := by
  rw [Module.checkConstant, then_eq_ok_iff] at hok ⊢
  obtain ⟨hkind, hnarrow⟩ := hok
  refine ⟨h.checkConstantKind hc hkind, ?_⟩
  split
  · rename_i hconstant
    rw [if_pos hconstant] at hnarrow
    exact h.checkNarrowNumeric hc hnarrow
  · rfl

/-! ### Functions, calls and per-element operations -/

theorem mayUseFunction (h : m.PermitsMore m') {user : Instruction} :
    m.mayUseFunction user = true → m'.mayUseFunction user = true := by
  unfold Module.mayUseFunction
  split <;> first | exact id | exact h.hasCapability _

theorem checkFunction (h : m.PermitsMore m') (hok : m.checkFunction i = .ok ()) :
    m'.checkFunction i = .ok () := by
  rw [checkFunction_eq_ok_iff] at hok ⊢
  obtain ⟨hsignature, husers⟩ := hok
  rw [h.functionType?]
  refine ⟨hsignature, fun u hu user huser => ?_⟩
  rw [Module.instruction?, h.instructions] at huser
  exact h.mayUseFunction (husers u hu user huser)

theorem checkParameter (h : m.PermitsMore m') (i : Instruction) :
    m'.checkParameter i = m.checkParameter i := by
  simp only [Module.checkParameter, parameterSlot?, checkParameterOf, Module.instruction?,
    h.parameters, h.instructions, h.functionType?]

theorem checkStorage (h : m.PermitsMore m') {a : Id} {storage : Option StorageClass} :
    m.checkStorage a storage = .ok () → m'.checkStorage a storage = .ok () := by
  unfold Module.checkStorage
  split <;> first | exact id | exact require_imp h.variablePointers

theorem mayComputePointer (h : m.PermitsMore m') {storage : Option StorageClass} :
    m.mayComputePointer storage = true → m'.mayComputePointer storage = true := by
  unfold Module.mayComputePointer
  split <;> first | exact id | exact h.hasCapability _

theorem checkPointerArgument (h : m.PermitsMore m') (hc : config.Relaxes config') {parameter : Id}
    (hok : m.checkPointerArgument config i parameter = .ok ()) :
    m'.checkPointerArgument config' i parameter = .ok () := by
  rw [Module.checkPointerArgument, then_eq_ok_iff, ← (h.sameDefinitions config).storageClass?]
  rw [Module.checkPointerArgument, then_eq_ok_iff] at hok
  obtain ⟨hstorage, hdeclared⟩ := hok
  refine ⟨h.checkStorage hstorage, require_imp ?_ hdeclared⟩
  simp only [Bool.or_eq_true]
  exact Or.imp (Or.imp_right hc.beforeLegalization) h.mayComputePointer

theorem argumentFits (h : m.PermitsMore m') (hc : config.Relaxes config') {t : Id}
    {type : Instruction} {parameter : Id}
    (hfits : m.argumentFits config t type parameter = true) :
    m'.argumentFits config' t type parameter = true := by
  simp only [Module.argumentFits, Bool.or_eq_true, Bool.and_eq_true] at hfits ⊢
  rcases hfits with hsame | ⟨hbefore, hmatch⟩
  · exact Or.inl hsame
  · have hpointees : m.pointeesMatch config.maxTypeDepth type =
        m'.pointeesMatch config.maxTypeDepth type :=
      funext fun q => (h.sameDefinitions config).pointeesMatch hbefore _ (.refl type) (.refl q)
    rw [hpointees] at hmatch
    refine Or.inr ⟨hc.beforeLegalization hbefore, ?_⟩
    rwa [h.definition?, hc.maxTypeDepth]

theorem checkArgument (h : m.PermitsMore m') (hc : config.Relaxes config')
    {callee id parameter : Id} (hok : m.checkArgument config callee id parameter = .ok ()) :
    m'.checkArgument config' callee id parameter = .ok () := by
  rw [checkArgument_eq_ok_iff] at hok ⊢
  obtain ⟨a, type, ha, htype, hfits, hpointer⟩ := hok
  refine ⟨a, type, ?_, ?_, h.argumentFits hc hfits, fun haddressing hstrict hp => ?_⟩
  · rwa [h.definition?]
  · rwa [Module.typeDefinition?, h.definition?]
  · rw [h.addressing] at haddressing
    rw [← (h.sameDefinitions config).isPointerType] at hp
    have hstrict' : config.relaxLogicalPointer = false := by
      by_contra hrelaxed
      rw [hc.relaxLogicalPointer (eq_true_of_ne_false hrelaxed)] at hstrict
      contradiction
    exact h.checkPointerArgument hc (hpointer haddressing hstrict' hp)

theorem checkCall (h : m.PermitsMore m') (hc : config.Relaxes config')
    (hok : m.checkCall config i = .ok ()) : m'.checkCall config' i = .ok () := by
  rw [checkCall_eq_ok_iff] at hok ⊢
  obtain ⟨callee, type, hcallee, hdefined, hresult, htype, harguments⟩ := hok
  obtain ⟨hcount, hfit⟩ := (checkArguments_eq_ok_iff m config _ _ _).mp harguments
  refine ⟨callee, type, ?_, ?_, hresult, ?_, ?_⟩
  · rwa [function?, h.definition?]
  · rwa [h.definition?]
  · rwa [h.functionType?]
  · refine (checkArguments_eq_ok_iff m' config' _ _ _).mpr ⟨hcount, fun k id parameter hid hp => ?_⟩
    exact h.checkArgument hc (hfit k id parameter hid hp)

/-! ### Instructions and modules -/

theorem check (h : m.PermitsMore m') (hc : config.Relaxes config')
    (hok : m.check config i = .ok ()) : m'.check config' i = .ok () := by
  rw [Module.check] at hok ⊢
  cases hfamily : i.opcode.family with
  | other => rfl
  | constant =>
    simp only [hfamily] at hok
    cases hon : config'.checkConstants with
    | false => rfl
    | true =>
      rw [if_pos (hc.checkConstants hon)] at hok
      exact mapError_eq_ok_iff.mpr (h.checkConstant hc (mapError_eq_ok_iff.mp hok))
  | function =>
    simp only [hfamily] at hok
    cases hon : config'.checkFunctions with
    | false => rfl
    | true =>
      rw [if_pos (hc.checkFunctions hon)] at hok
      revert hok
      simp only [checkFunctionPass, ↓reduceIte]
      split
      case h_1 => exact h.checkFunction
      case h_2 => rw [h.checkParameter]; exact id
      case h_3 =>
        rw [mapError_eq_ok_iff, mapError_eq_ok_iff]
        exact h.checkCall hc
      case h_4 => rw [(h.sameDefinitions config).checkPerElement (.refl i)]; exact id
      case h_5 => exact id

theorem validate (h : m.PermitsMore m') (hc : config.Relaxes config')
    (hvalid : m.validate config = .ok ()) : m'.validate config' = .ok () := by
  rw [validate_eq_ok_iff] at hvalid ⊢
  intro i hi
  rw [h.instructions] at hi
  exact h.check hc (hvalid i hi)

end PermitsMore

/-- Relaxing the configuration rejects nothing that was accepted before, be it one instruction or
the module. -/
theorem accepted_of_relaxes {config config' : Config} (hc : config.Relaxes config') (m : Module)
    (names names' : NameResolver) :
    (∀ i, Engine.validateInstruction ⟨m, config, names⟩ i = .ok () →
      Engine.validateInstruction ⟨m, config', names'⟩ i = .ok ()) ∧
    (m.validate config = .ok () → m.validate config' = .ok ()) := by
  refine ⟨fun i hok => ?_, (PermitsMore.refl m).validate hc⟩
  rw [Engine.validateInstruction, mapError_eq_ok_iff] at hok ⊢
  exact (PermitsMore.refl m).check hc hok

def pointerCall (pointer : Instruction) : List Instruction :=
  [.ofOpcode .typeVoid [1], .ofOpcode .typeInt [2, 32, 0], .ofOpcode .typePointer [3, 7, 2],
    .ofOpcode .typeFunction [4, 1, 3], .ofOpcode .typeFunction [5, 1],
    .ofOpcode .function [1, 6, 0, 4], .ofOpcode .functionParameter [3, 7], .ofOpcode .label [8],
    .ofOpcode .returnVoid [], .ofOpcode .functionEnd [],
    .ofOpcode .function [1, 9, 0, 5], .ofOpcode .label [10], pointer,
    .ofOpcode .functionCall [1, 12, 6, 11], .ofOpcode .returnVoid [], .ofOpcode .functionEnd []]

theorem variablePassed_accepted_of_relaxes :
    ∃ m config, build .v1_6 .logical (pointerCall (.ofOpcode .var [3, 11, 7])) = .ok m ∧
      Config.standard.Relaxes config ∧ config.relaxLogicalPointer = true ∧
      config.beforeLegalization = true ∧ config.checkConstants = false ∧
      m.validate .standard = .ok () ∧ m.validate config = .ok () := by
  let m := assemble .v1_6 .logical (place (pointerCall (.ofOpcode .var [3, 11, 7])))
  let config : Config :=
    { relaxLogicalPointer := true, beforeLegalization := true, checkConstants := false }
  have hvalid : m.validate .standard = .ok () := rfl
  have hc : Config.standard.Relaxes config := by
    constructor <;> first | exact fun _ => rfl | rfl
  exact ⟨m, config, rfl, hc, rfl, rfl, rfl, hvalid,
    (accepted_of_relaxes hc m friendlyName friendlyName).2 hvalid⟩

/-- Under logical addressing an undefined pointer may be passed only when the rules are relaxed. -/
example :
    let m := assemble .v1_6 .logical (place (pointerCall (.ofOpcode .undef [3, 11])))
    (∃ v, m.validate .standard = .error v) ∧ m.validate .relaxed = .ok () ∧
      m.validate .legalizing = .ok () :=
  ⟨⟨_, rfl⟩, rfl, rfl⟩

end Module
end Spirv
