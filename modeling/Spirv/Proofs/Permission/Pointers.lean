import Spirv.Proofs.Permission.Capability

set_option autoImplicit false

/-!
# Pointer arguments under logical addressing

Two checks look at a pointer argument: one at the storage class behind it and at the derived
permission for variable pointers, the other at the instruction that gives it and at the declared
capabilities. Together they ask one question, since that permission is there exactly if the
capability for variable pointers to storage buffers is.
-/
namespace Spirv

namespace Instruction

def IsDeclaration (i : Instruction) : Prop :=
  i.opcode = .var ∨ i.opcode = .untypedVariableKHR ∨ i.opcode = .functionParameter

theorem isMemoryDeclaration_iff (i : Instruction) :
    i.isMemoryDeclaration = true ↔ i.IsDeclaration := by
  unfold isMemoryDeclaration
  split <;> simp_all [IsDeclaration]

end Instruction

namespace Module

variable {v : Version} {addressing : AddressingModel} {is : List Instruction} {m : Module}
  {config : Config}

def MayPass (m : Module) (a : Instruction) : StorageClass → Prop
  | .uniformConstant => True
  | .function | .privateMemory | .atomicCounter => a.IsDeclaration
  | .workgroup => a.IsDeclaration ∨ m.hasCapability .variablePointers = true
  | .storageBuffer => m.hasCapability .variablePointersStorageBuffer = true
  | _ => False

/-- A call names a function, has its result type, and passes as many arguments as it takes, each of
them of the type of its parameter. -/
structure CallFits (m : Module) (call callee type : Instruction) : Prop where
  function_eq : m.function? (call.operandOrZero 2) = some callee
  result : callee.typeIdOrZero = call.typeIdOrZero
  result_defined : (m.definition? callee.typeIdOrZero).isSome
  functionType_eq : m.functionType? callee = some type
  count : (call.operandsFrom 3).length = (type.operandsFrom 2).length
  argument : ∀ (k : Nat) (id p : Id), (call.operandsFrom 3)[k]? = some id →
    (type.operandsFrom 2)[k]? = some p →
    ∃ a, m.definition? id = some a ∧ a.typeId = some p ∧ (m.definition? p).isSome

/-- Each pointer that a call passes points to a storage class that its argument may pass on. -/
def PassesPointers (m : Module) (call type : Instruction) : Prop :=
  ∀ (k : Nat) (id p : Id) (a : Instruction), (call.operandsFrom 3)[k]? = some id →
    (type.operandsFrom 2)[k]? = some p → m.definition? id = some a → m.isPointerType p = true →
    ∃ s, m.storageClass? p = some s ∧ m.MayPass a s

theorem hasCapability_of_implies (hbuild : build v addressing is = .ok m) {c d : Capability}
    (hcd : c.Implies d) (hc : m.hasCapability c = true) : m.hasCapability d = true := by
  obtain ⟨i, hi, declared, hdeclared, hreaches⟩ := (hasCapability_iff_of_build hbuild c).mp hc
  exact (hasCapability_iff_of_build hbuild d).mpr ⟨i, hi, declared, hdeclared, hreaches.tail hcd⟩

/-- Either capability for variable pointers grants the one for storage buffers. -/
theorem variablePointers_iff (hbuild : build v addressing is = .ok m) :
    m.features.variablePointers = true ↔
      m.hasCapability .variablePointersStorageBuffer = true := by
  have himplies : Capability.variablePointers.Implies .variablePointersStorageBuffer :=
    List.mem_singleton_self _
  rw [variablePointers_of_build hbuild, Bool.or_eq_true]
  constructor
  · rintro (hall | hbuffers)
    · exact hasCapability_of_implies hbuild himplies hall
    · exact hbuffers
  · exact Or.inr

theorem checkPointerArgument_eq_ok_iff (hbuild : build v addressing is = .ok m)
    (hstrict : config.beforeLegalization = false) (a : Instruction) (p : Id) :
    m.checkPointerArgument config a p = .ok () ↔
      ∃ s, m.storageClass? p = some s ∧ m.MayPass a s := by
  have hbuffers := variablePointers_iff hbuild
  have hdeclaration := a.isMemoryDeclaration_iff
  rw [checkPointerArgument, then_eq_ok_iff, require_eq_ok_iff, hstrict]
  cases m.storageClass? p with
  | none => simp [checkStorage]
  | some s =>
    cases s
    case storageBuffer =>
      -- what the first check asks for is what the second one accepts
      simp only [checkStorage, mayComputePointer, MayPass, require_eq_ok_iff, hbuffers,
        Bool.or_eq_true, Option.some.injEq, exists_eq_left', and_iff_left_iff_imp]
      exact Or.inr
    all_goals simp [checkStorage, mayComputePointer, MayPass, hdeclaration]

theorem checkArgument_of_fits (hbuild : build v addressing is = .ok m)
    (hlogical : m.addressing = .logical) (hrelax : config.relaxLogicalPointer = false)
    (hstrict : config.beforeLegalization = false) {callee id p : Id} {a : Instruction}
    (ha : m.definition? id = some a) (hp : a.typeId = some p) (hdefined : (m.definition? p).isSome) :
    m.checkArgument config callee id p = .ok () ↔
      (m.isPointerType p = true → ∃ s, m.storageClass? p = some s ∧ m.MayPass a s) := by
  obtain ⟨t, ht⟩ := Option.isSome_iff_exists.mp hdefined
  have htype : m.typeDefinition? a = some t := by rw [typeDefinition?, hp]; exact ht
  have hfits : m.argumentFits config a.typeIdOrZero t p = true := by
    simp [argumentFits, Instruction.typeIdOrZero, hp]
  rw [checkArgument_eq_ok_iff, ← checkPointerArgument_eq_ok_iff hbuild hstrict]
  constructor
  · rintro ⟨a', -, ha', -, -, hpointer⟩
    obtain rfl := Option.some.inj (ha.symm.trans ha')
    exact hpointer hlogical hrelax
  · exact fun hpointer => ⟨a, t, ha, htype, hfits, fun _ _ => hpointer⟩

theorem CallFits.checkCall_eq_ok_iff {call callee type : Instruction}
    (h : m.CallFits call callee type) (config : Config) :
    m.checkCall config call = .ok () ↔
      ∀ (k : Nat) (id p : Id), (call.operandsFrom 3)[k]? = some id →
        (type.operandsFrom 2)[k]? = some p →
        m.checkArgument config (call.operandOrZero 2) id p = .ok () := by
  rw [Module.checkCall_eq_ok_iff]
  constructor
  · rintro ⟨callee', type', hcallee, -, -, htype, harguments⟩
    obtain rfl := Option.some.inj (h.function_eq.symm.trans hcallee)
    obtain rfl := Option.some.inj (h.functionType_eq.symm.trans htype)
    exact ((checkArguments_eq_ok_iff m config _ _ _).mp harguments).2
  · intro hall
    exact ⟨callee, type, h.function_eq, h.result_defined, h.result, h.functionType_eq,
      (checkArguments_eq_ok_iff m config _ _ _).mpr ⟨h.count, hall⟩⟩

/-- Under logical addressing and without relaxations a call that fits is accepted exactly if it
passes on only such pointers as their arguments may pass. -/
theorem pointerArguments_iff (hbuild : build v addressing is = .ok m)
    (hlogical : m.addressing = .logical) (hrelax : config.relaxLogicalPointer = false)
    (hstrict : config.beforeLegalization = false) {call callee type : Instruction}
    (hop : call.opcode = .functionCall) (hfits : m.CallFits call callee type) :
    (m.checkFunctionPass config call = .ok () ↔ m.PassesPointers call type) ∧
      (config.checkFunctions = true →
        (m.check config call = .ok () ↔ m.PassesPointers call type)) := by
  have hpass : m.checkFunctionPass config call = .ok () ↔ m.PassesPointers call type := by
    rw [checkFunctionPass, hop]
    simp only
    rw [mapError_eq_ok_iff, hfits.checkCall_eq_ok_iff]
    constructor
    · intro hall k id p a hid hp ha
      obtain ⟨a', ha', hat, hdefined⟩ := hfits.argument k id p hid hp
      obtain rfl := Option.some.inj (ha.symm.trans ha')
      exact (checkArgument_of_fits hbuild hlogical hrelax hstrict ha hat hdefined).mp
        (hall k id p hid hp)
    · intro hall k id p hid hp
      obtain ⟨a, ha, hat, hdefined⟩ := hfits.argument k id p hid hp
      exact (checkArgument_of_fits hbuild hlogical hrelax hstrict ha hat hdefined).mpr
        (hall k id p a hid hp ha)
  refine ⟨hpass, fun hon => ?_⟩
  rwa [check_eq_checkFunctionPass hon (by rw [hop]; rfl)]

def bufferCall : List Instruction :=
  [.ofOpcode .typeVoid [1], .ofOpcode .typeInt [2, 32, 0], .ofOpcode .typePointer [3, 12, 2],
    .ofOpcode .typePointer [4, 4, 2], .ofOpcode .typeFunction [5, 1, 3, 4],
    .ofOpcode .typeFunction [6, 1], .ofOpcode .var [4, 7, 4],
    .ofOpcode .function [1, 8, 0, 5], .ofOpcode .functionParameter [3, 9],
    .ofOpcode .functionParameter [4, 10], .ofOpcode .functionEnd [],
    .ofOpcode .function [1, 11, 0, 6], .ofOpcode .undef [3, 12],
    .ofOpcode .functionCall [1, 13, 8, 12, 7], .ofOpcode .functionEnd []]

theorem bufferCall_passesPointers :
    let is := bufferCall ++ [.ofOpcode .capability [4441]]
    ∃ m call callee type, build .v1_6 .logical is = .ok m ∧ m.addressing = .logical ∧
      m.hasCapability .variablePointersStorageBuffer = true ∧
      m.hasCapability .variablePointers = false ∧ m.instruction? 13 = some call ∧
      call.opcode = .functionCall ∧ m.CallFits call callee type ∧
      m.checkFunctionPass .standard call = .ok () ∧ m.PassesPointers call type := by
  intro is
  let m := assemble .v1_6 .logical (place is)
  let call := m.instructions[13]
  let callee := m.instructions[7]
  let type := m.instructions[4]
  have hbuild : build .v1_6 .logical is = .ok m := rfl
  have hargument : ∀ (k : Nat) (id p : Id), (call.operandsFrom 3)[k]? = some id →
      (type.operandsFrom 2)[k]? = some p →
      ∃ a, m.definition? id = some a ∧ a.typeId = some p ∧ (m.definition? p).isSome := by
    intro k id p hid hp
    match k with
    | 0 =>
      obtain rfl := Option.some.inj hid
      obtain rfl := Option.some.inj hp
      exact ⟨m.instructions[12], rfl, rfl, rfl⟩
    | 1 =>
      obtain rfl := Option.some.inj hid
      obtain rfl := Option.some.inj hp
      exact ⟨m.instructions[6], rfl, rfl, rfl⟩
    | k + 2 => contradiction
  have hfits : m.CallFits call callee type := ⟨rfl, rfl, rfl, rfl, rfl, hargument⟩
  have haccepted : m.checkFunctionPass .standard call = .ok () := rfl
  have hpointers := (pointerArguments_iff hbuild rfl rfl rfl rfl hfits).1.mp haccepted
  exact ⟨m, call, callee, type, hbuild, rfl, rfl, rfl, rfl, rfl, hfits, haccepted, hpointers⟩

/-- Without a capability for variable pointers the storage buffer is refused before it is asked
whether its pointer is computed. -/
example :
    ((assemble .v1_6 .logical (place bufferCall)).validate .standard).mapError (·.fault) =
      .error (.function (.needsVariablePointers 12)) := rfl

end Module
end Spirv
