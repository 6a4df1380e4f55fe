import Spirv.Proofs.Module.Indexed
import Spirv.Rule.PerElement

set_option autoImplicit false

/-!
# What the rules for functions require

For each rule about functions, parameters, calls and per-element operations: when it is passed.
-/
namespace Spirv.Module

theorem function?_eq_some_iff (m : Module) (id : Id) (f : Instruction) :
    m.function? id = some f ↔ m.definition? id = some f ∧ f.opcode = .function := by
  simp [function?]

theorem functionType?_eq_some_iff (m : Module) (f type : Instruction) :
    m.functionType? f = some type ↔
      ∃ id, f.operand 3 = some id ∧ m.definition? id = some type ∧ type.opcode = .typeFunction := by
  simp only [functionType?, Option.filter_eq_some_iff, Option.bind_eq_some_iff, beq_iff_eq]
  constructor
  · rintro ⟨⟨id, hid, htype⟩, hop⟩
    exact ⟨id, hid, htype, hop⟩
  · rintro ⟨id, hid, htype, hop⟩
    exact ⟨⟨id, hid, htype⟩, hop⟩

theorem checkSignature_eq_ok_iff (m : Module) (i : Instruction) :
    m.checkSignature i = .ok () ↔
      ∃ type, m.functionType? i = some type ∧ type.operandOrZero 1 = i.typeIdOrZero := by
  rw [checkSignature]
  cases m.functionType? i with
  | none => simp
  | some type => simp [require_eq_ok_iff]

theorem forbiddenUser?_eq_none_iff (m : Module) (i : Instruction) :
    m.forbiddenUser? i = none ↔
      ∀ u ∈ i.uses, ∀ user, m.instruction? u.user = some user → m.mayUseFunction user = true := by
  simp only [forbiddenUser?, List.find?_eq_none, List.mem_filterMap, Bool.not_eq_true,
    Bool.not_eq_false', forall_exists_index, and_imp]
  exact ⟨fun h u hu user huser => h user u hu huser, fun h user u hu huser => h u hu user huser⟩

/-- The instructions that the references to an id come from, one for each reference. -/
theorem filterMap_references {m : Module} {is : List Instruction}
    (his : ∀ i ∈ is, m.instruction? i.position = some i) (id : Id) :
    (((references is).filter (·.1 == id)).map (·.2)).filterMap (fun u => m.instruction? u.user) =
      is.flatMap fun i => (i.idOperands.filter (·.2 == id)).map fun _ => i := by
  induction is with
  | nil => rfl
  | cons i is ih =>
    obtain ⟨hi, his⟩ := List.forall_mem_cons.mp his
    have hcons : references (i :: is) =
        (i.idOperands.map fun o => (o.2, (⟨i.position, o.1⟩ : Use))) ++ references is := rfl
    have hown (operands : List (Nat × Id)) :
        ((((operands.map fun o => (o.2, (⟨i.position, o.1⟩ : Use))).filter (·.1 == id)).map
          (·.2)).filterMap fun u => m.instruction? u.user) =
          (operands.filter (·.2 == id)).map fun _ => i := by
      induction operands with
      | nil => rfl
      | cons operand operands ih =>
        rw [List.map_cons, List.filter_cons, List.filter_cons]
        cases operand.2 == id with
        | true => simp [hi, ih]
        | false => simpa using ih
    rw [hcons, List.filter_append, List.map_append, List.filterMap_append, hown, ih his,
      List.flatMap_cons]

theorem Indexed.forbiddenUser?_eq {m : Module} (hm : m.Indexed) {f : Instruction} {id : Id}
    (hf : f ∈ m.instructions) (hid : f.resultId = some id) :
    m.forbiddenUser? f =
      m.instructions.find? fun u => u.idOperands.any (·.2 == id) && !m.mayUseFunction u := by
  have hguard (i : Instruction) (operands : List (Nat × Id)) :
      ((operands.filter (·.2 == id)).map fun _ => i).find? (!m.mayUseFunction ·) =
        if operands.any (·.2 == id) && !m.mayUseFunction i then some i else none := by
    induction operands with
    | nil => rfl
    | cons operand operands ih =>
      rw [List.filter_cons, List.any_cons]
      cases operand.2 == id with
      | false => exact ih
      | true => cases hmay : m.mayUseFunction i <;> simp_all
  rw [forbiddenUser?, hm.uses f hf id hid,
    filterMap_references fun i hi => hm.instruction?_position hi, List.find?_flatMap,
    List.find?_eq_findSome?_guard]
  congr 1
  funext i
  exact hguard i i.idOperands

theorem checkFunction_eq_ok_iff (m : Module) (i : Instruction) :
    m.checkFunction i = .ok () ↔
      (∃ type, m.functionType? i = some type ∧ type.operandOrZero 1 = i.typeIdOrZero) ∧
      ∀ u ∈ i.uses, ∀ user, m.instruction? u.user = some user → m.mayUseFunction user = true := by
  rw [← checkSignature_eq_ok_iff, ← forbiddenUser?_eq_none_iff, checkFunction, then_eq_ok_iff,
    mapError_eq_ok_iff]
  cases m.forbiddenUser? i <;> simp

theorem checkParameterOf_eq_ok_iff (m : Module) (i : Instruction) (position index : Nat) :
    m.checkParameterOf i position index = .ok () ↔
      ∃ f type, m.instruction? position = some f ∧ m.functionType? f = some type ∧
        (type.operandsFrom 2)[index]? = some i.typeIdOrZero := by
  rw [checkParameterOf]
  cases m.instruction? position with
  | none => simp
  | some f =>
    cases htype : m.functionType? f with
    | none => simp [htype]
    | some type =>
      cases hexpected : (type.operandsFrom 2)[index]? with
      | none => simp [htype, hexpected]
      | some expected =>
        have hok : require (i.typeIdOrZero == expected)
            (FunctionFault.parameterType expected) = .ok () ↔
            expected = i.typeIdOrZero := by
          rw [require_eq_ok_iff, beq_iff_eq, eq_comm]
        simp [htype, hexpected, hok]

theorem checkArgument_eq_ok_iff (m : Module) (config : Config) (callee id parameter : Id) :
    m.checkArgument config callee id parameter = .ok () ↔
      ∃ a type, m.definition? id = some a ∧ m.typeDefinition? a = some type ∧
        m.argumentFits config a.typeIdOrZero type parameter = true ∧
        (m.addressing = .logical → config.relaxLogicalPointer = false →
          m.isPointerType parameter = true →
            m.checkPointerArgument config a parameter = .ok ()) := by
  rw [checkArgument]
  cases m.definition? id with
  | none => simp
  | some a =>
    cases htype : m.typeDefinition? a with
    | none => simp [htype]
    | some type =>
      simp [then_eq_ok_iff, require_eq_ok_iff, htype, and_assoc]

/-- Without legalization a parameter takes arguments of its own type only. -/
theorem checkArgument_typeId {m : Module} {config : Config}
    (hc : config.beforeLegalization = false) {callee id parameter : Id}
    (h : m.checkArgument config callee id parameter = .ok ()) :
    ∃ a, m.definition? id = some a ∧ a.typeId = some parameter := by
  obtain ⟨a, type, ha, htype, hfits, -⟩ := (checkArgument_eq_ok_iff m config _ _ _).mp h
  obtain ⟨t, ht, -⟩ := Option.bind_eq_some_iff.mp htype
  have heq : a.typeIdOrZero = parameter := by simpa [argumentFits, hc] using hfits
  refine ⟨a, ha, ?_⟩
  rw [← heq, Instruction.typeIdOrZero, ht, Option.getD_some]

theorem checkArguments_eq_ok_iff (m : Module) (config : Config) (callee : Id)
    (arguments parameters : List Id) :
    m.checkArguments config callee arguments parameters = .ok () ↔
      arguments.length = parameters.length ∧
      ∀ (k : Nat) (id parameter : Id), arguments[k]? = some id → parameters[k]? = some parameter →
        m.checkArgument config callee id parameter = .ok () := by
  simp only [checkArguments, then_eq_ok_iff, require_eq_ok_iff, requireEach_eq_ok_iff, beq_iff_eq,
    Prod.forall]
  refine and_congr_right fun _ => ⟨fun h k id p hid hp => ?_, fun h id p hmem => ?_⟩
  · have hk : (arguments.zip parameters)[k]? = some (id, p) :=
      List.getElem?_zip_eq_some.mpr ⟨hid, hp⟩
    exact h id p (List.mem_of_getElem? hk)
  · obtain ⟨k, hk⟩ := List.mem_iff_getElem?.mp hmem
    obtain ⟨hid, hp⟩ := List.getElem?_zip_eq_some.mp hk
    exact h k id p hid hp

theorem checkArguments_typeId {m : Module} {config : Config}
    (hc : config.beforeLegalization = false) {callee : Id} {arguments parameters : List Id}
    (h : m.checkArguments config callee arguments parameters = .ok ()) (k : Nat) (id : Id)
    (hid : arguments[k]? = some id) :
    ∃ a t, m.definition? id = some a ∧ a.typeId = some t ∧ parameters[k]? = some t := by
  obtain ⟨hcount, hall⟩ := (checkArguments_eq_ok_iff m config callee _ _).mp h
  obtain ⟨hk, -⟩ := List.getElem?_eq_some_iff.mp hid
  obtain ⟨t, ht⟩ : ∃ t, parameters[k]? = some t := by simp [← hcount, hk]
  obtain ⟨a, ha, hat⟩ := checkArgument_typeId hc (hall k id t hid ht)
  exact ⟨a, t, ha, hat, ht⟩

theorem checkCall_eq_ok_iff (m : Module) (config : Config) (i : Instruction) :
    m.checkCall config i = .ok () ↔
      ∃ callee type, m.function? (i.operandOrZero 2) = some callee ∧
        (m.definition? callee.typeIdOrZero).isSome ∧ callee.typeIdOrZero = i.typeIdOrZero ∧
        m.functionType? callee = some type ∧
        m.checkArguments config (i.operandOrZero 2) (i.operandsFrom 3) (type.operandsFrom 2) =
          .ok () := by
  simp only [checkCall]
  cases m.function? (i.operandOrZero 2) with
  | none => simp
  | some callee =>
    cases htype : m.functionType? callee with
    | none => simp [then_eq_ok_iff, htype]
    | some type => simp [then_eq_ok_iff, require_eq_ok_iff, htype, and_assoc]

theorem checkElementFunction_eq_ok_iff (m : Module) (id : Id) (f : Instruction) (component : Id) :
    m.checkElementFunction id f component = .ok () ↔
      ∃ type, m.functionType? f = some type ∧ type.operand 1 = some component ∧
        m.takesElement component (type.operandsFrom 2) = true := by
  rw [checkElementFunction]
  cases m.functionType? f with
  | none => simp
  | some type => simp [then_eq_ok_iff, require_eq_ok_iff]

theorem checkPerElement_eq_ok_iff (m : Module) (i : Instruction) :
    m.checkPerElement i = .ok () ↔
      ∃ f matrix type, m.function? (i.operandOrZero 3) = some f ∧
        m.definition? (i.operandOrZero 2) = some matrix ∧
        m.definition? matrix.typeIdOrZero = some type ∧
        type.opcode = .typeCooperativeMatrixKHR ∧ matrix.typeIdOrZero = i.typeIdOrZero ∧
        m.checkElementFunction (i.operandOrZero 3) f (type.operandOrZero 1) = .ok () := by
  simp only [checkPerElement]
  cases m.function? (i.operandOrZero 3) with
  | none => simp
  | some f =>
    cases m.definition? (i.operandOrZero 2) with
    | none => simp
    | some matrix =>
      cases htype : m.definition? matrix.typeIdOrZero with
      | none => simp [htype]
      | some type =>
        by_cases hop : type.opcode = .typeCooperativeMatrixKHR
        · simp [Option.filter_some, htype, hop, then_eq_ok_iff, require_eq_ok_iff]
        · simp [Option.filter_some, htype, hop]

end Spirv.Module
