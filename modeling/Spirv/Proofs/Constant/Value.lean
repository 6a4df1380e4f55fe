import Spirv.Proofs.Composite.Length

set_option autoImplicit false

/-!
# The known values of integer constants

A constant is read as a 32-bit integer or as an integer of up to two words. Both readings know the
value of a plain constant of one word and of a null constant. The first one takes operand 2 of any
other plain constant for its value as well, and one kind of them may have an integer type: the
composite that repeats a single constituent, whose operand 2 is the id of that constituent.
-/
namespace Spirv.Module

variable {m : Module}

def IsInteger (m : Module) (id : Id) (width : Word) : Prop :=
  ∃ i type, m.definition? id = some i ∧ m.typeDefinition? i = some type ∧
    type.opcode = .typeInt ∧ type.operand 1 = some width

theorem isInt32Type_iff {t : Id} :
    m.isInt32Type t = true ↔
      ∃ type, m.definition? t = some type ∧ type.opcode = .typeInt ∧ type.operand 1 = some 32 := by
  cases hdef : m.definition? t with
  | none => simp [isInt32Type, isIntType, opcodeOf?, hdef]
  | some type =>
    by_cases hop : type.opcode = .typeInt
    · -- an integer type is its own component type
      have hcomponent : m.componentType? t = some t := by
        simp only [componentType?, componentWithin, hdef, hop]
      have hwidth : m.bitWidth t = type.operandOrZero 1 := by
        simp only [bitWidth, hcomponent, Option.bind_some, hdef, hop]
      cases hoperand : type.operand 1 <;>
        simp [isInt32Type, isIntType, opcodeOf?, hdef, hop, hwidth, Instruction.operandOrZero,
          hoperand]
    · simp [isInt32Type, isIntType, opcodeOf?, hdef, hop]

theorem isOfInt32Type_iff {id : Id} : m.isOfInt32Type id = true ↔ m.IsInteger id 32 := by
  simp only [isOfInt32Type, Option.any_eq_true, isInt32Type_iff, IsInteger, typeDefinition?,
    Option.bind_eq_some_iff]
  constructor
  · rintro ⟨t, ⟨i, hi, ht⟩, type, htype, hop, hwidth⟩
    exact ⟨i, type, hi, ⟨t, ht, htype⟩, hop, hwidth⟩
  · rintro ⟨i, type, hi, ⟨t, ht, htype⟩, hop, hwidth⟩
    exact ⟨t, ⟨i, hi, ht⟩, type, htype, hop, hwidth⟩

/-- The plain constants of an integer type that pass the rule for their kind. -/
theorem opcode_of_integer (hm : m.Indexed) {config : Config} {i type : Instruction}
    (htype : m.typeDefinition? i = some type) (hop : type.opcode = .typeInt)
    (hplain : i.opcode.isPlainConstant = true) (hkind : m.checkConstantKind config i = .ok ()) :
    i.opcode = .constant ∨ i.opcode = .constantNull ∨ i.opcode = .constantCompositeReplicateEXT := by
  have hdef : m.definition? i.typeIdOrZero = some type := (hm.definition?_typeIdOrZero i).trans htype
  have hopcode : m.opcodeOf? i.typeIdOrZero = some .typeInt := by
    rw [opcodeOf?, hdef, Option.map_some, hop]
  have hboolean : m.checkBoolean i ≠ .ok () := by
    simp [checkBoolean, isBoolType, hopcode, require_eq_ok_iff]
  have hcomposite : m.checkComposite i ≠ .ok () :=
    checkComposite_ne_ok_of_isScalarType hm htype (by rw [hop]; rfl)
  have hsampler : m.checkSampler i ≠ .ok () := by
    simp [checkSampler, hopcode, require_eq_ok_iff]
  have hpointee : m.pointee? i.typeIdOrZero = none := by
    rw [pointee?, hdef, Option.filter_some, hop]
    rfl
  have hpointer : m.checkFunctionPointer i ≠ .ok () := by
    simp [checkFunctionPointer, then_eq_ok_iff, hpointee]
  unfold Opcode.isPlainConstant at hplain
  split at hplain
  case h_9 => contradiction
  all_goals rename_i hconstant; simp only [checkConstantKind, hconstant] at hkind
  · exact absurd hkind hboolean
  · exact absurd hkind hboolean
  · exact Or.inl hconstant
  · exact absurd hkind hcomposite
  · exact absurd hkind hsampler
  · exact Or.inr (Or.inl hconstant)
  · exact Or.inr (Or.inr hconstant)
  · exact absurd hkind hpointer

/-- What is known of an id as a 32-bit integer is known of it as a longer one, and conversely. -/
structure ValuesAgreeAt (m : Module) (id : Id) : Prop where
  narrow : m.IsInteger id 32 → ∀ n, m.uint64Value? id = some n →
    ∃ value, m.int32Value id = .known value ∧ value.toNat = n
  wide : ∀ value, m.int32Value id = .known value → m.uint64Value? id = some value.toNat

/-- The two readings of an id agree, constants of more than one word apart. -/
def ValuesAgree (m : Module) : Prop :=
  ∀ id, (∀ i, m.definition? id = some i → i.opcode = .constant → (i.operandsFrom 2).length ≤ 1) →
    m.ValuesAgreeAt id

/-- What the first reading takes for a known value. -/
theorem int32Value_eq_known_iff {id : Id} {value : Word} :
    m.int32Value id = .known value ↔
      m.IsInteger id 32 ∧ ∃ i, m.definition? id = some i ∧ i.opcode.isPlainConstant = true ∧
        (if i.opcode = .constantNull then some 0 else i.operand 2) = some value := by
  rw [← isOfInt32Type_iff, isOfInt32Type, int32Value]
  cases hdef : m.definition? id with
  | none => simp
  | some i =>
    simp only [Option.bind_some, Option.some.injEq, exists_eq_left']
    cases htype : i.typeId.any m.isInt32Type with
    | false => simp
    | true =>
      cases hplain : i.opcode.isPlainConstant with
      | false => simp [Opcode.isConstant, hplain]
      | true =>
        have hspec : i.opcode.isSpecConstant = false := by
          unfold Opcode.isPlainConstant at hplain
          split at hplain <;> simp_all [Opcode.isSpecConstant]
        have hknown : (!i.opcode.isConstant || i.opcode.isSpecConstant) = false := by
          rw [Opcode.isConstant, hplain, hspec]
          rfl
        simp only [hknown, Bool.not_true, Bool.false_eq_true, ↓reduceIte, true_and, beq_iff_eq]
        split
        · simp
        · cases i.operand 2 <;> simp

theorem IsInteger.exists_type {id : Id} {width : Word} {i : Instruction}
    (h : m.IsInteger id width) (hdef : m.definition? id = some i) :
    ∃ type, m.typeDefinition? i = some type ∧ type.opcode = .typeInt ∧
      type.operand 1 = some width := by
  obtain ⟨j, type, hj, htype⟩ := h
  obtain rfl := Option.some.inj (hdef.symm.trans hj)
  exact ⟨type, htype⟩

theorem IsInteger.any_isIntType {id : Id} {width : Word} {i : Instruction}
    (h : m.IsInteger id width) (hdef : m.definition? id = some i) :
    i.typeId.any m.isIntType = true := by
  obtain ⟨type, htype, hop, -⟩ := h.exists_type hdef
  obtain ⟨t, ht, htdef⟩ := Option.bind_eq_some_iff.mp htype
  simp [ht, isIntType, opcodeOf?, htdef, hop]

theorem operandOrZero_eq_zero {i : Instruction} (h : (i.operandsFrom 2).length ≤ 1) :
    i.operandOrZero 3 = 0 := by
  rw [Instruction.operandsFrom, List.length_drop] at h
  rw [Instruction.operandOrZero, Instruction.operand, List.getElem?_eq_none (by omega)]
  rfl

/-- A value of one word is below the number of words there are. -/
theorem lt_size_of_uint64Value? {id : Id} {n : Nat}
    (hone : ∀ i, m.definition? id = some i → i.opcode = .constant → (i.operandsFrom 2).length ≤ 1)
    (h : m.uint64Value? id = some n) : n < UInt32.size := by
  obtain ⟨i, hdef⟩ := definition?_of_uint64Value? h
  simp only [uint64Value?, hdef] at h
  split at h
  · contradiction
  split at h
  case h_1 =>
    obtain rfl := Option.some.inj h
    decide
  case h_2 hop =>
    obtain ⟨low, -, rfl⟩ := Option.map_eq_some_iff.mp h
    rw [operandOrZero_eq_zero (hone i hdef hop)]
    simpa using low.toNat_lt_size
  · contradiction

theorem uint64Value?_of_operand {id : Id} {i : Instruction} {value : Word}
    (hint : m.IsInteger id 32) (hdef : m.definition? id = some i)
    (hop : i.opcode = .constant ∨ i.opcode = .constantNull)
    (hone : i.opcode = .constant → (i.operandsFrom 2).length ≤ 1)
    (hvalue : (if i.opcode = .constantNull then some 0 else i.operand 2) = some value) :
    m.uint64Value? id = some value.toNat := by
  rw [uint64Value?, hdef]
  simp only [hint.any_isIntType hdef, Bool.not_true, Bool.false_eq_true, ↓reduceIte]
  rcases hop with hop | hop
  · simp only [hop, reduceCtorEq, ↓reduceIte] at hvalue
    simp [hop, hvalue, operandOrZero_eq_zero (hone hop)]
  · simp only [hop, ↓reduceIte, Option.some.injEq] at hvalue
    simp [hop, ← hvalue]

/-- The constituent that a composite repeats is a value to the first reading only. -/
theorem not_valuesAgreeAt_of_repeated {id : Id} {i : Instruction} {value : Word}
    (hint : m.IsInteger id 32) (hdef : m.definition? id = some i)
    (hop : i.opcode = .constantCompositeReplicateEXT) (hvalue : i.operand 2 = some value) :
    ¬ m.ValuesAgreeAt id := by
  intro hagree
  have hknown : m.int32Value id = .known value :=
    int32Value_eq_known_iff.mpr ⟨hint, i, hdef, by rw [hop]; rfl, by rw [hop]; exact hvalue⟩
  have hread := hagree.wide value hknown
  rw [uint64Value?, hdef] at hread
  simp [hop] at hread

/-- In an accepted module the two readings agree exactly if no composite that repeats a constituent
has a 32-bit integer type. -/
theorem valuesAgree_iff {v : Version} {addressing : AddressingModel} {is : List Instruction}
    (hbuild : build v addressing is = .ok m) {config : Config} (hc : config.checkConstants = true)
    (h : m.validate config = .ok ()) :
    m.ValuesAgree ↔ ∀ id i, m.definition? id = some i →
      i.opcode = .constantCompositeReplicateEXT → m.IsInteger id 32 → i.operand 2 = none := by
  constructor
  · intro hall id i hdef hop hint
    rw [Option.eq_none_iff_forall_ne_some]
    intro value hvalue
    refine not_valuesAgreeAt_of_repeated hint hdef hop hvalue (hall id fun j hj hconstant => ?_)
    obtain rfl := Option.some.inj (hdef.symm.trans hj)
    rw [hop] at hconstant
    contradiction
  · intro hall id hone
    constructor
    · intro hint n hn
      obtain ⟨low, hlow, hmod⟩ := int32Value_of_uint64Value? hn (isOfInt32Type_iff.mpr hint)
      exact ⟨low, hlow, hmod.trans (Nat.mod_eq_of_lt (lt_size_of_uint64Value? hone hn))⟩
    · intro value hvalue
      obtain ⟨hint, i, hdef, hplain, hoperand⟩ := int32Value_eq_known_iff.mp hvalue
      obtain ⟨type, htype, hop, -⟩ := hint.exists_type hdef
      have hconstant : i.opcode.isConstant = true := by
        rw [Opcode.isConstant, hplain, Bool.true_or]
      have hkind :=
        checkConstantKind_of_validate hc h (mem_of_definition? hdef).1 (if_pos hconstant)
      refine uint64Value?_of_operand hint hdef ?_ (hone i hdef) hoperand
      rcases opcode_of_integer (indexed_of_build hbuild) htype hop hplain hkind with
        hop | hnull | hrepeated
      · exact Or.inl hop
      · exact Or.inr hnull
      · simp [hrepeated, hall id i hdef hrepeated hint] at hoperand

def integers (last : Instruction) : List Instruction :=
  [.ofOpcode .typeInt [1, 32, 0], .ofOpcode .constant [1, 2, 7], .ofOpcode .constantNull [1, 3],
    .ofOpcode .specConstant [1, 4, 5], last]

theorem specialized_valuesAgree :
    ∃ m, build .v1_6 .logical (integers (.ofOpcode .specConstantOp [1, 5, 128, 2, 3])) = .ok m ∧
      m.validate .standard = .ok () ∧ m.ValuesAgree := by
  let m := assemble .v1_6 .logical (place (integers (.ofOpcode .specConstantOp [1, 5, 128, 2, 3])))
  have hbuild : build .v1_6 .logical (integers (.ofOpcode .specConstantOp [1, 5, 128, 2, 3])) =
      .ok m := rfl
  have hvalid : m.validate .standard = .ok () := rfl
  have hnone : ∀ i ∈ m.instructions, i.opcode ≠ .constantCompositeReplicateEXT := by decide
  refine ⟨m, hbuild, hvalid, (valuesAgree_iff hbuild rfl hvalid).mpr fun id i hdef hop => ?_⟩
  exact absurd hop (hnone i (mem_of_definition? hdef).1)

/-- The id of the repeated constituent, 2, is read as the value of the composite. -/
theorem repeated_not_valuesAgree :
    ∃ m, build .v1_6 .logical (integers (.ofOpcode .constantCompositeReplicateEXT [1, 5, 2])) =
        .ok m ∧ m.validate .standard = .ok () ∧ ¬ m.ValuesAgree := by
  let m := assemble .v1_6 .logical
    (place (integers (.ofOpcode .constantCompositeReplicateEXT [1, 5, 2])))
  have hint : m.IsInteger 5 32 := ⟨m.instructions[4], m.instructions[0], rfl, rfl, rfl, rfl⟩
  refine ⟨m, rfl, rfl, fun hall => ?_⟩
  refine not_valuesAgreeAt_of_repeated hint rfl rfl rfl (hall 5 fun i hi hop => ?_)
  obtain rfl : m.instructions[4] = i := Option.some.inj hi
  contradiction

end Spirv.Module
