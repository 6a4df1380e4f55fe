import Spirv.Proofs.Composite.Leaves

set_option autoImplicit false

/-!
# The length of array constants

The length of an array type is an integer constant of any width, and its value is known whatever
that width is. The rule for array constants reads it as a 32-bit integer: it counts the constituents
against the low word of a length of a 32-bit type, and against no length of another type.
-/
namespace Spirv.Module

variable {m : Module}

def isOfInt32Type (m : Module) (id : Id) : Bool :=
  ((m.definition? id).bind Instruction.typeId).any m.isInt32Type

theorem definition?_of_uint64Value? {id : Id} {n : Nat} (h : m.uint64Value? id = some n) :
    ∃ i, m.definition? id = some i := by
  rw [← Option.isSome_iff_exists]
  by_contra hnone
  rw [uint64Value?, Option.not_isSome_iff_eq_none.mp hnone] at h
  contradiction

theorem int32Value_of_otherType {id : Id} (h : m.isOfInt32Type id = false) :
    m.int32Value id = .otherType := by
  rw [int32Value]
  cases hdef : m.definition? id with
  | none => rfl
  | some i =>
    rw [isOfInt32Type, hdef, Option.bind_some] at h
    simp only [h, Bool.not_false, ↓reduceIte]

/-- A known integer of a 32-bit type is known as such, but only by its low word. -/
theorem int32Value_of_uint64Value? {id : Id} {n : Nat} (hvalue : m.uint64Value? id = some n)
    (htype : m.isOfInt32Type id = true) :
    ∃ low, m.int32Value id = .known low ∧ low.toNat = n % UInt32.size := by
  obtain ⟨i, hdef⟩ := definition?_of_uint64Value? hvalue
  rw [isOfInt32Type, hdef, Option.bind_some] at htype
  simp only [uint64Value?, hdef] at hvalue
  split at hvalue
  · contradiction
  split at hvalue
  case h_1 hop =>
    obtain rfl := Option.some.inj hvalue
    refine ⟨0, ?_, rfl⟩
    simp only [int32Value, hdef, htype, hop]
    rfl
  case h_2 hop =>
    obtain ⟨low, hlow, rfl⟩ := Option.map_eq_some_iff.mp hvalue
    refine ⟨low, ?_, ?_⟩
    · simp only [int32Value, hdef, htype, hop, hlow]
      rfl
    · rw [Nat.add_mul_mod_self_right, Nat.mod_eq_of_lt low.toNat_lt_size]
  · contradiction

/-- A composite constant of an array type whose length is a known integer. -/
structure IsArrayOf (m : Module) (i type : Instruction) (length : Id) (n : Nat) : Prop where
  opcode : i.opcode = .constantComposite ∨ i.opcode = .specConstantComposite
  type_eq : m.typeDefinition? i = some type
  array : type.opcode = .typeArray
  length_eq : type.operand 2 = some length
  value : m.uint64Value? length = some n

/-- What a length that is known asks of the number of constituents. -/
theorem IsArrayOf.count_iff {i type : Instruction} {length : Id} {n : Nat}
    (h : m.IsArrayOf i type length n) (size : Nat) :
    (∀ count, m.int32Value length = .known count → count.toNat = size) ↔
      (m.isOfInt32Type length = true → size = n % UInt32.size) := by
  cases hwidth : m.isOfInt32Type length with
  | false => simp [int32Value_of_otherType hwidth]
  | true =>
    obtain ⟨low, hlow, hmod⟩ := int32Value_of_uint64Value? h.value hwidth
    simp only [hlow, Int32Value.known.injEq, forall_eq', forall_const, hmod]
    exact eq_comm

/-- The constituents have the element type, and their number is the low word of a length of a 32-bit
type. A length of another type is not compared. -/
theorem IsArrayOf.checkComposite_iff {i type : Instruction} {length : Id} {n : Nat}
    (h : m.IsArrayOf i type length n) (hm : m.Indexed) :
    m.checkComposite i = .ok () ↔
      (m.isOfInt32Type length = true → (i.operandsFrom 2).length = n % UInt32.size) ∧
        ∃ element d, type.operand 1 = some element ∧ m.definition? element = some d ∧
          ∀ c ∈ i.operandsFrom 2, ∃ d', m.HasConstantType c element d' := by
  obtain ⟨l, hl⟩ := definition?_of_uint64Value? h.value
  have hcomposite : type.opcode.isCompositeType = true := by rw [h.array]; rfl
  have hstruct : type.opcode ≠ .typeStruct := by rw [h.array]; decide
  have hmatrix : type.opcode ≠ .typeMatrix := by rw [h.array]; decide
  rw [checkComposite_of_isCompositeType hm h.type_eq hcomposite, mapError_eq_ok_iff]
  simp only [checkConstituents, h.array]
  rw [(checkArray_verdict hm h.array _).eq_ok_iff, ← h.count_iff]
  simp only [ShapeFits, h.array, constituentFits_iff hstruct hmatrix]
  constructor
  · rintro ⟨⟨element, d, helement, hd, length', -, hlength, -, hcount⟩, hfits⟩
    obtain rfl : length = length' := Option.some.inj (h.length_eq.symm.trans hlength)
    refine ⟨hcount, element, d, helement, hd, fun c hc => ?_⟩
    obtain ⟨k, hk⟩ := List.mem_iff_getElem?.mp hc
    exact (exists_hasConstantType_iff m c element).mpr (helement ▸ hfits k c hk)
  · rintro ⟨hcount, element, d, helement, hd, hall⟩
    refine ⟨⟨element, d, helement, hd, length, l, h.length_eq, hl, hcount⟩, fun k c hk => ?_⟩
    rw [helement]
    exact (exists_hasConstantType_iff m c element).mp (hall c (List.mem_of_getElem? hk))

/-- Each array constant has as many constituents as the length of its type says, where that is a
known integer. -/
def LengthsMatch (m : Module) : Prop :=
  ∀ i ∈ m.instructions, ∀ type length n, m.IsArrayOf i type length n →
    (i.operandsFrom 2).length = n

/-- In an accepted module the lengths of array constants match exactly if the ones of a 32-bit type
have no high word and the ones of another type match, which no rule asks for. -/
theorem lengthsMatch_iff {v : Version} {addressing : AddressingModel} {is : List Instruction}
    (hbuild : build v addressing is = .ok m) {config : Config} (hc : config.checkConstants = true)
    (h : m.validate config = .ok ()) :
    m.LengthsMatch ↔ ∀ i ∈ m.instructions, ∀ type length n, m.IsArrayOf i type length n →
      (m.isOfInt32Type length = true → n < UInt32.size) ∧
        (m.isOfInt32Type length = false → (i.operandsFrom 2).length = n) := by
  refine forall₂_congr fun i hi => forall₄_congr fun type length n harray => ?_
  have hrule := checkComposite_of_validate hc h hi harray.opcode
  have hcount := ((harray.checkComposite_iff (indexed_of_build hbuild)).mp hrule).1
  cases hwidth : m.isOfInt32Type length with
  | false => simp
  | true =>
    have hsize : 0 < UInt32.size := by decide
    simp only [hcount hwidth, forall_const, reduceCtorEq, IsEmpty.forall_iff, and_true]
    exact ⟨fun hn => hn ▸ Nat.mod_lt n hsize, Nat.mod_eq_of_lt⟩

def sizedArray (width : Word) (value constituents : List Word) : List Instruction :=
  [.ofOpcode .capability [11], .ofOpcode .typeInt [1, width, 0], .ofOpcode .typeFloat [2, 32],
    .ofOpcode .constant ([1, 3] ++ value), .ofOpcode .typeArray [4, 2, 3],
    .ofOpcode .constant [2, 5, 0], .ofOpcode .constantComposite ([4, 6] ++ constituents)]

theorem pair_lengthsMatch :
    ∃ m, build .v1_6 .logical (sizedArray 32 [2] [5, 5]) = .ok m ∧ m.validate .standard = .ok () ∧
      m.LengthsMatch := by
  let m := assemble .v1_6 .logical (place (sizedArray 32 [2] [5, 5]))
  have hbuild : build .v1_6 .logical (sizedArray 32 [2] [5, 5]) = .ok m := rfl
  have hvalid : m.validate .standard = .ok () := rfl
  have hone : ∀ i ∈ m.instructions,
      i.opcode = .constantComposite ∨ i.opcode = .specConstantComposite →
      i = m.instructions[6] := by
    decide
  refine ⟨m, hbuild, hvalid, (lengthsMatch_iff hbuild rfl hvalid).mpr ?_⟩
  intro i hi type length n h
  obtain rfl := hone i hi h.opcode
  obtain rfl : m.instructions[4] = type := Option.some.inj h.type_eq
  obtain rfl : 3 = length := Option.some.inj h.length_eq
  obtain rfl : 2 = n := Option.some.inj h.value
  exact ⟨fun _ => by decide, fun _ => rfl⟩

/-- Three constituents of an array whose length is 2, as a 64-bit integer. -/
theorem wideLength_mismatch :
    ∃ m, build .v1_6 .logical (sizedArray 64 [2, 0] [5, 5, 5]) = .ok m ∧
      m.validate .standard = .ok () ∧ ¬ m.LengthsMatch := by
  let m := assemble .v1_6 .logical (place (sizedArray 64 [2, 0] [5, 5, 5]))
  refine ⟨m, rfl, rfl, fun hall => ?_⟩
  have harray : m.IsArrayOf m.instructions[6] m.instructions[4] 3 2 :=
    ⟨Or.inl rfl, rfl, rfl, rfl, rfl⟩
  have hcount : 3 = 2 := hall m.instructions[6] (List.getElem_mem _) _ _ _ harray
  contradiction

end Spirv.Module
