import Spirv.Proofs.Module.Accepted
import Spirv.Proofs.Type.Search

set_option autoImplicit false

/-!
# Constants with narrow components

Under `Shader` no constant, pointers apart, may have a component of a numeric type that needs a
capability which the module lacks. The rule finds each such component that it searches for, but
searching a type and deciding whether it has a null value go by different tables: a null tensor is
not searched.
-/
namespace Spirv

/-- Types whose element type, operand 1, a search enters. -/
def Instruction.hasSearchedElement (type : Instruction) : Bool :=
  match type.opcode with
  | .typeArray | .typeRuntimeArray | .typeVector | .typeMatrix | .typeImage | .typeSampledImage
  | .typeCooperativeMatrixNV | .typeCooperativeMatrixKHR | .typeCooperativeVectorNV => true
  | _ => false

/-- Numeric types that are narrow, with the capability that each of them needs. -/
inductive Instruction.Needs (type : Instruction) : Capability → Prop where
  | int16 (hop : type.opcode = .typeInt) (hwidth : type.operand 1 = some 16) : Needs type .int16
  | int8 (hop : type.opcode = .typeInt) (hwidth : type.operand 1 = some 8) : Needs type .int8
  | float16 (hop : type.opcode = .typeFloat) (hwidth : type.operand 1 = some 16) :
      Needs type .float16

theorem Instruction.mem_searched_iff {type : Instruction} {b : Id} :
    b ∈ type.searched false ↔
      type.hasSearchedElement = true ∧ type.operand 1 = some b ∨
        type.opcode = .typeStruct ∧ b ∈ type.operandsFrom 1 := by
  simp only [searched, hasSearchedElement]
  split <;> simp_all

namespace Module

/-- The second id is the element type of the first one, where it has one, or the type of one of its
members. -/
inductive Component (m : Module) (hasElement : Instruction → Bool) : Id → Id → Prop where
  | element {a b : Id} {type : Instruction} (hdef : m.definition? a = some type)
      (hop : hasElement type = true) (hb : type.operand 1 = some b) : Component m hasElement a b
  | member {a b : Id} {type : Instruction} (hdef : m.definition? a = some type)
      (hop : type.opcode = .typeStruct) (hb : b ∈ type.operandsFrom 1) : Component m hasElement a b

/-- A type has, at any depth, a numeric component that needs a capability the module lacks. -/
def ContainsLimited (m : Module) (hasElement : Instruction → Bool) (t : Id) : Prop :=
  ∃ u type c, Relation.ReflTransGen (m.Component hasElement) t u ∧ m.definition? u = some type ∧
    type.Needs c ∧ m.hasCapability c = false

def NamesPointer (m : Module) (t : Id) : Prop :=
  ∃ type, m.definition? t = some type ∧
    (type.opcode = .typePointer ∨ type.opcode = .typeUntypedPointerKHR)

variable {m : Module}

theorem isPointerType_iff {t : Id} : m.isPointerType t = true ↔ m.NamesPointer t := by
  have hpointer (op : Opcode) :
      op.isPointerType = true ↔ op = .typePointer ∨ op = .typeUntypedPointerKHR := by
    unfold Opcode.isPointerType
    split <;> simp_all
  simp only [isPointerType, opcodeOf?, Option.any_map, Option.any_eq_true, hpointer,
    NamesPointer]

/-! ### The search for narrow types -/

theorem searches_eq_component : m.Searches false = m.Component Instruction.hasSearchedElement := by
  funext a b
  refine propext ⟨fun ⟨type, hdef, hb⟩ => ?_, fun h => ?_⟩
  · obtain ⟨hop, hb⟩ | ⟨hop, hb⟩ := Instruction.mem_searched_iff.mp hb
    · exact .element hdef hop hb
    · exact .member hdef hop hb
  · cases h with
    | element hdef hop hb => exact ⟨_, hdef, Instruction.mem_searched_iff.mpr (.inl ⟨hop, hb⟩)⟩
    | member hdef hop hb => exact ⟨_, hdef, Instruction.mem_searched_iff.mpr (.inr ⟨hop, hb⟩)⟩

theorem containsNumeric_iff {depth : Nat} {t : Id}
    (henough : m.SearchedWithin false (depth + 1) [] t) (op : Opcode) (width : Word) :
    m.containsNumeric depth op width t = true ↔
      ∃ u type, Relation.ReflTransGen (m.Component Instruction.hasSearchedElement) t u ∧
        m.definition? u = some type ∧ type.opcode = op ∧ type.operand 1 = some width := by
  rw [containsNumeric, containsType_iff henough, Finds, searches_eq_component]
  simp only [Bool.and_eq_true, beq_iff_eq]

theorem containsLimitedNumeric_iff {depth : Nat} {t : Id}
    (henough : m.SearchedWithin false (depth + 1) [] t) :
    m.containsLimitedNumeric depth t = true ↔
      m.ContainsLimited Instruction.hasSearchedElement t := by
  simp only [containsLimitedNumeric, Bool.or_eq_true, Bool.and_eq_true, Bool.not_eq_true',
    containsNumeric_iff henough]
  constructor
  · rintro ((⟨hcap, u, type, hu, hdef, hop, hwidth⟩ | ⟨hcap, u, type, hu, hdef, hop, hwidth⟩) |
      ⟨hcap, u, type, hu, hdef, hop, hwidth⟩)
    · exact ⟨u, type, .int16, hu, hdef, .int16 hop hwidth, hcap⟩
    · exact ⟨u, type, .int8, hu, hdef, .int8 hop hwidth, hcap⟩
    · exact ⟨u, type, .float16, hu, hdef, .float16 hop hwidth, hcap⟩
  · rintro ⟨u, type, c, hu, hdef, hneeds, hcap⟩
    cases hneeds with
    | int16 hop hwidth => exact .inl (.inl ⟨hcap, u, type, hu, hdef, hop, hwidth⟩)
    | int8 hop hwidth => exact .inl (.inr ⟨hcap, u, type, hu, hdef, hop, hwidth⟩)
    | float16 hop hwidth => exact .inr ⟨hcap, u, type, hu, hdef, hop, hwidth⟩

/-- What the rule for narrow types refuses, when its search has levels enough. -/
theorem checkNarrowNumeric_eq_ok_iff {config : Config} {i : Instruction} {t : Id}
    (ht : i.typeId = some t) (henough : m.SearchedWithin false (config.maxTypeDepth + 1) [] t) :
    m.checkNarrowNumeric config i = .ok () ↔
      ¬ (m.hasCapability .shader = true ∧ ¬ m.NamesPointer t ∧
        m.ContainsLimited Instruction.hasSearchedElement t) := by
  rw [checkNarrowNumeric, ht]
  simp only [require_eq_ok_iff, Bool.not_eq_true', ← containsLimitedNumeric_iff henough,
    ← isPointerType_iff, ← Bool.not_eq_true, Bool.and_eq_true, and_assoc]

/-- A constant that passes the rule for its kind fails exactly when its type has a component that
needs a capability which the module lacks. -/
theorem checkConstant_fails_iff {config : Config} (hdepth : m.definitionCount ≤ config.maxTypeDepth)
    {i : Instruction} {t : Id} (hop : i.opcode.isConstant = true) (ht : i.typeId = some t)
    (hkind : m.checkConstantKind config i = .ok ()) :
    m.checkConstant config i ≠ .ok () ↔
      m.hasCapability .shader = true ∧ ¬ m.NamesPointer t ∧
        m.ContainsLimited Instruction.hasSearchedElement t := by
  have henough : m.SearchedWithin false (config.maxTypeDepth + 1) [] t := by
    apply searchedWithin_of_unvisitedCount
    rw [unvisitedCount_nil]
    omega
  rw [checkConstant, ne_eq, then_eq_ok_iff, if_pos hop, checkNarrowNumeric_eq_ok_iff ht henough,
    not_and, not_not]
  exact ⟨fun h => h hkind, fun h _ => h⟩

def cyclicHalves : List Instruction :=
  [.ofOpcode .capability [1], .ofOpcode .typeStruct [2, 2, 9, 3],
    .ofOpcode .typeRuntimeArray [3, 4], .ofOpcode .typeFloat [4, 16],
    .ofOpcode .constantCompositeReplicateEXT [2, 5, 6]]

theorem cyclicHalves_fails :
    ∃ m i, build .v1_6 .logical cyclicHalves = .ok m ∧ m.instructions[4]? = some i ∧
      m.definitionCount = 4 ∧ m.checkConstant { maxTypeDepth := 4 } i ≠ .ok () ∧
      m.hasCapability .shader = true ∧ ¬ m.NamesPointer 2 ∧
      m.ContainsLimited Instruction.hasSearchedElement 2 := by
  let m := assemble .v1_6 .logical (place cyclicHalves)
  have hfails : m.checkConstant { maxTypeDepth := 4 } m.instructions[4] =
      .error .narrowNumeric := rfl
  have hne : m.checkConstant { maxTypeDepth := 4 } m.instructions[4] ≠ .ok () := by simp [hfails]
  have hcount : m.definitionCount = 4 := rfl
  exact ⟨m, m.instructions[4], rfl, rfl, hcount, hne,
    (checkConstant_fails_iff hcount.le rfl rfl rfl).mp hne⟩

/-! ### Null constants -/

theorem searched_of_nullableWithin {n : Nat} {type : Instruction}
    (h : m.nullableWithin (n + 1) type = true) {b : Id} (hb : b ∈ type.searched false) :
    m.nestedWithin n b = true := by
  obtain ⟨hop, hb⟩ | ⟨hop, hb⟩ := Instruction.mem_searched_iff.mp hb
  · have hnull : type.opcode.isNullScalar = false ∧ type.opcode ≠ .typeStruct ∧
        type.opcode.isPointerType = false := by
      unfold Instruction.hasSearchedElement at hop
      split at hop <;> simp_all [Opcode.isNullScalar, Opcode.isPointerType]
    obtain ⟨e, he, hnested⟩ : ∃ e, type.operand 1 = some e ∧ m.nestedWithin n e = true := by
      have hcases := nullableWithin_succ_iff.mp h
      simp only [hnull, false_and, or_false, false_or, Bool.false_eq_true] at hcases
      exact hcases.2
    obtain rfl := Option.some.inj (hb.symm.trans he)
    exact hnested
  · have hcases := nullableWithin_succ_iff.mp h
    simp only [hop, Opcode.isNullScalar, Opcode.isPointerType, Instruction.hasNullableElement,
      false_and, or_false, false_or, true_and, Bool.false_eq_true] at hcases
    exact hcases b hb

/-- The levels within which a type has a null value are enough to search it. -/
theorem searchedWithin_of_nestedWithin {n : Nat} (visited : List Id) {t : Id}
    (h : m.nestedWithin n t = true) : m.SearchedWithin false n visited t := by
  induction n generalizing visited t with
  | zero =>
    obtain ⟨type, -, htype⟩ := (Option.any_eq_true _ _).mp h
    contradiction
  | succ n ih =>
    intro _ type hdef visited' _ b hb
    obtain ⟨type', hdef', htype⟩ := (Option.any_eq_true _ _).mp h
    obtain rfl := Option.some.inj (hdef.symm.trans hdef')
    exact ih visited' (searched_of_nullableWithin htype hb)

/-- The type of an accepted null constant has no component with a narrow type that the search goes
to. -/
theorem not_containsLimited_of_validate {config : Config} (hc : config.checkConstants = true)
    (h : m.validate config = .ok ()) (hshader : m.hasCapability .shader = true) {i : Instruction}
    (hi : i ∈ m.instructions) (hop : i.opcode = .constantNull) {t : Id} (ht : i.typeId = some t)
    (hpointer : ¬ m.NamesPointer t) :
    ¬ m.ContainsLimited Instruction.hasSearchedElement t := by
  have hcheck := checkConstant_of_validate hc h hi (by rw [hop]; rfl)
  rw [checkConstant, then_eq_ok_iff, if_pos (by rw [hop]; rfl)] at hcheck
  obtain ⟨hkind, hnarrow⟩ := hcheck
  rw [checkConstantKind, hop] at hkind
  have hnull : m.nestedWithin (config.maxTypeDepth + 1) t = true := by
    have hrequired := require_eq_ok_iff.mp hkind
    rwa [Instruction.typeIdOrZero, ht] at hrequired
  have hrule :=
    (checkNarrowNumeric_eq_ok_iff ht (searchedWithin_of_nestedWithin [] hnull)).mp hnarrow
  exact fun hlimited => hrule ⟨hshader, hpointer, hlimited⟩

theorem tensor_or_hasSearchedElement {type : Instruction} (h : type.hasNullableElement = true) :
    type.opcode = .typeTensorARM ∨ type.hasSearchedElement = true := by
  simp only [Instruction.hasNullableElement, Instruction.hasSearchedElement] at h ⊢
  split at h <;> simp_all

/-- The search goes the same way as the decision about null values, up to the first tensor. -/
theorem searched_or_tensor {t u : Id}
    (h : Relation.ReflTransGen (m.Component Instruction.hasNullableElement) t u) :
    Relation.ReflTransGen (m.Component Instruction.hasSearchedElement) t u ∨
      ∃ a type, Relation.ReflTransGen (m.Component Instruction.hasNullableElement) t a ∧
        m.definition? a = some type ∧ type.opcode = .typeTensorARM ∧
        Relation.ReflTransGen (m.Component Instruction.hasNullableElement) a u := by
  induction h with
  | refl => exact Or.inl .refl
  | tail hreach hstep ih =>
    obtain hsearched | ⟨a, type, ha, hdef, hop, hau⟩ := ih
    · cases hstep with
      | element hdef hop hb =>
        obtain htensor | helement := tensor_or_hasSearchedElement hop
        · exact Or.inr ⟨_, _, hreach, hdef, htensor, .single (.element hdef hop hb)⟩
        · exact Or.inl (hsearched.tail (.element hdef helement hb))
      | member hdef hop hb => exact Or.inl (hsearched.tail (.member hdef hop hb))
    · exact Or.inr ⟨a, type, ha, hdef, hop, hau.tail hstep⟩

/-- No null constant, pointers apart, has a component that needs a capability the module lacks,
among all the components that must have a null value themselves. -/
def NullsUnlimited (m : Module) : Prop :=
  ∀ i ∈ m.instructions, i.opcode = .constantNull → ∀ t, i.typeId = some t → ¬ m.NamesPointer t →
    ¬ m.ContainsLimited Instruction.hasNullableElement t

/-- In an accepted module a null constant hides such a component exactly when it hides it in a
tensor. -/
theorem nullsUnlimited_iff {config : Config} (hc : config.checkConstants = true)
    (h : m.validate config = .ok ()) (hshader : m.hasCapability .shader = true) :
    m.NullsUnlimited ↔
      ∀ i ∈ m.instructions, i.opcode = .constantNull → ∀ t, i.typeId = some t →
        ¬ m.NamesPointer t → ∀ a type,
          Relation.ReflTransGen (m.Component Instruction.hasNullableElement) t a →
            m.definition? a = some type → type.opcode = .typeTensorARM →
              ¬ m.ContainsLimited Instruction.hasNullableElement a := by
  constructor
  · rintro hall i hi hop t ht hpointer a type hta - - ⟨u, type', c, hau, hdef, hneeds, hcap⟩
    exact hall i hi hop t ht hpointer ⟨u, type', c, hta.trans hau, hdef, hneeds, hcap⟩
  · rintro hall i hi hop t ht hpointer ⟨u, type, c, htu, hdef, hneeds, hcap⟩
    obtain hsearched | ⟨a, type', hta, hdef', htensor, hau⟩ := searched_or_tensor htu
    · exact not_containsLimited_of_validate hc h hshader hi hop ht hpointer
        ⟨u, type, c, hsearched, hdef, hneeds, hcap⟩
    · exact hall i hi hop t ht hpointer a type' hta hdef' htensor
        ⟨u, type, c, hau, hdef, hneeds, hcap⟩

def halfBehindPointer : List Instruction :=
  [.ofOpcode .capability [1], .ofOpcode .capability [4433], .ofOpcode .typeFloat [1, 16],
    .ofOpcode .typeFloat [2, 32], .ofOpcode .typeVector [3, 2, 4],
    .ofOpcode .typePointer [4, 12, 1], .ofOpcode .typeStruct [5, 3, 4],
    .ofOpcode .constantNull [5, 6]]

theorem halfBehindPointer_nullsUnlimited :
    ∃ m, build .v1_6 .logical halfBehindPointer = .ok m ∧ m.validate .standard = .ok () ∧
      m.hasCapability .shader = true ∧ m.NullsUnlimited := by
  let m := assemble .v1_6 .logical (place halfBehindPointer)
  have hvalid : m.validate .standard = .ok () := rfl
  have htensor : ∀ type ∈ m.instructions, type.opcode ≠ .typeTensorARM := by decide
  refine ⟨m, rfl, hvalid, rfl, (nullsUnlimited_iff rfl hvalid rfl).mpr ?_⟩
  intro _ _ _ _ _ _ a type _ hdef hop
  exact absurd hop (htensor type (List.mem_of_find?_eq_some hdef))

def nullTensor : List Instruction :=
  [.ofOpcode .capability [1], .ofOpcode .capability [4174], .ofOpcode .capability [4433],
    .ofOpcode .typeFloat [1, 16], .ofOpcode .typeInt [2, 32, 0], .ofOpcode .constant [2, 3, 1],
    .ofOpcode .typeArray [4, 2, 3], .ofOpcode .constantComposite [4, 5, 3],
    .ofOpcode .typeTensorARM [6, 1, 3, 5], .ofOpcode .constantNull [6, 7]]

theorem nullTensor_hides :
    ∃ m, build .v1_6 .logical nullTensor = .ok m ∧ m.validate .standard = .ok () ∧
      m.hasCapability .shader = true ∧ m.hasCapability .float16 = false ∧ ¬ m.NullsUnlimited := by
  let m := assemble .v1_6 .logical (place nullTensor)
  have hdef6 : m.definition? 6 = some m.instructions[8] := rfl
  have hdef1 : m.definition? 1 = some m.instructions[3] := rfl
  have hpointer : ¬ m.NamesPointer 6 := by
    rw [← isPointerType_iff, Bool.not_eq_true]
    rfl
  have hhalf : m.ContainsLimited Instruction.hasNullableElement 6 :=
    ⟨1, _, .float16, .single (.element hdef6 rfl rfl), hdef1, .float16 rfl rfl, rfl⟩
  exact ⟨m, rfl, rfl, rfl, rfl, fun hall =>
    hall m.instructions[9] (List.getElem_mem _) rfl 6 rfl hpointer hhalf⟩

end Module
end Spirv
