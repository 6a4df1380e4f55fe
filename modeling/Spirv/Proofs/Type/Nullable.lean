import Spirv.Proofs.Type.Levels
import Spirv.Type.Nullable

set_option autoImplicit false

/-!
# Types with a null value, by derivation

Which types have a null value is given by rules, and a type has one when the rules derive it in
finitely many steps. Deciding it to a depth finds exactly the derivations that are no deeper, and a
type with a derivation has one that is no deeper than there are definitions.
-/
namespace Spirv

def Opcode.isNullScalar : Opcode → Bool
  | .typeBool | .typeInt | .typeFloat | .typeEvent | .typeDeviceEvent | .typeReserveId
  | .typeQueue => true
  | _ => false

/-- Types that have a null value if their elements, which operand 1 gives the type of, have one. -/
def Instruction.hasNullableElement (type : Instruction) : Bool :=
  match type.opcode with
  | .typeArray | .typeMatrix | .typeVector | .typeCooperativeMatrixNV | .typeCooperativeMatrixKHR
  | .typeCooperativeVectorNV => true
  | .typeTensorARM => type.isShapedTensor
  | _ => false

inductive Module.Nullable (m : Module) : Id → Prop where
  | scalar {t : Id} {type : Instruction} (hdef : m.definition? t = some type)
      (hop : type.opcode.isNullScalar = true) : Nullable m t
  | element {t e : Id} {type : Instruction} (hdef : m.definition? t = some type)
      (hop : type.hasNullableElement = true) (he : type.operand 1 = some e)
      (h : Nullable m e) : Nullable m t
  | struct {t : Id} {type : Instruction} (hdef : m.definition? t = some type)
      (hop : type.opcode = .typeStruct) (h : ∀ e ∈ type.operandsFrom 1, Nullable m e) :
      Nullable m t
  | pointer {t : Id} {type : Instruction} (hdef : m.definition? t = some type)
      (hop : type.opcode.isPointerType = true)
      (hstorage : (type.operand 1).map UInt32.toNat ≠
        some StorageClass.physicalStorageBuffer.value) : Nullable m t

namespace Module

variable {m : Module}

def nestedWithin (m : Module) (n : Nat) (id : Id) : Bool :=
  (m.definition? id).any (m.nullableWithin n)

theorem nullableWithin_succ_iff {n : Nat} {type : Instruction} :
    m.nullableWithin (n + 1) type = true ↔
      type.opcode.isNullScalar = true ∨
      (type.hasNullableElement = true ∧
        ∃ e, type.operand 1 = some e ∧ m.nestedWithin n e = true) ∨
      (type.opcode = .typeStruct ∧ ∀ e ∈ type.operandsFrom 1, m.nestedWithin n e = true) ∨
      (type.opcode.isPointerType = true ∧ (type.operand 1).map UInt32.toNat ≠
        some StorageClass.physicalStorageBuffer.value) := by
  have hnested : (fun id => (m.definition? id).any (m.nullableWithin n)) = m.nestedWithin n := rfl
  simp only [nullableWithin, hnested, ← Option.any_eq_true]
  split <;>
    simp_all [Opcode.isNullScalar, Instruction.hasNullableElement, Opcode.isPointerType]

theorem nullableWithin_of_nested {n k : Nat}
    (h : ∀ id, m.nestedWithin n id = true → m.nestedWithin k id = true) {type : Instruction}
    (htype : m.nullableWithin (n + 1) type = true) : m.nullableWithin (k + 1) type = true := by
  rw [nullableWithin_succ_iff] at htype ⊢
  obtain hscalar | ⟨hop, e, he, hnested⟩ | ⟨hop, hmembers⟩ | hpointer := htype
  · exact Or.inl hscalar
  · exact Or.inr (Or.inl ⟨hop, e, he, h e hnested⟩)
  · exact Or.inr (Or.inr (Or.inl ⟨hop, fun e he => h e (hmembers e he)⟩))
  · exact Or.inr (Or.inr (Or.inr hpointer))

theorem nestedWithin_of_nullableWithin {n k : Nat}
    (h : ∀ type, m.nullableWithin n type = true → m.nullableWithin k type = true) {id : Id}
    (hid : m.nestedWithin n id = true) : m.nestedWithin k id = true := by
  obtain ⟨type, hdef, htype⟩ := (Option.any_eq_true _ _).mp hid
  exact (Option.any_eq_true _ _).mpr ⟨type, hdef, h type htype⟩

theorem nullableWithin_succ (n : Nat) {type : Instruction} (h : m.nullableWithin n type = true) :
    m.nullableWithin (n + 1) type = true := by
  induction n generalizing type with
  | zero => contradiction
  | succ n ih =>
    exact nullableWithin_of_nested (fun _ => nestedWithin_of_nullableWithin fun _ => ih) h

/-! ### Depth -/

theorem saturates_nullableWithin (m : Module) : Saturates m.definitions m.nullableWithin where
  succ n _ := nullableWithin_succ n
  stable n h type _ htype := by
    refine nullableWithin_of_nested (fun id hid => ?_) htype
    obtain ⟨inner, hdef, hinner⟩ := (Option.any_eq_true _ _).mp hid
    exact (Option.any_eq_true _ _).mpr ⟨inner, hdef, h inner (mem_definitions hdef) hinner⟩

theorem nestedWithin_mono {n k : Nat} (hnk : n ≤ k) {id : Id} (h : m.nestedWithin n id = true) :
    m.nestedWithin k id = true :=
  nestedWithin_of_nullableWithin (fun _ => m.saturates_nullableWithin.mono hnk) h

/-- No type needs more levels than there are definitions. -/
theorem nestedWithin_definitionCount {n : Nat} {id : Id} (h : m.nestedWithin n id = true) :
    m.nestedWithin m.definitionCount id = true := by
  obtain ⟨type, hdef, htype⟩ := (Option.any_eq_true _ _).mp h
  rw [← length_definitions]
  exact (Option.any_eq_true _ _).mpr
    ⟨type, hdef, m.saturates_nullableWithin.within_length (mem_definitions hdef) htype⟩

/-! ### Derivations -/

theorem nullable_of_nestedWithin {n : Nat} {t : Id} (h : m.nestedWithin n t = true) :
    m.Nullable t := by
  induction n generalizing t with
  | zero =>
    obtain ⟨type, -, htype⟩ := (Option.any_eq_true _ _).mp h
    contradiction
  | succ n ih =>
    obtain ⟨type, hdef, htype⟩ := (Option.any_eq_true _ _).mp h
    rw [nullableWithin_succ_iff] at htype
    obtain hop | ⟨hop, e, he, hnested⟩ | ⟨hop, hmembers⟩ | ⟨hop, hstorage⟩ := htype
    · exact .scalar hdef hop
    · exact .element hdef hop he (ih hnested)
    · exact .struct hdef hop fun e he => ih (hmembers e he)
    · exact .pointer hdef hop hstorage

theorem nestedWithin_of_nullable {t : Id} (h : m.Nullable t) :
    m.nestedWithin m.definitionCount t = true := by
  -- each rule needs one level more than its premises, and that level is not lost
  have hrule {t : Id} {type : Instruction} (hdef : m.definition? t = some type)
      (htype : m.nullableWithin (m.definitionCount + 1) type = true) :
      m.nestedWithin m.definitionCount t = true :=
    nestedWithin_definitionCount ((Option.any_eq_true _ _).mpr ⟨type, hdef, htype⟩)
  induction h with
  | scalar hdef hop => exact hrule hdef (nullableWithin_succ_iff.mpr (.inl hop))
  | element hdef hop he _ ih =>
    exact hrule hdef (nullableWithin_succ_iff.mpr (.inr (.inl ⟨hop, _, he, ih⟩)))
  | struct hdef hop _ ih =>
    exact hrule hdef (nullableWithin_succ_iff.mpr (.inr (.inr (.inl ⟨hop, ih⟩))))
  | pointer hdef hop hstorage =>
    exact hrule hdef (nullableWithin_succ_iff.mpr (.inr (.inr (.inr ⟨hop, hstorage⟩))))

/-- A depth of at least the number of definitions decides which types have a null value, and what
is found to have one at some depth is found so at any larger one. -/
theorem isNullableId_iff (m : Module) (t : Id) :
    (∀ depth, m.definitionCount ≤ depth → (m.isNullableId depth t = true ↔ m.Nullable t)) ∧
      ∀ depth depth', depth ≤ depth' →
        m.isNullableId depth t = true → m.isNullableId depth' t = true := by
  refine ⟨fun depth hdepth => ⟨nullable_of_nestedWithin, fun h => ?_⟩, fun depth depth' hle h => ?_⟩
  · exact nestedWithin_mono (by omega) (nestedWithin_of_nullable h)
  · exact nestedWithin_mono (by omega) h

def cyclicStructs : List Instruction :=
  [.ofOpcode .typeStruct [1, 1], .ofOpcode .typeStruct [2, 3, 4],
    .ofOpcode .typePointer [3, 7, 2], .ofOpcode .typeFloat [4, 32]]

theorem cyclicStructs_nullable :
    ∃ m, build .v1_6 .logical cyclicStructs = .ok m ∧ m.definitionCount = 4 ∧ ¬ m.Nullable 1 ∧
      m.Nullable 2 ∧ m.isNullableId 1 2 = true ∧ m.isNullableId 9 2 = true := by
  let m := assemble .v1_6 .logical (place cyclicStructs)
  have hcount : m.definitionCount = 4 := rfl
  have hshallow : m.isNullableId 1 2 = true := rfl
  have hself := (isNullableId_iff m 1).1 4 (Nat.le_of_eq hcount)
  have hpointing := isNullableId_iff m 2
  refine ⟨m, rfl, hcount, fun h => ?_, ?_, hshallow, hpointing.2 1 9 (by omega) hshallow⟩
  · exact absurd (hself.mpr h) (by decide)
  · exact (hpointing.1 4 (Nat.le_of_eq hcount)).mp rfl

end Module
end Spirv
