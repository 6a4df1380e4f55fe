import Spirv.Config
import Spirv.Constant.Value
import Spirv.Type.Match
import Spirv.Type.Nullable
import Spirv.Type.Search

set_option autoImplicit false

/-!
# Modules that agree on definitions

Two modules have the same definitions when each id has definitions of the same opcode and words in
both. Where the definitions stand is left open. What is known about the types and the values of ids
is then the same in both modules. The modules agree when they also grant the same permissions.
-/
namespace Spirv

structure Instruction.SameCode (i j : Instruction) : Prop where
  opcode : i.opcode = j.opcode
  words : i.words = j.words
  debugInfo : i.debugInfo = j.debugInfo
  nonSemantic : i.nonSemantic = j.nonSemantic

namespace Instruction.SameCode

variable {i j : Instruction}

theorem refl (i : Instruction) : i.SameCode i := ⟨rfl, rfl, rfl, rfl⟩

theorem symm (h : i.SameCode j) : j.SameCode i :=
  ⟨h.opcode.symm, h.words.symm, h.debugInfo.symm, h.nonSemantic.symm⟩

theorem operand (h : i.SameCode j) (k : Nat) : i.operand k = j.operand k := by
  simp only [Instruction.operand, h.words]

theorem operandOrZero (h : i.SameCode j) (k : Nat) : i.operandOrZero k = j.operandOrZero k := by
  simp only [Instruction.operandOrZero, h.operand]

theorem operandsFrom (h : i.SameCode j) (k : Nat) : i.operandsFrom k = j.operandsFrom k := by
  simp only [Instruction.operandsFrom, h.words]

theorem resultId (h : i.SameCode j) : i.resultId = j.resultId := by
  simp only [Instruction.resultId, h.opcode, funext h.operand]

theorem typeId (h : i.SameCode j) : i.typeId = j.typeId := by
  simp only [Instruction.typeId, h.opcode, h.operand]

theorem typeIdOrZero (h : i.SameCode j) : i.typeIdOrZero = j.typeIdOrZero := by
  simp only [Instruction.typeIdOrZero, h.typeId]

theorem isMemoryDeclaration (h : i.SameCode j) :
    i.isMemoryDeclaration = j.isMemoryDeclaration := by
  simp only [Instruction.isMemoryDeclaration, h.opcode]

theorem isShapedTensor (h : i.SameCode j) : i.isShapedTensor = j.isShapedTensor := by
  simp only [Instruction.isShapedTensor, h.opcode, h.words]

theorem embeddedOpcode (h : i.SameCode j) : i.embeddedOpcode = j.embeddedOpcode := by
  simp only [Instruction.embeddedOpcode, h.operand]

theorem idOperands (h : i.SameCode j) : i.idOperands = j.idOperands := by
  simp only [Instruction.idOperands, h.opcode, h.words]

theorem searched (h : i.SameCode j) (everywhere : Bool) :
    i.searched everywhere = j.searched everywhere := by
  simp only [Instruction.searched, h.opcode, h.operand, h.operandsFrom]

end Instruction.SameCode

abbrev SameFind : Option Instruction → Option Instruction → Prop :=
  Option.Rel Instruction.SameCode

namespace SameFind

variable {a b : Option Instruction}

theorem none_or_some (h : SameFind a b) :
    a = none ∧ b = none ∨ ∃ i j, a = some i ∧ b = some j ∧ i.SameCode j := by
  cases h with
  | none => exact Or.inl ⟨rfl, rfl⟩
  | some hij => exact Or.inr ⟨_, _, rfl, rfl, hij⟩

theorem isSome (h : SameFind a b) : a.isSome = b.isSome := by
  cases h <;> rfl

theorem map {α : Type} {f g : Instruction → α} (h : SameFind a b)
    (hf : ∀ i j : Instruction, i.SameCode j → f i = g j) : a.map f = b.map g := by
  cases h with
  | none => rfl
  | some hij => simp only [Option.map_some, hf _ _ hij]

theorem bind {α : Type} {f g : Instruction → Option α} (h : SameFind a b)
    (hf : ∀ i j : Instruction, i.SameCode j → f i = g j) : a.bind f = b.bind g := by
  cases h with
  | none => rfl
  | some hij => simp only [Option.bind_some, hf _ _ hij]

theorem any {p q : Instruction → Bool} (h : SameFind a b)
    (hp : ∀ i j : Instruction, i.SameCode j → p i = q j) : a.any p = b.any q := by
  cases h with
  | none => rfl
  | some hij => simp only [Option.any_some, hp _ _ hij]

theorem filter {p : Instruction → Bool} (h : SameFind a b)
    (hp : ∀ i j : Instruction, i.SameCode j → p i = p j) :
    SameFind (a.filter p) (b.filter p) := by
  cases h with
  | none => exact .none
  | some hij =>
    rw [Option.filter_some, Option.filter_some, hp _ _ hij]
    split
    · exact .some hij
    · exact .none

/-- Where at most one instruction is searched for, its place in the list does not matter. -/
theorem find? {is js : List Instruction} {p : Instruction → Bool}
    (his : ∀ i ∈ is, ∃ j ∈ js, i.SameCode j) (hjs : ∀ j ∈ js, ∃ i ∈ is, i.SameCode j)
    (hp : ∀ i j : Instruction, i.SameCode j → p i = p j)
    (hunique : ∀ i ∈ is, ∀ j ∈ is, p i = true → p j = true → i = j) :
    SameFind (is.find? p) (js.find? p) := by
  cases hi : is.find? p with
  | none =>
    have hnone : js.find? p = none := by
      rw [List.find?_eq_none] at hi ⊢
      intro j hj
      obtain ⟨i, hi', hij⟩ := hjs j hj
      rw [← hp i j hij]
      exact hi i hi'
    rw [hnone]
    exact .none
  | some i =>
    have hmem := List.mem_of_find?_eq_some hi
    have hpi := List.find?_some hi
    obtain ⟨j, hj⟩ : ∃ j, js.find? p = some j := by
      obtain ⟨j, hj, hij⟩ := his i hmem
      rw [← Option.isSome_iff_exists, List.find?_isSome]
      exact ⟨j, hj, (hp i j hij).symm.trans hpi⟩
    obtain ⟨k, hk, hkj⟩ := hjs j (List.mem_of_find?_eq_some hj)
    have hpk : p k = true := (hp k j hkj).trans (List.find?_some hj)
    obtain rfl := hunique i hmem k hk hpi hpk
    rw [hj]
    exact .some hkj

end SameFind

namespace Module

/-- Two modules have the same definitions. Decorations are read before legalization only. -/
structure SameDefinitions (config : Config) (m m' : Module) : Prop where
  definition? : ∀ id, SameFind (m.definition? id) (m'.definition? id)
  decorationsOf : config.beforeLegalization = true → ∀ id, m.decorationsOf id = m'.decorationsOf id

structure Agree (config : Config) (m m' : Module) : Prop extends SameDefinitions config m m' where
  hasCapability : ∀ c, m.hasCapability c = m'.hasCapability c
  features : m.features = m'.features
  addressing : m.addressing = m'.addressing

namespace SameDefinitions

variable {config : Config} {m m' : Module}

theorem opcodeOf? (h : SameDefinitions config m m') (id : Id) : m.opcodeOf? id = m'.opcodeOf? id :=
  (h.definition? id).map fun _ _ hij => hij.opcode

theorem isIntType (h : SameDefinitions config m m') (id : Id) :
    m.isIntType id = m'.isIntType id := by
  simp only [Module.isIntType, h.opcodeOf?]

theorem isPointerType (h : SameDefinitions config m m') (id : Id) :
    m.isPointerType id = m'.isPointerType id := by
  simp only [Module.isPointerType, h.opcodeOf?]

theorem typeDefinition? (h : SameDefinitions config m m') {i j : Instruction} (hij : i.SameCode j) :
    SameFind (m.typeDefinition? i) (m'.typeDefinition? j) := by
  rw [Module.typeDefinition?, Module.typeDefinition?, hij.typeId]
  cases j.typeId with
  | none => exact .none
  | some t => exact h.definition? t

theorem functionType? (h : SameDefinitions config m m') {f g : Instruction} (hfg : f.SameCode g) :
    SameFind (m.functionType? f) (m'.functionType? g) := by
  rw [Module.functionType?, Module.functionType?, hfg.operand]
  refine SameFind.filter ?_ fun _ _ hij => by rw [hij.opcode]
  cases g.operand 3 with
  | none => exact .none
  | some t => exact h.definition? t

theorem storageClass? (h : SameDefinitions config m m') (id : Id) :
    m.storageClass? id = m'.storageClass? id := by
  simp only [Module.storageClass?, Module.storageClassWord?]
  rw [((h.definition? id).filter fun _ _ hij => by rw [hij.opcode]).bind
    fun _ _ hij => hij.operand 1]

theorem pointee? (h : SameDefinitions config m m') (id : Id) : m.pointee? id = m'.pointee? id :=
  ((h.definition? id).filter fun _ _ hij => by rw [hij.opcode]).bind fun _ _ hij => hij.operand 2

theorem componentWithin (h : SameDefinitions config m m') (n : Nat) :
    m.componentWithin n = m'.componentWithin n := by
  induction n with
  | zero => rfl
  | succ n ih =>
    funext id
    obtain ⟨hi, hj⟩ | ⟨i, j, hi, hj, hij⟩ := (h.definition? id).none_or_some
    · simp only [Module.componentWithin, hi, hj]
    · simp only [Module.componentWithin, hi, hj, hij.opcode, hij.operand, hij.typeId, ih]

theorem bitWidth (h : SameDefinitions config m m') (id : Id) : m.bitWidth id = m'.bitWidth id := by
  simp only [Module.bitWidth, componentType?, h.componentWithin]
  cases m'.componentWithin 4 id with
  | none => rfl
  | some t =>
    obtain ⟨hi, hj⟩ | ⟨i, j, hi, hj, hij⟩ := (h.definition? t).none_or_some
    · simp only [Option.bind_some, hi, hj]
    · simp only [Option.bind_some, hi, hj, hij.opcode, hij.operandOrZero]

theorem isInt32Type (h : SameDefinitions config m m') (id : Id) :
    m.isInt32Type id = m'.isInt32Type id := by
  simp only [Module.isInt32Type, h.isIntType, h.bitWidth]

theorem int32Value (h : SameDefinitions config m m') (id : Id) :
    m.int32Value id = m'.int32Value id := by
  obtain ⟨hi, hj⟩ | ⟨i, j, hi, hj, hij⟩ := (h.definition? id).none_or_some
  · simp only [Module.int32Value, hi, hj]
  · simp only [Module.int32Value, hi, hj, hij.opcode, hij.operand, hij.typeId,
      funext h.isInt32Type]

theorem uint64Value? (h : SameDefinitions config m m') (id : Id) :
    m.uint64Value? id = m'.uint64Value? id := by
  obtain ⟨hi, hj⟩ | ⟨i, j, hi, hj, hij⟩ := (h.definition? id).none_or_some
  · simp only [Module.uint64Value?, hi, hj]
  · simp only [Module.uint64Value?, hi, hj, hij.opcode, hij.operand, hij.operandOrZero,
      hij.typeId, funext h.isIntType]

theorem nullableWithin (h : SameDefinitions config m m') (n : Nat) {i j : Instruction}
    (hij : i.SameCode j) : m.nullableWithin n i = m'.nullableWithin n j := by
  induction n generalizing i j with
  | zero => rfl
  | succ n ih =>
    have hnested : (fun id => (m.definition? id).any (m.nullableWithin n)) =
        fun id => (m'.definition? id).any (m'.nullableWithin n) :=
      funext fun id => (h.definition? id).any fun _ _ => ih
    simp only [Module.nullableWithin, hnested, hij.opcode, hij.operand, hij.operandsFrom,
      hij.isShapedTensor]

theorem isNullableId (h : SameDefinitions config m m') (depth : Nat) (id : Id) :
    m.isNullableId depth id = m'.isNullableId depth id :=
  (h.definition? id).any fun _ _ hij => h.nullableWithin (depth + 1) hij

theorem partsMatch (h : SameDefinitions config m m')
    {matching matching' : Instruction → Instruction → Bool}
    (hmatching : ∀ i j i' j' : Instruction, i.SameCode i' → j.SameCode j' →
      matching i j = matching' i' j') :
    m.partsMatch matching = m'.partsMatch matching' := by
  funext a b
  obtain ⟨hx, hx'⟩ | ⟨x, x', hx, hx', hxx'⟩ := (h.definition? a).none_or_some
  · simp only [Module.partsMatch, hx, hx']
  · obtain ⟨hy, hy'⟩ | ⟨y, y', hy, hy', hyy'⟩ := (h.definition? b).none_or_some
    · simp only [Module.partsMatch, hx, hx', hy, hy']
    · simp only [Module.partsMatch, hx, hx', hy, hy', hmatching _ _ _ _ hxx' hyy']

theorem coversDecorations (h : SameDefinitions config m m') (hc : config.beforeLegalization = true)
    (a b : Option Id) : m.coversDecorations a b = m'.coversDecorations a b := by
  simp only [Module.coversDecorations, h.decorationsOf hc]

theorem matchesWithin (h : SameDefinitions config m m') (hc : config.beforeLegalization = true)
    (decorated : Bool) (n : Nat) {i j i' j' : Instruction} (hi : i.SameCode i')
    (hj : j.SameCode j') :
    m.matchesWithin decorated n i j = m'.matchesWithin decorated n i' j' := by
  induction n generalizing i j i' j' with
  | zero => rfl
  | succ n ih =>
    simp only [Module.matchesWithin, h.partsMatch fun _ _ _ _ => ih, h.coversDecorations hc,
      hi.opcode, hi.words, hi.operand, hi.operandsFrom, hi.resultId, hj.opcode, hj.words,
      hj.operand, hj.operandsFrom, hj.resultId]

theorem pointeesMatch (h : SameDefinitions config m m') (hc : config.beforeLegalization = true)
    (depth : Nat) {i j i' j' : Instruction} (hi : i.SameCode i') (hj : j.SameCode j') :
    m.pointeesMatch depth i j = m'.pointeesMatch depth i' j' := by
  simp only [Module.pointeesMatch, h.partsMatch fun _ _ _ _ => h.matchesWithin hc true depth,
    h.coversDecorations hc, hi.opcode, hi.operand, hi.resultId, hj.opcode, hj.operand, hj.resultId]

theorem searchFrom (h : SameDefinitions config m m') (everywhere : Bool)
    {wanted : Instruction → Bool}
    (hwanted : ∀ i j : Instruction, i.SameCode j → wanted i = wanted j) (n : Nat) :
    m.searchFrom everywhere wanted n = m'.searchFrom everywhere wanted n := by
  induction n with
  | zero => rfl
  | succ n ih =>
    funext visited id
    obtain ⟨hi, hj⟩ | ⟨i, j, hi, hj, hij⟩ := (h.definition? id).none_or_some
    · simp only [Module.searchFrom, hi, hj]
    · simp only [Module.searchFrom, hi, hj, ih, hwanted _ _ hij, hij.searched]

theorem containsNumeric (h : SameDefinitions config m m') (depth : Nat) (op : Opcode) (width : Word)
    (id : Id) : m.containsNumeric depth op width id = m'.containsNumeric depth op width id := by
  simp only [Module.containsNumeric, containsType]
  rw [h.searchFrom false fun _ _ hij => by rw [hij.opcode, hij.operand]]

end SameDefinitions

end Module
end Spirv
