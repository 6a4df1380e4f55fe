import Spirv.Proofs.Function.Rules
import Spirv.Proofs.Module.Accepted

set_option autoImplicit false

/-!
# References to functions

A call and a per-element operation each have one operand for the function that they apply. The
rule for functions judges a reference by the opcode of the referring instruction alone, so the
other operands of these two may name a function as well, as long as its result type is the one that
the operand must have.
-/
namespace Spirv

def Opcode.appliedOperand? : Opcode → Option Nat
  | .functionCall => some 2
  | .cooperativeMatrixPerElementOpNV => some 3
  | _ => none

theorem Opcode.appliedOperand?_eq_some_iff (op : Opcode) (n : Nat) :
    op.appliedOperand? = some n ↔
      op = .functionCall ∧ n = 2 ∨ op = .cooperativeMatrixPerElementOpNV ∧ n = 3 := by
  constructor
  · intro h
    unfold appliedOperand? at h
    split at h
    · exact Or.inl ⟨rfl, (Option.some.inj h).symm⟩
    · exact Or.inr ⟨rfl, (Option.some.inj h).symm⟩
    · contradiction
  · rintro (⟨rfl, rfl⟩ | ⟨rfl, rfl⟩) <;> rfl

theorem Instruction.mem_idOperands_of_applied {u : Instruction} {n : Nat}
    (h : u.opcode.appliedOperand? = some n) (k : Nat) (id : Id) :
    (k, id) ∈ u.idOperands ↔ u.operand k = some id ∧ k ≠ 1 := by
  have hresult : u.opcode.resultIdIndex = some 1 := by
    rcases (Opcode.appliedOperand?_eq_some_iff _ _).mp h with ⟨hop, -⟩ | ⟨hop, -⟩ <;> rw [hop] <;>
      rfl
  have hall : u.opcode.operandIsId u.words k = true := by
    rcases (Opcode.appliedOperand?_eq_some_iff _ _).mp h with ⟨hop, -⟩ | ⟨hop, -⟩ <;>
      rw [hop, Opcode.operandIsId_of_ne (by decide)] <;> rfl
  rw [mem_idOperands_iff, Opcode.isIdOperand, hresult, hall]
  refine and_congr_right fun hid => ?_
  obtain ⟨hlt, -⟩ := List.getElem?_eq_some_iff.mp hid
  rw [decide_eq_true hlt, Bool.true_and, Bool.and_true, bne_iff_ne, ne_comm, ne_eq, ne_eq,
    Option.some.injEq]

theorem Instruction.marks_eq_false {i : Instruction} (hop : i.opcode ≠ .extInst) :
    (i.debugInfo || i.nonSemantic) = false :=
  Bool.eq_false_iff.mpr fun hmarked => hop (i.marks hmarked)

namespace Module

/-- Instructions that apply a function name no function in another operand. -/
def NamesAppliedOnly (m : Module) : Prop :=
  ∀ u ∈ m.instructions, ∀ n, u.opcode.appliedOperand? = some n →
    ∀ (k : Nat) (id : Id), (k, id) ∈ u.idOperands → (m.function? id).isSome → k = n

theorem NamesAppliedOnly.index_eq {m : Module} (h : m.NamesAppliedOnly) {u f : Instruction}
    {n k : Nat} {id : Id} (hu : u ∈ m.instructions) (happ : u.opcode.appliedOperand? = some n)
    (hid : u.operand k = some id) (hk : k ≠ 1) (hf : m.function? id = some f) : k = n := by
  have hmem := (Instruction.mem_idOperands_of_applied happ k id).mpr ⟨hid, hk⟩
  exact h u hu n happ k id hmem (by rw [hf]; rfl)

/-- An operand for a value names a function. A call argument and a matrix must have a certain type,
and the result type of the function is that type. -/
inductive PassesFunction (m : Module) (u f : Instruction) : Prop where
  | argument (callee type : Instruction) (k : Nat) (id : Id) (hop : u.opcode = .functionCall)
      (hcallee : m.function? (u.operandOrZero 2) = some callee)
      (htype : m.functionType? callee = some type) (hid : (u.operandsFrom 3)[k]? = some id)
      (hf : m.function? id = some f) (hft : (type.operandsFrom 2)[k]? = f.typeId)
  | matrix (id : Id) (hop : u.opcode = .cooperativeMatrixPerElementOpNV)
      (hid : u.operand 2 = some id) (hf : m.function? id = some f) (hft : f.typeId = u.typeId)
  | extra (k : Nat) (id : Id) (hop : u.opcode = .cooperativeMatrixPerElementOpNV)
      (hid : (u.operandsFrom 4)[k]? = some id) (hf : m.function? id = some f)

theorem mayUseFunction_of_mem_idOperands {m : Module} {config : Config} (hm : m.Indexed)
    (hc : config.checkFunctions = true) (h : m.validate config = .ok ()) {u f : Instruction}
    {k : Nat} {id : Id} (hu : u ∈ m.instructions) (hk : (k, id) ∈ u.idOperands)
    (hf : m.function? id = some f) : m.mayUseFunction u = true := by
  obtain ⟨hdef, hop⟩ := (function?_eq_some_iff m id f).mp hf
  have hmem := (mem_of_definition? hdef).1
  obtain ⟨-, huses⟩ := (checkFunction_eq_ok_iff m f).mp (checkFunction_of_validate hc h hmem hop)
  exact huses _ (hm.mem_uses hu hk hdef) u (hm.instruction?_position hu)

/-- A function is no extended instruction and bears no mark, so it may not refer to a function. -/
theorem mayUseFunction_function {m : Module} {f : Instruction} (hop : f.opcode = .function) :
    m.mayUseFunction f = false := by
  rw [mayUseFunction, hop]
  exact f.marks_eq_false (by rw [hop]; decide)

theorem function?_typeId {m : Module} {config : Config} (hm : m.Indexed)
    (hc : config.checkFunctions = true) (h : m.validate config = .ok ()) {f : Instruction} {t : Id}
    (hf : f ∈ m.instructions) (hop : f.opcode = .function) (ht : f.typeId = some t) :
    m.function? t = none := by
  cases hg : m.function? t with
  | none => rfl
  | some g =>
    obtain ⟨t', ht', h0⟩ := hm.exists_typeId hf (by rw [hop]; rfl)
    obtain rfl : t = t' := Option.some.inj (ht.symm.trans ht')
    obtain ⟨hlt, -⟩ := List.getElem?_eq_some_iff.mp h0
    have hid : (0, t) ∈ f.idOperands := by
      rw [Instruction.mem_idOperands_iff, hop, Opcode.isIdOperand, decide_eq_true hlt,
        Opcode.operandIsId_of_ne (by decide)]
      exact ⟨h0, rfl⟩
    have hmay := mayUseFunction_of_mem_idOperands hm hc h hf hid hg
    rw [mayUseFunction_function hop] at hmay
    contradiction

/-- No instruction that applies a function has a function for its result type. -/
theorem function?_typeId_of_applied {m : Module} {config : Config} (hm : m.Indexed)
    (hc : config.checkFunctions = true) (h : m.validate config = .ok ()) {u : Instruction}
    {n : Nat} {t : Id} (hu : u ∈ m.instructions) (hop : u.opcode.appliedOperand? = some n)
    (ht : u.typeId = some t) : m.function? t = none := by
  rcases (Opcode.appliedOperand?_eq_some_iff _ _).mp hop with ⟨hop, -⟩ | ⟨hop, -⟩
  · -- the result type of a call is that of the function it calls
    obtain ⟨callee, type, hcallee, -, hresult, -⟩ :=
      (checkCall_eq_ok_iff m config u).mp (checkCall_of_validate hc h hu hop)
    obtain ⟨hdef, hcop⟩ := (function?_eq_some_iff m _ callee).mp hcallee
    have hmem := (mem_of_definition? hdef).1
    rw [hm.typeId_eq hu (by rw [hop]; rfl)] at ht
    rw [← Option.some.inj ht, ← hresult]
    exact function?_typeId hm hc h hmem hcop (hm.typeId_eq hmem (by rw [hcop]; rfl))
  · -- the result type of a per-element operation is a matrix type
    obtain ⟨f, matrix, type, -, -, htype, htop, hresult, -⟩ :=
      (checkPerElement_eq_ok_iff m u).mp (checkPerElement_of_validate hc h hu hop)
    rw [hm.typeId_eq hu (by rw [hop]; rfl)] at ht
    rw [hresult, Option.some.inj ht] at htype
    simp [function?, htype, htop]

theorem passesFunction_argument {m : Module} {config : Config}
    (hc : config.checkFunctions = true) (hl : config.beforeLegalization = false)
    (h : m.validate config = .ok ()) {u f : Instruction} {k : Nat} {id : Id}
    (hu : u ∈ m.instructions) (hop : u.opcode = .functionCall) (hid : u.operand (k + 3) = some id)
    (hf : m.function? id = some f) : m.PassesFunction u f := by
  obtain ⟨callee, type, hcallee, -, -, htype, harguments⟩ :=
    (checkCall_eq_ok_iff m config u).mp (checkCall_of_validate hc h hu hop)
  have hid' : (u.operandsFrom 3)[k]? = some id := by
    rw [Instruction.operandsFrom, List.getElem?_drop, Nat.add_comm]
    exact hid
  obtain ⟨a, t, ha, hat, ht⟩ := checkArguments_typeId hl harguments k id hid'
  have hdef := ((function?_eq_some_iff m id f).mp hf).1
  obtain rfl : a = f := Option.some.inj (ha.symm.trans hdef)
  exact .argument callee type k id hop hcallee htype hid' hf (ht.trans hat.symm)

theorem passesFunction_matrix {m : Module} {config : Config} (hm : m.Indexed)
    (hc : config.checkFunctions = true) (h : m.validate config = .ok ()) {u f : Instruction}
    {id : Id} (hu : u ∈ m.instructions) (hop : u.opcode = .cooperativeMatrixPerElementOpNV)
    (hid : u.operand 2 = some id) (hf : m.function? id = some f) : m.PassesFunction u f := by
  obtain ⟨-, matrix, -, -, hmatrix, -, -, hresult, -⟩ :=
    (checkPerElement_eq_ok_iff m u).mp (checkPerElement_of_validate hc h hu hop)
  obtain ⟨hdef, hfop⟩ := (function?_eq_some_iff m id f).mp hf
  rw [Instruction.operandOrZero, hid, Option.getD_some] at hmatrix
  obtain rfl : matrix = f := Option.some.inj (hmatrix.symm.trans hdef)
  refine .matrix id hop hid hf ?_
  rw [hm.typeId_eq hu (by rw [hop]; rfl), ← hresult]
  exact hm.typeId_eq (mem_of_definition? hdef).1 (by rw [hfop]; rfl)

/-- Exactly the modules that pass a function for a value name functions where none is applied. -/
theorem namesAppliedOnly_iff {v : Version} {addressing : AddressingModel} {is : List Instruction}
    {m : Module} (hbuild : build v addressing is = .ok m) (h : m.validate .standard = .ok ()) :
    m.NamesAppliedOnly ↔ ∀ u ∈ m.instructions, ∀ f, ¬ m.PassesFunction u f := by
  have hm := indexed_of_build hbuild
  constructor
  · rintro hall u hu f (⟨callee, type, k, id, hop, -, -, hid, hf, -⟩ | ⟨id, hop, hid, hf, -⟩ |
      ⟨k, id, hop, hid, hf⟩)
    · rw [Instruction.operandsFrom, List.getElem?_drop] at hid
      have heq := hall.index_eq hu (by rw [hop]; rfl) hid (by omega) hf
      omega
    · have heq := hall.index_eq hu (by rw [hop]; rfl) hid (by omega) hf
      omega
    · rw [Instruction.operandsFrom, List.getElem?_drop] at hid
      have heq := hall.index_eq hu (by rw [hop]; rfl) hid (by omega) hf
      omega
  · intro hnone u hu n happ k id hk hf
    obtain ⟨f, hf⟩ := Option.isSome_iff_exists.mp hf
    obtain ⟨hid, hk1⟩ := (Instruction.mem_idOperands_of_applied happ k id).mp hk
    by_contra hkn
    obtain ⟨t, ht, h0⟩ : ∃ t, u.typeId = some t ∧ u.operand 0 = some t := by
      refine hm.exists_typeId hu ?_
      rcases (Opcode.appliedOperand?_eq_some_iff _ _).mp happ with ⟨hop, -⟩ | ⟨hop, -⟩ <;>
        rw [hop] <;> rfl
    have hk0 : k ≠ 0 := by
      rintro rfl
      obtain rfl : t = id := Option.some.inj (h0.symm.trans hid)
      rw [function?_typeId_of_applied hm rfl h hu happ ht] at hf
      contradiction
    rcases (Opcode.appliedOperand?_eq_some_iff _ _).mp happ with ⟨hop, rfl⟩ | ⟨hop, rfl⟩
    · obtain ⟨j, rfl⟩ : ∃ j, k = j + 3 := ⟨k - 3, by omega⟩
      exact hnone u hu f (passesFunction_argument rfl rfl h hu hop hid hf)
    · obtain rfl | hk4 : k = 2 ∨ 4 ≤ k := by omega
      · exact hnone u hu f (passesFunction_matrix hm rfl h hu hop hid hf)
      · obtain ⟨j, rfl⟩ : ∃ j, k = 4 + j := ⟨k - 4, by omega⟩
        refine hnone u hu f (.extra j id hop ?_ hf)
        rw [Instruction.operandsFrom, List.getElem?_drop]
        exact hid

/-- A call and a per-element operation on the matrix `24` or, as they should not be, on the
function `8` that returns such a matrix. -/
def matrixCalls (operand : Id) : List Instruction :=
  [.ofOpcode .typeFloat [1, 32], .ofOpcode .typeInt [2, 32, 0], .ofOpcode .constant [2, 3, 16],
    .ofOpcode .typeCooperativeMatrixKHR [4, 1, 3, 3, 3, 3], .ofOpcode .typeFunction [5, 4],
    .ofOpcode .typeFunction [6, 4, 4], .ofOpcode .typeFunction [7, 1, 2, 2, 1, 4],
    .ofOpcode .undef [4, 24],
    .ofOpcode .function [4, 8, 0, 5], .ofOpcode .label [9], .ofOpcode .returnValue [24],
    .ofOpcode .functionEnd [],
    .ofOpcode .function [4, 11, 0, 6], .ofOpcode .functionParameter [4, 12], .ofOpcode .label [13],
    .ofOpcode .returnValue [12], .ofOpcode .functionEnd [],
    .ofOpcode .function [1, 14, 0, 7], .ofOpcode .functionParameter [2, 15],
    .ofOpcode .functionParameter [2, 16], .ofOpcode .functionParameter [1, 17],
    .ofOpcode .functionParameter [4, 18], .ofOpcode .label [19], .ofOpcode .returnValue [17],
    .ofOpcode .functionEnd [],
    .ofOpcode .function [4, 20, 0, 5], .ofOpcode .label [21],
    .ofOpcode .functionCall [4, 22, 11, operand],
    .ofOpcode .cooperativeMatrixPerElementOpNV [4, 23, operand, 14, operand],
    .ofOpcode .returnValue [23], .ofOpcode .functionEnd []]

def matrixModule (operand : Id) : Module := assemble .v1_6 .logical (place (matrixCalls operand))

theorem matrixModule_passes_no_function :
    build .v1_6 .logical (matrixCalls 24) = .ok (matrixModule 24) ∧
      (matrixModule 24).validate .standard = .ok () ∧ (matrixModule 24).NamesAppliedOnly ∧
      ∀ u ∈ (matrixModule 24).instructions, ∀ f, ¬ (matrixModule 24).PassesFunction u f := by
  have hbuild : build .v1_6 .logical (matrixCalls 24) = .ok (matrixModule 24) := rfl
  have hvalid : (matrixModule 24).validate .standard = .ok () := rfl
  have hall : ∀ u ∈ (matrixModule 24).instructions, ∀ p ∈ u.idOperands,
      ((matrixModule 24).function? p.2).isSome → u.opcode.appliedOperand?.all (p.1 == ·) := by
    decide
  have hnames : (matrixModule 24).NamesAppliedOnly := by
    intro u hu n happ k id hk hf
    have hn := hall u hu (k, id) hk hf
    rw [happ] at hn
    exact eq_of_beq hn
  exact ⟨hbuild, hvalid, hnames, (namesAppliedOnly_iff hbuild hvalid).mp hnames⟩

theorem matrixModule_not_namesAppliedOnly :
    build .v1_6 .logical (matrixCalls 8) = .ok (matrixModule 8) ∧
      (matrixModule 8).validate .standard = .ok () ∧ ¬ (matrixModule 8).NamesAppliedOnly := by
  refine ⟨rfl, rfl, fun h => ?_⟩
  have hcall : (matrixModule 8).instructions[27] ∈ (matrixModule 8).instructions :=
    List.getElem_mem _
  have heq := h _ hcall 2 rfl 3 8 (by decide) rfl
  contradiction

end Module
end Spirv
