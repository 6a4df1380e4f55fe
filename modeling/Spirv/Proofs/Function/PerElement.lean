import Spirv.Proofs.Constant.Value
import Spirv.Proofs.Function.Reference
import Spirv.Proofs.Function.Signature

set_option autoImplicit false

/-!
# Per-element operations fit the functions they apply

The rule for a per-element operation looks at the type that the applied function declares. That the
function itself gives back a component, and that the parameters below it take a row, a column and a
component, follows in an accepted module from the rules for functions and for parameters. A matrix
type that states no component type counts as one whose components are of the type 0, which nothing
defines.
-/
namespace Spirv.Module

/-- A per-element operation fits the function that it applies and the matrix that it is applied to,
when the components of the matrix are of the type `component`. -/
structure PerElementFits (m : Module) (op f type matrix matrixType : Instruction)
    (component : Id) : Prop where
  function_defined : (op.operand 3).bind m.definition? = some f
  function_opcode : f.opcode = .function
  type_defined : (f.operand 3).bind m.definition? = some type
  type_opcode : type.opcode = .typeFunction
  matrix_defined : (op.operand 2).bind m.definition? = some matrix
  result : ∃ t, op.typeId = some t ∧ matrix.typeId = some t ∧ m.definition? t = some matrixType
  matrixType_opcode : matrixType.opcode = .typeCooperativeMatrixKHR
  returns : f.typeId = some component
  count : 3 ≤ (type.operandsFrom 2).length
  place : ∀ k < 2, ∀ p, (m.parametersOf f)[k]? = some p →
    ∃ t, m.typeDefinition? p = some t ∧ t.opcode = .typeInt ∧ t.operand 1 = some 32
  element : ∀ p, (m.parametersOf f)[2]? = some p → p.typeId = some component

theorem PerElementFits.typeDefinition? {m : Module} {op f type matrix matrixType : Instruction}
    {component : Id} (h : m.PerElementFits op f type matrix matrixType component) :
    m.typeDefinition? op = some matrixType := by
  obtain ⟨t, ht, -, hdef⟩ := h.result
  rw [Module.typeDefinition?, ht]
  exact hdef

theorem takesElement_iff {m : Module} {component : Id} {parameters : List Id} :
    m.takesElement component parameters = true ↔
      ∃ row column rest, parameters = row :: column :: component :: rest ∧
        m.isInt32Type row = true ∧ m.isInt32Type column = true := by
  unfold takesElement
  split
  · rename_i row column element rest
    simp only [Bool.and_eq_true, beq_iff_eq]
    constructor
    · rintro ⟨⟨hrow, hcolumn⟩, rfl⟩
      exact ⟨row, column, rest, rfl, hrow, hcolumn⟩
    · rintro ⟨row', column', rest', heq, hrow, hcolumn⟩
      simp only [List.cons.injEq] at heq
      obtain ⟨rfl, rfl, rfl, rfl⟩ := heq
      exact ⟨⟨hrow, hcolumn⟩, rfl⟩
  · rename_i hshort
    refine iff_of_false Bool.false_ne_true ?_
    rintro ⟨row, column, rest, rfl, -⟩
    exact hshort row column component rest rfl

theorem hasInt32Type_iff {m : Module} {i : Instruction} {t : Id} (ht : i.typeId = some t) :
    m.isInt32Type t = true ↔
      ∃ type, m.typeDefinition? i = some type ∧ type.opcode = .typeInt ∧
        type.operand 1 = some 32 := by
  rw [typeDefinition?, ht]
  exact isInt32Type_iff

theorem typeId_eq_declared {m : Module} {config : Config} (hm : m.Indexed)
    (hc : config.checkFunctions = true) (h : m.validate config = .ok ()) {f type : Instruction}
    (hf : f ∈ m.instructions) (hop : f.opcode = .function) (htype : m.functionType? f = some type) :
    f.typeId = some (type.operandOrZero 1) := by
  obtain ⟨⟨type', htype', hdeclared⟩, -⟩ :=
    (checkFunction_eq_ok_iff m f).mp (checkFunction_of_validate hc h hf hop)
  obtain rfl : type = type' := Option.some.inj (htype.symm.trans htype')
  rw [hdeclared]
  exact hm.typeId_eq hf (by rw [hop]; rfl)

theorem exists_perElementFits {v : Version} {addressing : AddressingModel} {is : List Instruction}
    {m : Module} (hbuild : build v addressing is = .ok m) (h : m.validate .standard = .ok ())
    {op : Instruction} (hmem : op ∈ m.instructions)
    (hop : op.opcode = .cooperativeMatrixPerElementOpNV) :
    ∃ f type matrix matrixType,
      m.PerElementFits op f type matrix matrixType (matrixType.operandOrZero 1) := by
  have hm := indexed_of_build hbuild
  obtain ⟨f, matrix, matrixType, hf, hmatrix, hmatrixType, hmatrixOp, hresult, happlied⟩ :=
    (checkPerElement_eq_ok_iff m op).mp (checkPerElement_of_validate rfl h hmem hop)
  obtain ⟨type, htype, hreturn, htakes⟩ :=
    (checkElementFunction_eq_ok_iff m _ f _).mp happlied
  obtain ⟨row, column, rest, hparameters, hrow, hcolumn⟩ := takesElement_iff.mp htakes
  obtain ⟨hfdef, hfop⟩ := (function?_eq_some_iff m _ f).mp hf
  obtain ⟨typeId, htid, htdef, htop⟩ := (functionType?_eq_some_iff m f type).mp htype
  have hfmem := (mem_of_definition? hfdef).1
  have hdeclared (k : Nat) (p : Instruction) (hp : (m.parametersOf f)[k]? = some p) :
      ∃ t, p.typeId = some t ∧
        (row :: column :: matrixType.operandOrZero 1 :: rest)[k]? = some t := by
    rw [← hparameters]
    exact parametersOf_typeId hm rfl h hfmem hfop htype hp
  refine ⟨f, type, matrix, matrixType, (hm.bind_definition? op 3).trans hfdef, hfop, ?_, htop,
    (hm.bind_definition? op 2).trans hmatrix, ?_, hmatrixOp, ?_, ?_, ?_, ?_⟩
  · rw [htid]
    exact htdef
  · have htyped := (hm.definition?_typeIdOrZero matrix).symm.trans hmatrixType
    obtain ⟨t, ht, htdef⟩ := Option.bind_eq_some_iff.mp htyped
    refine ⟨t, ?_, ht, htdef⟩
    rw [hm.typeId_eq hmem (by rw [hop]; rfl), ← hresult, Instruction.typeIdOrZero, ht,
      Option.getD_some]
  · -- the function has the return type of its function type, and that is the component type
    rw [typeId_eq_declared hm rfl h hfmem hfop htype, Instruction.operandOrZero, hreturn,
      Option.getD_some]
  · rw [hparameters]
    exact Nat.le_add_left 3 rest.length
  · intro k hk p hp
    obtain ⟨t, ht, hkt⟩ := hdeclared k p hp
    obtain rfl | rfl : k = 0 ∨ k = 1 := by omega
    · obtain rfl : row = t := Option.some.inj hkt
      exact (hasInt32Type_iff ht).mp hrow
    · obtain rfl : column = t := Option.some.inj hkt
      exact (hasInt32Type_iff ht).mp hcolumn
  · intro p hp
    obtain ⟨t, ht, hkt⟩ := hdeclared 2 p hp
    rw [ht]
    exact hkt.symm

/-- In an accepted module each per-element operation fits the function that it applies, where id 0
stands for a component type that the matrix type does not state. So the function fits the components
exactly if the matrix type states what they are. -/
theorem perElement_fits_iff {v : Version} {addressing : AddressingModel} {is : List Instruction}
    {m : Module} (hbuild : build v addressing is = .ok m) (h : m.validate .standard = .ok ())
    {op : Instruction} (hmem : op ∈ m.instructions)
    (hop : op.opcode = .cooperativeMatrixPerElementOpNV) :
    (∃ f type matrix matrixType,
      m.PerElementFits op f type matrix matrixType (matrixType.operandOrZero 1)) ∧
    ((∃ f type matrix matrixType component, matrixType.operand 1 = some component ∧
        m.PerElementFits op f type matrix matrixType component) ↔
      ∃ matrixType component, m.typeDefinition? op = some matrixType ∧
        matrixType.operand 1 = some component) := by
  obtain ⟨f, type, matrix, matrixType, hfits⟩ := exists_perElementFits hbuild h hmem hop
  refine ⟨⟨f, type, matrix, matrixType, hfits⟩, ?_, ?_⟩
  · rintro ⟨_, _, _, matrixType', component, hcomponent, hfits'⟩
    exact ⟨matrixType', component, hfits'.typeDefinition?, hcomponent⟩
  · rintro ⟨matrixType', component, hdef, hcomponent⟩
    obtain rfl := Option.some.inj (hdef.symm.trans hfits.typeDefinition?)
    rw [Instruction.operandOrZero, hcomponent] at hfits
    exact ⟨f, type, matrix, matrixType', component, hcomponent, hfits⟩

/-- The function `14` takes a row, a column, a component and a matrix, and all four parameters stand
below it. -/
theorem matrixModule_perElement_fits :
    build .v1_6 .logical (matrixCalls 24) = .ok (matrixModule 24) ∧
      (matrixModule 24).validate .standard = .ok () ∧
      ∃ op ∈ (matrixModule 24).instructions, op.opcode = .cooperativeMatrixPerElementOpNV ∧
        ∃ f type matrix matrixType component, matrixType.operand 1 = some component ∧
          (matrixModule 24).PerElementFits op f type matrix matrixType component ∧
            f.resultId = some 14 ∧ ((matrixModule 24).parametersOf f).length = 4 := by
  have hbuild : build .v1_6 .logical (matrixCalls 24) = .ok (matrixModule 24) := rfl
  have hvalid : (matrixModule 24).validate .standard = .ok () := rfl
  have hmem : (matrixModule 24).instructions[28] ∈ (matrixModule 24).instructions :=
    List.getElem_mem _
  obtain ⟨f, type, matrix, matrixType, component, hcomponent, hfits⟩ :=
    (perElement_fits_iff hbuild hvalid hmem rfl).2.mpr ⟨_, 1, rfl, rfl⟩
  have hf : some (matrixModule 24).instructions[17] = some f := hfits.function_defined
  obtain rfl := Option.some.inj hf
  exact ⟨hbuild, hvalid, _, hmem, rfl, _, type, matrix, matrixType, component, hcomponent, hfits,
    rfl, rfl⟩

/-- A per-element operation on a matrix whose type `4` states no component type, and a function `8`
that takes two integers and a parameter of the type 0. -/
def componentless : List Instruction :=
  [(.typeInt, [2, 32, 0]), (.typeCooperativeMatrixKHR, [4]), (.undef, [4, 5]),
    (.typeFunction, [7, 0, 2, 2, 0]), (.function, [0, 8, 0, 7]), (.functionEnd, []),
    (.cooperativeMatrixPerElementOpNV, [4, 9, 5, 8])].map fun code => .ofOpcode code.1 code.2

def componentlessModule : Module := assemble .v1_6 .logical (place componentless)

theorem componentless_not_fits :
    build .v1_6 .logical componentless = .ok componentlessModule ∧
      componentlessModule.validate .standard = .ok () ∧
      ∃ op ∈ componentlessModule.instructions, op.opcode = .cooperativeMatrixPerElementOpNV ∧
        ¬ ∃ f type matrix matrixType component, matrixType.operand 1 = some component ∧
          componentlessModule.PerElementFits op f type matrix matrixType component := by
  refine ⟨rfl, rfl, componentlessModule.instructions[6], List.getElem_mem _, rfl, ?_⟩
  rintro ⟨_, _, _, matrixType, component, hcomponent, hfits⟩
  have hdef : some componentlessModule.instructions[1] = some matrixType :=
    hfits.typeDefinition?
  obtain rfl := Option.some.inj hdef
  have hnone : componentlessModule.instructions[1].operand 1 = none := rfl
  rw [hnone] at hcomponent
  contradiction

end Spirv.Module
