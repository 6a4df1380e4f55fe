import Spirv.Proofs.Agreement.Types
import Spirv.Rule.Constant
import Spirv.Rule.PerElement

set_option autoImplicit false

/-!
# Rules in modules that agree

A rule that looks at an instruction and at definitions only has the same result in modules with the
same definitions, the fault included. The rules that also ask for permissions have it in modules
that agree. Where an instruction stands matters to functions and parameters alone.
-/
namespace Spirv.Module

variable {config : Config} {m m' : Module} {i j : Instruction}

namespace SameDefinitions

/-! ### Composite constants -/

theorem typePart_bind (h : SameDefinitions config m m') (hij : i.SameCode j) (k : Nat)
    (part : TypePart) {f g : Id × Instruction → Except CompositeFault Unit}
    (hfg : ∀ id x y, x.SameCode y → f (id, x) = g (id, y)) :
    (m.typePart i k part >>= f) = (m'.typePart j k part >>= g) := by
  rw [typePart, typePart, hij.operandOrZero]
  obtain ⟨hx, hy⟩ | ⟨x, y, hx, hy, hxy⟩ := (h.definition? (j.operandOrZero k)).none_or_some
  · rw [hx, hy]
    rfl
  · rw [hx, hy]
    exact hfg _ x y hxy

theorem constituentType_bind (h : SameDefinitions config m m') (id : Id)
    {f g : Id × Instruction → Except CompositeFault Unit}
    (hfg : ∀ t x y, x.SameCode y → f (t, x) = g (t, y)) :
    (m.constituentType id >>= f) = (m'.constituentType id >>= g) := by
  have hconstituent : SameFind ((m.definition? id).filter (·.opcode.isConstantOrUndef))
      ((m'.definition? id).filter (·.opcode.isConstantOrUndef)) :=
    (h.definition? id).filter fun _ _ hij => by rw [hij.opcode]
  rw [constituentType, constituentType]
  obtain ⟨hc, hc'⟩ | ⟨c, c', hc, hc', hcc'⟩ := hconstituent.none_or_some
  · rw [hc, hc']
    rfl
  rw [hc, hc']
  simp only [hcc'.typeId]
  cases c'.typeId with
  | none => rfl
  | some t =>
    obtain ⟨hx, hy⟩ | ⟨x, y, hx, hy, hxy⟩ := (h.definition? t).none_or_some
    · simp only [hx, hy]
      rfl
    · simp only [hx, hy]
      exact hfg t x y hxy

theorem checkConstituent (h : SameDefinitions config m m') :
    m.checkConstituent = m'.checkConstituent := by
  funext expected role id
  exact h.constituentType_bind id fun _ _ _ _ => rfl

theorem vectorCount? (h : SameDefinitions config m m') (hij : i.SameCode j) :
    m.vectorCount? i = m'.vectorCount? j := by
  simp only [Module.vectorCount?, hij.opcode, hij.operand, hij.operandOrZero, h.int32Value]

theorem checkVector (h : SameDefinitions config m m') (hij : i.SameCode j)
    (constituents : List Id) :
    m.checkVector i constituents = m'.checkVector j constituents := by
  rw [Module.checkVector, Module.checkVector, h.vectorCount? hij, h.checkConstituent]
  exact bind_congr fun _ => h.typePart_bind hij 1 _ fun _ _ _ _ => rfl

theorem checkColumn (h : SameDefinitions config m m') (hij : i.SameCode j) :
    m.checkColumn i = m'.checkColumn j := by
  funext component id
  refine h.constituentType_bind id fun t x y hxy => ?_
  simp only [hxy.opcode, hxy.operand, hij.opcode, hij.operand]

theorem checkMatrix (h : SameDefinitions config m m') (hij : i.SameCode j)
    (constituents : List Id) :
    m.checkMatrix i constituents = m'.checkMatrix j constituents := by
  rw [Module.checkMatrix, Module.checkMatrix, hij.operand]
  refine bind_congr fun _ => h.typePart_bind hij 1 _ fun _ column column' hcolumn => ?_
  refine h.typePart_bind hcolumn 1 _ fun component _ _ _ => ?_
  simp only [h.checkColumn hcolumn]

theorem checkArray (h : SameDefinitions config m m') (hij : i.SameCode j)
    (constituents : List Id) :
    m.checkArray i constituents = m'.checkArray j constituents := by
  rw [Module.checkArray, Module.checkArray, h.checkConstituent]
  refine h.typePart_bind hij 1 _ fun element _ _ _ => ?_
  refine h.typePart_bind hij 2 _ fun length _ _ _ => ?_
  simp only [h.int32Value]

theorem checkStruct (h : SameDefinitions config m m') (hij : i.SameCode j)
    (constituents : List Id) :
    m.checkStruct i constituents = m'.checkStruct j constituents := by
  simp only [Module.checkStruct, h.checkConstituent, hij.operandsFrom]

theorem checkCooperativeMatrix (h : SameDefinitions config m m') (hij : i.SameCode j)
    (constituents : List Id) :
    m.checkCooperativeMatrix i constituents = m'.checkCooperativeMatrix j constituents := by
  rw [Module.checkCooperativeMatrix, Module.checkCooperativeMatrix, h.checkConstituent]
  exact h.typePart_bind hij 1 _ fun _ _ _ _ => rfl

theorem checkShape (h : SameDefinitions config m m') {shape shape' : Instruction}
    (hshape : shape.SameCode shape') (id : Id) (index : Nat) (hij : i.SameCode j) :
    m.checkShape shape id index i = m'.checkShape shape' id index j := by
  rw [Module.checkShape, Module.checkShape, hij.operand]
  cases j.operand 3 with
  | none => rfl
  | some s =>
    obtain ⟨hx, hy⟩ | ⟨x, y, hx, hy, hxy⟩ := (h.definition? s).none_or_some
    · simp only [hx, hy]
    · simp only [hx, hy, checkDimension, h.uint64Value?, hxy.operandsFrom, hshape.operandsFrom]

theorem checkSubtensor (h : SameDefinitions config m m') (element : Id) (rank : Nat)
    {shape shape' : Instruction} (hshape : shape.SameCode shape') (id : Id) (index : Nat)
    (hij : i.SameCode j) :
    m.checkSubtensor element rank shape id index i =
      m'.checkSubtensor element rank shape' id index j := by
  simp only [Module.checkSubtensor, hij.opcode, hij.operand, funext h.uint64Value?,
    h.checkShape hshape id index hij]

theorem checkTensorConstituent (h : SameDefinitions config m m') (element : Id) (rank : Nat)
    {shape shape' : Instruction} (hshape : shape.SameCode shape') (id : Id) (index : Nat) :
    m.checkTensorConstituent element rank shape id index =
      m'.checkTensorConstituent element rank shape' id index := by
  refine h.constituentType_bind id fun t x y hxy => ?_
  simp only [h.checkSubtensor element rank hshape id index hxy]

theorem checkTensor (h : SameDefinitions config m m') (hij : i.SameCode j)
    (constituents : List Id) :
    m.checkTensor i constituents = m'.checkTensor j constituents := by
  refine h.typePart_bind hij 1 _ fun element _ _ _ => ?_
  refine h.typePart_bind hij 2 _ fun rankId _ _ _ => ?_
  refine h.typePart_bind hij 3 _ fun _ shape shape' hshape => ?_
  simp only [hshape.operand, funext h.uint64Value?, h.checkTensorConstituent _ _ hshape]

theorem checkConstituents (h : SameDefinitions config m m') (hij : i.SameCode j)
    (constituents : List Id) :
    m.checkConstituents i constituents = m'.checkConstituents j constituents := by
  simp only [Module.checkConstituents, hij.opcode, h.checkVector hij, h.checkMatrix hij,
    h.checkArray hij, h.checkStruct hij, h.checkCooperativeMatrix hij, h.checkTensor hij]

/-! ### Constants -/

theorem checkComposite (h : SameDefinitions config m m') (hij : i.SameCode j) :
    m.checkComposite i = m'.checkComposite j := by
  have htype : SameFind
      ((m.definition? j.typeIdOrZero).filter fun type =>
        type.opcode.isCompositeType || type.isShapedTensor)
      ((m'.definition? j.typeIdOrZero).filter fun type =>
        type.opcode.isCompositeType || type.isShapedTensor) :=
    (h.definition? _).filter fun _ _ hxy => by rw [hxy.opcode, hxy.isShapedTensor]
  rw [Module.checkComposite, Module.checkComposite, hij.typeIdOrZero, hij.operandsFrom]
  obtain ⟨hx, hy⟩ | ⟨x, y, hx, hy, hxy⟩ := htype.none_or_some
  · rw [hx, hy]
  · rw [hx, hy]
    simp only [h.checkConstituents hxy]

/-! ### Functions, calls and per-element operations -/

theorem function? (h : SameDefinitions config m m') (id : Id) :
    SameFind (m.function? id) (m'.function? id) :=
  (h.definition? id).filter fun _ _ hij => by rw [hij.opcode]

theorem checkSignature (h : SameDefinitions config m m') (hij : i.SameCode j) :
    m.checkSignature i = m'.checkSignature j := by
  simp only [Module.checkSignature, hij.operandOrZero, hij.typeIdOrZero]
  obtain ⟨hx, hy⟩ | ⟨x, y, hx, hy, hxy⟩ := (h.functionType? hij).none_or_some
  · simp only [hx, hy]
  · simp only [hx, hy, hxy.operandOrZero]

theorem checkParameterOf (h : SameDefinitions config m m') (hij : i.SameCode j)
    {position position' : Nat}
    (hfunction : SameFind (m.instruction? position) (m'.instruction? position')) (index : Nat) :
    m.checkParameterOf i position index = m'.checkParameterOf j position' index := by
  simp only [Module.checkParameterOf, hij.typeIdOrZero]
  obtain ⟨hf, hg⟩ | ⟨f, g, hf, hg, hfg⟩ := hfunction.none_or_some
  · simp only [hf, hg]
  · simp only [hf, hg]
    obtain ⟨ht, ht'⟩ | ⟨t, t', ht, ht', htt'⟩ := (h.functionType? hfg).none_or_some
    · simp only [ht, ht']
    · simp only [ht, ht', htt'.operandsFrom, hfg.resultId]

theorem argumentFits (h : SameDefinitions config m m') (typeId : Id) (hij : i.SameCode j)
    (parameter : Id) :
    m.argumentFits config typeId i parameter = m'.argumentFits config typeId j parameter := by
  rw [Module.argumentFits, Module.argumentFits]
  cases hc : config.beforeLegalization with
  | false => rfl
  | true =>
    rw [(h.definition? parameter).any fun _ _ hxy => h.pointeesMatch hc config.maxTypeDepth hij hxy]

theorem takesElement (h : SameDefinitions config m m') : m.takesElement = m'.takesElement := by
  funext component parameters
  simp only [Module.takesElement, h.isInt32Type]

theorem checkElementFunction (h : SameDefinitions config m m') (id : Id) (hij : i.SameCode j)
    (component : Id) :
    m.checkElementFunction id i component = m'.checkElementFunction id j component := by
  rw [Module.checkElementFunction, Module.checkElementFunction]
  obtain ⟨ht, ht'⟩ | ⟨t, t', ht, ht', htt'⟩ := (h.functionType? hij).none_or_some
  · rw [ht, ht']
  · simp only [ht, ht', htt'.operand, htt'.operandsFrom, h.takesElement]

theorem checkPerElement (h : SameDefinitions config m m') (hij : i.SameCode j) :
    m.checkPerElement i = m'.checkPerElement j := by
  simp only [Module.checkPerElement, hij.operandOrZero, hij.typeIdOrZero]
  obtain ⟨hf, hg⟩ | ⟨f, g, hf, hg, hfg⟩ := (h.function? (j.operandOrZero 3)).none_or_some
  · simp only [hf, hg]
  simp only [hf, hg]
  obtain ⟨hx, hy⟩ | ⟨x, y, hx, hy, hxy⟩ := (h.definition? (j.operandOrZero 2)).none_or_some
  · simp only [hx, hy]
  have hmatrix : SameFind
      ((m.definition? y.typeIdOrZero).filter (·.opcode == .typeCooperativeMatrixKHR))
      ((m'.definition? y.typeIdOrZero).filter (·.opcode == .typeCooperativeMatrixKHR)) :=
    (h.definition? _).filter fun _ _ hij => by rw [hij.opcode]
  simp only [hx, hy, hxy.typeIdOrZero]
  obtain ⟨ht, ht'⟩ | ⟨t, t', ht, ht', htt'⟩ := hmatrix.none_or_some
  · simp only [ht, ht']
  · simp only [ht, ht', htt'.operandOrZero, h.checkElementFunction _ hfg]

end SameDefinitions

namespace Agree

/-! ### Constants -/

theorem checkOperation (h : Agree config m m') (op : Opcode) :
    m.checkOperation op = m'.checkOperation op := by
  simp only [Module.checkOperation, h.hasCapability, h.features]

theorem checkFunctionPointer (h : Agree config m m') (hij : i.SameCode j) :
    m.checkFunctionPointer i = m'.checkFunctionPointer j := by
  simp only [Module.checkFunctionPointer, h.hasCapability, h.pointee?, h.opcodeOf?,
    hij.typeIdOrZero, hij.operandOrZero]
  refine bind_congr fun _ => ?_
  split
  · rfl
  · obtain ⟨hx, hy⟩ | ⟨x, y, hx, hy, hxy⟩ := (h.definition? (j.operandOrZero 2)).none_or_some
    · simp only [hx, hy]
    · simp only [hx, hy, hxy.opcode, hxy.operand]

theorem containsLimitedNumeric (h : Agree config m m') (depth : Nat) (id : Id) :
    m.containsLimitedNumeric depth id = m'.containsLimitedNumeric depth id := by
  simp only [Module.containsLimitedNumeric, h.hasCapability, h.containsNumeric]

theorem checkNarrowNumeric (h : Agree config m m') (hij : i.SameCode j) :
    m.checkNarrowNumeric config i = m'.checkNarrowNumeric config j := by
  simp only [Module.checkNarrowNumeric, hij.typeId, h.hasCapability, h.isPointerType,
    h.containsLimitedNumeric]

theorem checkConstantKind (h : Agree config m m') (hij : i.SameCode j) :
    m.checkConstantKind config i = m'.checkConstantKind config j := by
  simp only [Module.checkConstantKind, checkBoolean, isBoolType, checkSampler, checkNull,
    checkSpecConstant, checkSpecConstantOp, hij.opcode, hij.typeIdOrZero, hij.embeddedOpcode,
    h.opcodeOf?, h.isNullableId, h.checkOperation, h.checkComposite hij, h.checkFunctionPointer hij]

theorem checkConstant (h : Agree config m m') (hij : i.SameCode j) :
    m.checkConstant config i = m'.checkConstant config j := by
  simp only [Module.checkConstant, h.checkConstantKind hij, h.checkNarrowNumeric hij, hij.opcode]

/-! ### Functions, calls and per-element operations -/

theorem mayUseFunction (h : Agree config m m') (hij : i.SameCode j) :
    m.mayUseFunction i = m'.mayUseFunction j := by
  simp only [Module.mayUseFunction, hij.opcode, hij.debugInfo, hij.nonSemantic, h.hasCapability]

theorem checkPointerArgument (h : Agree config m m') (hij : i.SameCode j) (parameter : Id) :
    m.checkPointerArgument config i parameter = m'.checkPointerArgument config j parameter := by
  simp only [Module.checkPointerArgument, checkStorage, mayComputePointer, hij.resultId,
    hij.isMemoryDeclaration, h.storageClass?, h.features, h.hasCapability]

theorem checkArgument (h : Agree config m m') :
    m.checkArgument config = m'.checkArgument config := by
  funext callee id parameter
  obtain ⟨hx, hy⟩ | ⟨x, y, hx, hy, hxy⟩ := (h.definition? id).none_or_some
  · simp only [Module.checkArgument, hx, hy]
  obtain ⟨ht, ht'⟩ | ⟨t, t', ht, ht', htt'⟩ := (h.typeDefinition? hxy).none_or_some
  · simp only [Module.checkArgument, hx, hy, ht, ht']
  · simp only [Module.checkArgument, hx, hy, ht, ht', hxy.typeIdOrZero,
      h.argumentFits y.typeIdOrZero htt', h.addressing, h.isPointerType,
      h.checkPointerArgument hxy]

theorem checkCall (h : Agree config m m') (hij : i.SameCode j) :
    m.checkCall config i = m'.checkCall config j := by
  simp only [Module.checkCall, hij.operandOrZero, hij.operandsFrom, hij.typeIdOrZero]
  obtain ⟨hf, hg⟩ | ⟨f, g, hf, hg, hfg⟩ := (h.function? (j.operandOrZero 2)).none_or_some
  · simp only [hf, hg]
  · simp only [hf, hg, hfg.typeIdOrZero, (h.definition? _).isSome]
    refine bind_congr fun _ => ?_
    obtain ⟨ht, ht'⟩ | ⟨t, t', ht, ht', htt'⟩ := (h.functionType? hfg).none_or_some
    · simp only [ht, ht']
    · simp only [ht, ht', checkArguments, h.checkArgument, htt'.operandsFrom]

end Agree
end Spirv.Module
