import Spirv.Proofs.Composite.Length

set_option autoImplicit false

/-!
# Tensor constants

A tensor type whose rank and dimensions are known has a shape, the list of its dimensions with the
outermost one first. The checks on a constant of such a type skip what is not known and look at the
number of constituents, and at the element type, rank and dimensions of each, one after the other.
Together they ask that the constant is a list of tensors of the shape without its head, as many as
its head says.
-/
namespace Spirv.Module

variable {m : Module}

/-- Ids of integer constants that are known, with their values in order. -/
def HaveValues (m : Module) (ids : List Id) (values : List Nat) : Prop :=
  ids.map m.uint64Value? = values.map some

namespace HaveValues

variable {ids ids' : List Id} {ns ns' : List Nat}

theorem length_eq (h : m.HaveValues ids ns) : ids.length = ns.length := by
  simpa using congrArg List.length h

theorem unique (h : m.HaveValues ids ns) (h' : m.HaveValues ids ns') : ns = ns' :=
  List.map_injective_iff.mpr (fun _ _ => Option.some.inj) (h.symm.trans h')

theorem getElem?_eq (h : m.HaveValues ids ns) {k : Nat} {id : Id} (hid : ids[k]? = some id) :
    ∃ n, ns[k]? = some n ∧ m.uint64Value? id = some n := by
  have hk : (ids.map m.uint64Value?)[k]? = (ns.map some)[k]? := by rw [h]
  rw [List.getElem?_map, List.getElem?_map, hid, Option.map_some] at hk
  cases hn : ns[k]? with
  | none => simp [hn] at hk
  | some n =>
    rw [hn, Option.map_some] at hk
    exact ⟨n, rfl, Option.some.inj hk⟩

theorem of_cons {id : Id} {n : Nat} (h : m.HaveValues (id :: ids) (n :: ns)) :
    m.uint64Value? id = some n ∧ m.HaveValues ids ns := by
  rw [HaveValues, List.map_cons, List.map_cons] at h
  exact List.cons.inj h

end HaveValues

theorem opcode_of_isShapedTensor {type : Instruction} (h : type.isShapedTensor = true) :
    type.opcode = .typeTensorARM := by
  rw [Instruction.isShapedTensor, Bool.and_eq_true, beq_iff_eq] at h
  exact h.1

/-- A tensor type of known dimensions, outermost first. The rank says how many there are, and the
constituents of the shape, which follow its type and its result id, have them as values. -/
structure IsTensorOf (m : Module) (type : Instruction) (element : Id) (dims : List Nat) : Prop where
  shaped : type.isShapedTensor = true
  element_eq : type.operand 1 = some element
  rank : ∃ rank, type.operand 2 = some rank ∧ m.uint64Value? rank = some dims.length
  shape : ∃ id shape, type.operand 3 = some id ∧ m.definition? id = some shape ∧
    shape.opcode.isCompositeConstant = true ∧
    m.HaveValues (shape.operandsFrom 2) dims

namespace IsTensorOf

variable {type : Instruction} {element element' : Id} {dims dims' : List Nat}

theorem opcode (h : m.IsTensorOf type element dims) : type.opcode = .typeTensorARM :=
  opcode_of_isShapedTensor h.shaped

theorem rank_bind (h : m.IsTensorOf type element dims) :
    (type.operand 2).bind m.uint64Value? = some dims.length := by
  obtain ⟨rank, hrank, hvalue⟩ := h.rank
  rw [hrank, Option.bind_some, hvalue]

theorem unique (h : m.IsTensorOf type element dims) (h' : m.IsTensorOf type element' dims') :
    element = element' ∧ dims = dims' := by
  obtain ⟨id, shape, hid, hdef, -, hdims⟩ := h.shape
  obtain ⟨id', shape', hid', hdef', -, hdims'⟩ := h'.shape
  obtain rfl := Option.some.inj (hid.symm.trans hid')
  obtain rfl := Option.some.inj (hdef.symm.trans hdef')
  exact ⟨Option.some.inj (h.element_eq.symm.trans h'.element_eq), hdims.unique hdims'⟩

end IsTensorOf

theorem HasConstantType.unique {c t t' : Id} {type type' : Instruction}
    (h : m.HasConstantType c t type) (h' : m.HasConstantType c t' type') :
    t = t' ∧ type = type' := by
  obtain ⟨i, hi, -, ht, htype⟩ := h
  obtain ⟨i', hi', -, ht', htype'⟩ := h'
  obtain rfl := Option.some.inj (hi.symm.trans hi')
  obtain rfl := Option.some.inj (ht.symm.trans ht')
  exact ⟨rfl, Option.some.inj (htype.symm.trans htype')⟩

theorem typePart_of_definition {type i : Instruction} {k : Nat} {id : Id}
    (hid : type.operand k = some id) (hdef : m.definition? id = some i) (part : TypePart) :
    m.typePart type k part = .ok (id, i) := by
  simp only [typePart, Instruction.operandOrZero, hid, Option.getD_some, hdef]

theorem typePart_eq_ok_iff (hm : m.Indexed) {type d : Instruction} {k : Nat} {part : TypePart}
    {id : Id} :
    m.typePart type k part = .ok (id, d) ↔ type.operand k = some id ∧ m.definition? id = some d := by
  refine ⟨fun h => ?_, fun h => typePart_of_definition h.1 h.2 part⟩
  rw [typePart] at h
  cases hd : m.definition? (type.operandOrZero k) with
  | none => simp [hd] at h
  | some d' =>
    obtain ⟨id', hid, hdef⟩ := hm.definition?_operandOrZero.mp hd
    simp only [hd, Except.ok.injEq, Prod.mk.injEq] at h
    obtain ⟨rfl, rfl⟩ := h
    simp only [Instruction.operandOrZero, hid, Option.getD_some, hdef, and_self]

/-- A dimension is compared where it is known on both sides. -/
theorem checkDimension_iff {c actual expected : Id} {k : Nat} :
    m.checkDimension c actual expected k = .ok () ↔
      ∀ a e, m.uint64Value? actual = some a → m.uint64Value? expected = some e → a = e := by
  rw [checkDimension]
  cases m.uint64Value? actual <;> cases m.uint64Value? expected <;> simp [require_eq_ok_iff]

theorem checkDimension_eq_ok_iff {actual expected : Id} {a e : Nat}
    (ha : m.uint64Value? actual = some a) (he : m.uint64Value? expected = some e) (id : Id)
    (k : Nat) : m.checkDimension id actual expected k = .ok () ↔ a = e := by
  simp only [checkDimension_iff, ha, he, Option.some.injEq, forall_eq', forall_apply_eq_imp_iff]

theorem checkDimensions_eq_ok_iff {actual expected : List Id} {ds es : List Nat}
    (hactual : m.HaveValues actual ds) (hexpected : m.HaveValues expected es)
    (hlen : ds.length = es.length) (id : Id) :
    (∀ k a e, actual[k]? = some a → expected[k]? = some e →
      m.checkDimension id a e k = .ok ()) ↔ ds = es := by
  have hda := hactual.length_eq
  have hee := hexpected.length_eq
  constructor
  · intro hall
    refine List.ext_getElem hlen fun k hk hk' => ?_
    have ha := List.getElem?_eq_getElem (show k < actual.length by omega)
    have he := List.getElem?_eq_getElem (show k < expected.length by omega)
    obtain ⟨d, hd, hvd⟩ := hactual.getElem?_eq ha
    obtain ⟨e, hn, hve⟩ := hexpected.getElem?_eq he
    have hde : d = e := (checkDimension_eq_ok_iff hvd hve id k).mp (hall k _ _ ha he)
    rw [List.getElem_eq_iff, hd, hde, ← hn, List.getElem?_eq_getElem hk']
  · rintro rfl k a e ha he
    obtain ⟨d, hd, hvd⟩ := hactual.getElem?_eq ha
    obtain ⟨d', hd', hvd'⟩ := hexpected.getElem?_eq he
    exact (checkDimension_eq_ok_iff hvd hvd' id k).mpr (Option.some.inj (hd.symm.trans hd'))

theorem checkShape_of_definition {shape tensor inner : Instruction} {s : Id}
    (hs : tensor.operand 3 = some s) (hinner : m.definition? s = some inner) (id : Id)
    (index : Nat) :
    m.checkShape shape id index tensor = .ok () ↔
      ∀ k a e, (inner.operandsFrom 2)[k]? = some a → (shape.operandsFrom 3)[k]? = some e →
        m.checkDimension id a e k = .ok () := by
  simp only [checkShape, hs, hinner, requireEach_eq_ok_iff, Prod.forall,
    List.mem_zipIdx_iff_getElem?, List.getElem?_zip_eq_some, and_imp]
  exact ⟨fun hall k a e => hall a e k, fun hall a e k => hall k a e⟩

/-- Dimensions that are all known agree in order, if there are as many on both sides. Without that
only a common prefix is compared. -/
theorem checkShape_eq_ok_iff {shape tensor : Instruction} {element : Id} {ds dims : List Nat}
    (htensor : m.IsTensorOf tensor element dims) (hshape : m.HaveValues (shape.operandsFrom 3) ds)
    (hlen : dims.length = ds.length) (id : Id) (index : Nat) :
    m.checkShape shape id index tensor = .ok () ↔ dims = ds := by
  obtain ⟨s, inner, hs, hinner, -, hdims⟩ := htensor.shape
  rw [checkShape_of_definition hs hinner, checkDimensions_eq_ok_iff hdims hshape hlen]

theorem checkSubtensor_eq_ok_iff {shape tensor : Instruction} {element e : Id}
    {ds dims : List Nat} (htensor : m.IsTensorOf tensor e dims)
    (hshape : m.HaveValues (shape.operandsFrom 3) ds) (id : Id) (index : Nat) :
    m.checkSubtensor element (ds.length + 1) shape id index tensor = .ok () ↔
      m.IsTensorOf tensor element ds := by
  simp only [checkSubtensor, then_eq_ok_iff, require_eq_ok_iff, beq_iff_eq, htensor.opcode,
    htensor.element_eq, htensor.rank_bind, Option.all_some, Option.some.injEq, true_and,
    Nat.add_right_cancel_iff]
  constructor
  · rintro ⟨rfl, hlen, hdims⟩
    rwa [(checkShape_eq_ok_iff htensor hshape hlen id index).mp hdims] at htensor
  · intro h
    obtain ⟨rfl, rfl⟩ := htensor.unique h
    exact ⟨rfl, rfl, (checkShape_eq_ok_iff htensor hshape rfl id index).mpr rfl⟩

theorem checkTensorConstituent_eq_ok_iff {shape type : Instruction} {element t e c : Id}
    {ds dims : List Nat} (hds : ds ≠ []) (hc : m.HasConstantType c t type)
    (htensor : m.IsTensorOf type e dims)
    (hshape : m.HaveValues (shape.operandsFrom 3) ds) (index : Nat) :
    m.checkTensorConstituent element (ds.length + 1) shape c index = .ok () ↔
      m.IsTensorOf type element ds := by
  have htype := (constituentType_eq_ok_iff m c t type).mpr hc
  rw [← checkSubtensor_eq_ok_iff htensor hshape c index]
  -- the rank of a tensor of tensors is neither unknown nor that of a row of elements
  obtain ⟨n, hn⟩ : ∃ n, ds.length = n + 1 :=
    Nat.exists_eq_succ_of_ne_zero fun h => hds (List.length_eq_zero_iff.mp h)
  simp only [checkTensorConstituent, htype, hn, bind, Except.bind]

/-- The first constituent of a shape has the outermost dimension as its value, the ones after it
have the others. -/
theorem values_of_shape {shape : Instruction} {d : Nat} {ds : List Nat}
    (h : m.HaveValues (shape.operandsFrom 2) (d :: ds)) :
    (shape.operand 2).bind m.uint64Value? = some d ∧
      m.HaveValues (shape.operandsFrom 3) ds := by
  have hcons : shape.operandsFrom 3 = (shape.operandsFrom 2).tail := by
    simp only [Instruction.operandsFrom, List.tail_drop]
  have hhead : shape.operand 2 = (shape.operandsFrom 2).head? := by
    simp only [Instruction.operandsFrom, Instruction.operand, List.head?_drop]
  rw [hcons, hhead]
  cases hwords : shape.operandsFrom 2 with
  | nil => simpa [hwords] using h.length_eq
  | cons outermost rest =>
    rw [hwords] at h
    exact h.of_cons

/-- A constant of a tensor type of rank 2 or higher is made of as many tensors as the outermost
dimension says, each with the element type and the other dimensions of the constant's own type. -/
theorem checkTensor_eq_ok_iff {type definition : Instruction} {element : Id} {d : Nat}
    {ds : List Nat} (htype : m.IsTensorOf type element (d :: ds)) (hds : ds ≠ [])
    (helement : m.definition? element = some definition) {cs : List Id}
    (hcs : ∀ c ∈ cs, ∃ t tensor e dims, m.HasConstantType c t tensor ∧
      m.IsTensorOf tensor e dims) :
    m.checkTensor type cs = .ok () ↔
      cs.length = d ∧ ∀ c ∈ cs, ∃ t tensor, m.HasConstantType c t tensor ∧
        m.IsTensorOf tensor element ds := by
  obtain ⟨rank, hrank, hvalue⟩ := htype.rank
  obtain ⟨id, shape, hid, hshape, -, hdims⟩ := htype.shape
  obtain ⟨houtermost, hrest⟩ := values_of_shape hdims
  obtain ⟨rankDefinition, hrankDefinition⟩ := definition?_of_uint64Value? hvalue
  have hvisited : ∀ c ∈ cs, ∀ index,
      m.checkTensorConstituent element (ds.length + 1) shape c index = .ok () ↔
        ∃ t tensor, m.HasConstantType c t tensor ∧ m.IsTensorOf tensor element ds := by
    intro c hc index
    obtain ⟨t, tensor, e, dims, htensorType, htensor⟩ := hcs c hc
    rw [checkTensorConstituent_eq_ok_iff hds htensorType htensor hrest index]
    constructor
    · exact fun h => ⟨t, tensor, htensorType, h⟩
    · rintro ⟨t', tensor', htensorType', h⟩
      rwa [← (htensorType.unique htensorType').2] at h
  simp only [checkTensor, bind_eq_ok_iff, typePart_of_definition htype.element_eq helement,
    typePart_of_definition hrank hrankDefinition, typePart_of_definition hid hshape,
    Except.ok.injEq, exists_eq_left', require_eq_ok_iff, requireEach_eq_ok_iff, houtermost, hvalue,
    Option.all_some, Option.getD_some, beq_iff_eq, List.length_cons, exists_const]
  refine and_congr eq_comm ⟨fun hall c hc => ?_, ?_⟩
  · obtain ⟨index, hindex⟩ := List.mem_iff_getElem?.mp hc
    exact (hvisited c hc index).mp (hall (c, index) (List.mem_zipIdx_iff_getElem?.mpr hindex))
  · rintro hall ⟨c, index⟩ hc
    have hmem : c ∈ cs := List.fst_mem_of_mem_zipIdx hc
    exact (hvisited c hmem index).mpr (hall c hmem)

theorem checkComposite_of_isTensorOf (hm : m.Indexed) {i type : Instruction} {element : Id}
    {dims : List Nat} (htype : m.typeDefinition? i = some type)
    (htensor : m.IsTensorOf type element dims) :
    m.checkComposite i = (m.checkTensor type (i.operandsFrom 2)).mapError .composite := by
  rw [checkComposite_of_type hm htype (by rw [htensor.shaped, Bool.or_true])]
  simp only [checkConstituents, htensor.opcode]

/-- A composite constant of a tensor type of rank 2 or higher, made of constants of tensor types,
passes its rule exactly if it has the shape of its type. -/
theorem tensorConstant_iff {v : Version} {addressing : AddressingModel} {is : List Instruction}
    (hbuild : build v addressing is = .ok m) {i type definition : Instruction} {element : Id}
    {d : Nat} {ds : List Nat} (htype : m.typeDefinition? i = some type)
    (htensor : m.IsTensorOf type element (d :: ds)) (hds : ds ≠ [])
    (helement : m.definition? element = some definition)
    (hconstituents : ∀ c ∈ i.operandsFrom 2, ∃ t tensor e dims,
      m.HasConstantType c t tensor ∧ m.IsTensorOf tensor e dims) :
    m.checkComposite i = .ok () ↔
      (i.operandsFrom 2).length = d ∧ ∀ c ∈ i.operandsFrom 2, ∃ t tensor,
        m.HasConstantType c t tensor ∧ m.IsTensorOf tensor element ds := by
  rw [checkComposite_of_isTensorOf (indexed_of_build hbuild) htype htensor, mapError_eq_ok_iff]
  exact checkTensor_eq_ok_iff htensor hds helement hconstituents

def twoRows : List Instruction :=
  [.ofOpcode .typeInt [1, 32, 0], .ofOpcode .constant [1, 2, 1], .ofOpcode .constant [1, 3, 2],
    .ofOpcode .constant [1, 4, 3], .ofOpcode .typeArray [5, 1, 3], .ofOpcode .typeArray [6, 1, 2],
    .ofOpcode .constantComposite [5, 7, 3, 4], .ofOpcode .constantComposite [6, 8, 4],
    .ofOpcode .typeTensorARM [9, 1, 3, 7], .ofOpcode .typeTensorARM [10, 1, 2, 8],
    .ofOpcode .constantComposite [10, 11, 2, 3, 4], .ofOpcode .constantComposite [9, 12, 11, 11]]

def twoRowsModule : Module := assemble .v1_6 .logical (place twoRows)

theorem twoRows_hasShape :
    build .v1_6 .logical twoRows = .ok twoRowsModule ∧
      ∃ i type, twoRowsModule.instruction? 11 = some i ∧
        twoRowsModule.typeDefinition? i = some type ∧
        twoRowsModule.IsTensorOf type 1 [2, 3] ∧ (i.operandsFrom 2).length = 2 ∧
        twoRowsModule.checkComposite i = .ok () := by
  have hbuild : build .v1_6 .logical twoRows = .ok twoRowsModule := rfl
  let i := twoRowsModule.instructions[11]
  let row := twoRowsModule.instructions[10]
  let rowType := twoRowsModule.instructions[9]
  let type := twoRowsModule.instructions[8]
  have htensor : twoRowsModule.IsTensorOf type 1 [2, 3] :=
    ⟨rfl, rfl, ⟨3, rfl, rfl⟩, 7, twoRowsModule.instructions[6], rfl, rfl, rfl, rfl⟩
  have hrow : twoRowsModule.IsTensorOf rowType 1 [3] :=
    ⟨rfl, rfl, ⟨2, rfl, rfl⟩, 8, twoRowsModule.instructions[7], rfl, rfl, rfl, rfl⟩
  have hconstant : twoRowsModule.HasConstantType 11 10 rowType := ⟨row, rfl, rfl, rfl, rfl⟩
  have hrows : ∀ c ∈ i.operandsFrom 2, ∃ t tensor, twoRowsModule.HasConstantType c t tensor ∧
      twoRowsModule.IsTensorOf tensor 1 [3] := by
    intro c hc
    have hc : c ∈ [11, 11] := hc
    obtain rfl : c = 11 := by simpa using hc
    exact ⟨10, rowType, hconstant, hrow⟩
  have hconstituents : ∀ c ∈ i.operandsFrom 2, ∃ t tensor e dims,
      twoRowsModule.HasConstantType c t tensor ∧ twoRowsModule.IsTensorOf tensor e dims := by
    intro c hc
    obtain ⟨t, tensor, ht, htensor⟩ := hrows c hc
    exact ⟨t, tensor, 1, [3], ht, htensor⟩
  have htype : twoRowsModule.typeDefinition? i = some type := rfl
  have helement : twoRowsModule.definition? 1 = some twoRowsModule.instructions[0] := rfl
  have haccepted := (tensorConstant_iff hbuild htype htensor (by decide) helement
    hconstituents).mpr ⟨rfl, hrows⟩
  exact ⟨hbuild, i, type, rfl, htype, htensor, rfl, haccepted⟩

end Spirv.Module
