import Spirv.Proofs.Composite.Verdict
import Spirv.Rule.Constant

set_option autoImplicit false

/-!
# The table of composite constants

Per kind of result type: the number of constituents and the type of each of them. The rule for
composite constants accepts what the table allows, and otherwise cites the first constituent that
the table does not allow.
-/
namespace Spirv.Module

def HasConstantType (m : Module) (id t : Id) (type : Instruction) : Prop :=
  ∃ i, m.definition? id = some i ∧ i.opcode.isConstantOrUndef = true ∧ i.typeId = some t ∧
    m.definition? t = some type

/-- What the result type has to be for `n` constituents. -/
def ShapeFits (m : Module) (type : Instruction) (n : Nat) : Prop :=
  match type.opcode with
  | .typeVector =>
    (∀ count, type.operand 2 = some count → count.toNat = n) ∧
      ∃ component d, type.operand 1 = some component ∧ m.definition? component = some d
  | .typeCooperativeVectorNV =>
    (∀ length count, type.operand 2 = some length → m.int32Value length = .known count →
      count.toNat = n) ∧
      ∃ component d, type.operand 1 = some component ∧ m.definition? component = some d
  | .typeMatrix =>
    (∃ count, type.operand 2 = some count ∧ count.toNat = n) ∧
      ∃ columnType column, type.operand 1 = some columnType ∧
        m.definition? columnType = some column ∧
        ∃ component d, column.operand 1 = some component ∧ m.definition? component = some d
  | .typeArray =>
    ∃ element d, type.operand 1 = some element ∧ m.definition? element = some d ∧
      ∃ length l, type.operand 2 = some length ∧ m.definition? length = some l ∧
        ∀ count, m.int32Value length = .known count → count.toNat = n
  | .typeStruct => (type.operandsFrom 1).length = n
  | .typeCooperativeMatrixNV | .typeCooperativeMatrixKHR =>
    ∃ component d, type.operand 1 = some component ∧ m.definition? component = some d ∧ n = 1
  | _ => False

/-- What the constituent at an index has to be. The columns of a matrix need not have its column
type, but a type of the same shape. -/
def ConstituentFits (m : Module) (type : Instruction) (k : Nat) (id : Id) : Prop :=
  ∃ t d, m.HasConstantType id t d ∧
    match type.opcode with
    | .typeStruct => (type.operandsFrom 1)[k]? = some t
    | .typeMatrix =>
      ∃ columnType column, type.operand 1 = some columnType ∧
        m.definition? columnType = some column ∧ d.opcode = column.opcode ∧
        d.operand 1 = column.operand 1 ∧ d.operand 2 = column.operand 2
    | _ => type.operand 1 = some t

theorem constituentType_eq_ok_iff (m : Module) (id t : Id) (type : Instruction) :
    m.constituentType id = .ok (t, type) ↔ m.HasConstantType id t type := by
  rw [constituentType, HasConstantType]
  cases hi : m.definition? id with
  | none => simp
  | some i =>
    simp only [Option.some.injEq, exists_eq_left', Option.filter_some]
    by_cases hop : i.opcode.isConstantOrUndef = true
    · cases ht : i.typeId with
      | none => simp [hop, ht]
      | some t' =>
        cases hd : m.definition? t' with
        | none =>
          simp only [hop, ↓reduceIte, ht, hd, reduceCtorEq, Option.some.injEq, true_and,
            false_iff]
          rintro ⟨rfl, hd'⟩
          rw [hd] at hd'
          contradiction
        | some d =>
          simp only [hop, ↓reduceIte, ht, hd, Except.ok.injEq, Prod.mk.injEq, Option.some.injEq,
            true_and]
          constructor
          · rintro ⟨rfl, rfl⟩
            exact ⟨rfl, hd⟩
          · rintro ⟨rfl, hd'⟩
            exact ⟨rfl, Option.some.inj (hd.symm.trans hd')⟩
    · simp [hop]

theorem fault_of_constituentType {m : Module} {id : Id} {f : CompositeFault}
    (h : m.constituentType id = .error f) : f = .notConstant id ∨ f = .undefinedType id := by
  unfold constituentType at h
  split at h
  · exact Or.inl (Except.error.inj h).symm
  · split at h
    · exact Or.inr (Except.error.inj h).symm
    · split at h
      · exact Or.inr (Except.error.inj h).symm
      · contradiction

theorem constituent?_of_constituentType {m : Module} {id : Id} {f : CompositeFault}
    (h : m.constituentType id = .error f) : f.constituent? = some id := by
  rcases fault_of_constituentType h with rfl | rfl <;> rfl

theorem checkConstituent_eq_ok_iff (m : Module) (expected : Id) (role : ConstituentRole) (id : Id) :
    m.checkConstituent expected role id = .ok () ↔ ∃ d, m.HasConstantType id expected d := by
  rw [checkConstituent, bind_eq_ok_iff]
  constructor
  · rintro ⟨⟨t, d⟩, htype, heq⟩
    obtain rfl : t = expected := eq_of_beq (require_eq_ok_iff.mp heq)
    exact ⟨d, (constituentType_eq_ok_iff m id t d).mp htype⟩
  · rintro ⟨d, htype⟩
    exact ⟨(expected, d), (constituentType_eq_ok_iff m id expected d).mpr htype,
      require_eq_ok_iff.mpr (beq_self_eq_true expected)⟩

theorem constituent?_of_checkConstituent {m : Module} {expected : Id} {role : ConstituentRole}
    {id : Id} {f : CompositeFault} (h : m.checkConstituent expected role id = .error f) :
    f.constituent? = some id := by
  rcases bind_eq_error_iff.mp h with htype | ⟨_, -, hrequire⟩
  · exact constituent?_of_constituentType htype
  · obtain ⟨-, rfl⟩ := require_eq_error_iff.mp hrequire
    rfl

theorem checkColumn_eq_ok_iff (m : Module) (column : Instruction) (component id : Id) :
    m.checkColumn column component id = .ok () ↔
      ∃ t d, m.HasConstantType id t d ∧ d.opcode = column.opcode ∧
        d.operand 1 = some component ∧ d.operand 2 = column.operand 2 := by
  simp only [checkColumn, bind_eq_ok_iff, Prod.exists, constituentType_eq_ok_iff,
    require_eq_ok_iff, beq_iff_eq, exists_const]

theorem constituent?_of_checkColumn {m : Module} {column : Instruction} {component id : Id}
    {f : CompositeFault} (h : m.checkColumn column component id = .error f) :
    f.constituent? = some id := by
  rcases bind_eq_error_iff.mp h with htype | ⟨⟨t, d⟩, -, h⟩
  · exact constituent?_of_constituentType htype
  rcases bind_eq_error_iff.mp h with hrequire | ⟨_, -, h⟩
  · obtain ⟨-, rfl⟩ := require_eq_error_iff.mp hrequire
    rfl
  rcases bind_eq_error_iff.mp h with hrequire | ⟨_, -, h⟩
  · obtain ⟨-, rfl⟩ := require_eq_error_iff.mp hrequire
    rfl
  obtain ⟨-, rfl⟩ := require_eq_error_iff.mp h
  rfl

theorem constituentFits_iff {m : Module} {type : Instruction} (hstruct : type.opcode ≠ .typeStruct)
    (hmatrix : type.opcode ≠ .typeMatrix) (k : Nat) (id : Id) :
    m.ConstituentFits type k id ↔ ∃ t d, m.HasConstantType id t d ∧ type.operand 1 = some t := by
  rw [ConstituentFits]
  split
  · contradiction
  · contradiction
  · exact Iff.rfl

theorem constituentFits_struct_iff {m : Module} {type : Instruction}
    (hop : type.opcode = .typeStruct) (k : Nat) (id : Id) :
    m.ConstituentFits type k id ↔
      ∃ t d, m.HasConstantType id t d ∧ (type.operandsFrom 1)[k]? = some t := by
  rw [ConstituentFits, hop]

theorem constituentFits_matrix_iff {m : Module} {type : Instruction}
    (hop : type.opcode = .typeMatrix) {columnType : Id} {column : Instruction}
    (hcolumn : type.operand 1 = some columnType) (hdef : m.definition? columnType = some column)
    (k : Nat) (id : Id) :
    m.ConstituentFits type k id ↔
      ∃ t d, m.HasConstantType id t d ∧ d.opcode = column.opcode ∧
        d.operand 1 = column.operand 1 ∧ d.operand 2 = column.operand 2 := by
  simp only [ConstituentFits, hop, hcolumn, Option.some.injEq, exists_and_left, exists_eq_left',
    hdef]

theorem exists_hasConstantType_iff (m : Module) (id expected : Id) :
    (∃ d, m.HasConstantType id expected d) ↔
      ∃ t d, m.HasConstantType id t d ∧ some expected = some t := by
  constructor
  · rintro ⟨d, hd⟩
    exact ⟨expected, d, hd, rfl⟩
  · rintro ⟨t, d, hd, ht⟩
    obtain rfl := Option.some.inj ht
    exact ⟨d, hd⟩

theorem elements_verdict {m : Module} {type : Instruction} {element : Id}
    (helement : type.operand 1 = some element) (hstruct : type.opcode ≠ .typeStruct)
    (hmatrix : type.opcode ≠ .typeMatrix) (role : ConstituentRole) (cs : List Id) :
    Verdict True (m.ConstituentFits type) cs
      (requireEach (m.checkConstituent element role) cs) := by
  refine Verdict.requireEach id (List.map_id cs) (fun k c _ => ?_)
    fun c f hf => constituent?_of_checkConstituent hf
  rw [checkConstituent_eq_ok_iff, constituentFits_iff hstruct hmatrix, helement]
  exact exists_hasConstantType_iff m c element

theorem members_verdict {m : Module} {type : Instruction} (hop : type.opcode = .typeStruct)
    {cs : List Id} (hlen : (type.operandsFrom 1).length = cs.length) :
    Verdict True (m.ConstituentFits type) cs
      (requireEach (fun (id, member) => m.checkConstituent member .structMember id)
        (cs.zip (type.operandsFrom 1))) := by
  refine Verdict.requireEach Prod.fst (List.map_fst_zip (by omega)) ?_
    fun c f hf => constituent?_of_checkConstituent hf
  rintro k ⟨c, member⟩ hk
  obtain ⟨-, hmember⟩ := List.getElem?_zip_eq_some.mp hk
  rw [checkConstituent_eq_ok_iff, constituentFits_struct_iff hop, hmember]
  exact exists_hasConstantType_iff m c member

theorem known?_all_iff (value : Int32Value) (n : Nat) :
    value.known?.all (·.toNat == n) = true ↔ ∀ count, value = .known count → count.toNat = n := by
  cases value <;> simp [Int32Value.known?]

theorem vectorCount?_all_iff {m : Module} (hm : m.Indexed) {type : Instruction}
    (hop : type.opcode = .typeCooperativeVectorNV) (n : Nat) :
    (m.vectorCount? type).all (·.toNat == n) = true ↔
      ∀ length count, type.operand 2 = some length → m.int32Value length = .known count →
        count.toNat = n := by
  simp only [vectorCount?, hop, beq_self_eq_true, ↓reduceIte, known?_all_iff]
  cases hlength : type.operand 2 with
  | none =>
    have hzero : m.int32Value 0 = .otherType := by rw [int32Value, hm.definition?_zero]
    simp [Instruction.operandOrZero, hlength, hzero]
  | some length =>
    rw [Instruction.operandOrZero, hlength, Option.getD_some]
    constructor
    · intro h length' count hl hcount
      obtain rfl := Option.some.inj hl
      exact h count hcount
    · exact fun h count => h length count rfl

theorem checkVector_verdict {m : Module} (hm : m.Indexed) {type : Instruction}
    (hop : type.opcode = .typeVector ∨ type.opcode = .typeCooperativeVectorNV) (cs : List Id) :
    Verdict (m.ShapeFits type cs.length) (m.ConstituentFits type) cs (m.checkVector type cs) := by
  have hstruct : type.opcode ≠ .typeStruct := by rcases hop with h | h <;> rw [h] <;> decide
  have hmatrix : type.opcode ≠ .typeMatrix := by rcases hop with h | h <;> rw [h] <;> decide
  have h : Verdict ((m.vectorCount? type).all (·.toNat == cs.length) = true ∧
      ∃ component d, type.operand 1 = some component ∧ m.definition? component = some d ∧ True)
      (m.ConstituentFits type) cs (m.checkVector type cs) := by
    rw [checkVector]
    refine Verdict.require rfl Iff.rfl fun _ => ?_
    refine Verdict.typePart hm fun component d hcomponent _ => ?_
    exact elements_verdict hcomponent hstruct hmatrix .vectorElement cs
  refine h.congr ?_ fun _ _ _ => Iff.rfl
  rcases hop with hop | hop
  · simp only [ShapeFits, hop, vectorCount?, and_true]
    cases type.operand 2 <;> simp
  · simp only [ShapeFits, hop, vectorCount?_all_iff hm hop, and_true]

theorem checkMatrix_verdict {m : Module} (hm : m.Indexed) {type : Instruction}
    (hop : type.opcode = .typeMatrix) (cs : List Id) :
    Verdict (m.ShapeFits type (cs.length % UInt32.size)) (m.ConstituentFits type) cs
      (m.checkMatrix type cs) := by
  have hcount : (type.operand 2 == some (UInt32.ofNat cs.length)) = true ↔
      ∃ count, type.operand 2 = some count ∧ count.toNat = cs.length % UInt32.size := by
    rw [beq_iff_eq]
    constructor
    · intro h
      exact ⟨_, h, UInt32.toNat_ofNat'⟩
    · rintro ⟨count, h, hc⟩
      rw [h, Option.some.injEq, ← UInt32.toNat_inj, hc, UInt32.toNat_ofNat']
  have h : Verdict ((∃ count, type.operand 2 = some count ∧
        count.toNat = cs.length % UInt32.size) ∧
      ∃ columnType column, type.operand 1 = some columnType ∧
        m.definition? columnType = some column ∧
        ∃ component d, column.operand 1 = some component ∧ m.definition? component = some d ∧ True)
      (m.ConstituentFits type) cs (m.checkMatrix type cs) := by
    rw [checkMatrix]
    refine Verdict.require rfl hcount fun _ => ?_
    refine Verdict.typePart hm fun columnType column hcolumn hdef => ?_
    refine Verdict.typePart hm fun component d hcomponent _ => ?_
    refine Verdict.requireEach id (List.map_id cs) (fun k c _ => ?_)
      fun c f hf => constituent?_of_checkColumn hf
    rw [checkColumn_eq_ok_iff, constituentFits_matrix_iff hop hcolumn hdef, hcomponent, id]
  exact h.congr (by simp only [ShapeFits, hop, and_true]) fun _ _ _ => Iff.rfl

theorem checkArray_verdict {m : Module} (hm : m.Indexed) {type : Instruction}
    (hop : type.opcode = .typeArray) (cs : List Id) :
    Verdict (m.ShapeFits type cs.length) (m.ConstituentFits type) cs (m.checkArray type cs) := by
  have hstruct : type.opcode ≠ .typeStruct := by rw [hop]; decide
  have hmatrix : type.opcode ≠ .typeMatrix := by rw [hop]; decide
  have h : Verdict (∃ element d, type.operand 1 = some element ∧ m.definition? element = some d ∧
      ∃ length l, type.operand 2 = some length ∧ m.definition? length = some l ∧
        (∀ count, m.int32Value length = .known count → count.toNat = cs.length) ∧ True)
      (m.ConstituentFits type) cs (m.checkArray type cs) := by
    rw [checkArray]
    refine Verdict.typePart hm fun element d helement _ => ?_
    refine Verdict.typePart hm fun length l hlength _ => ?_
    refine Verdict.require rfl (known?_all_iff _ _) fun _ => ?_
    exact elements_verdict helement hstruct hmatrix .arrayElement cs
  exact h.congr (by simp only [ShapeFits, hop, and_true]) fun _ _ _ => Iff.rfl

theorem checkStruct_verdict {m : Module} {type : Instruction} (hop : type.opcode = .typeStruct)
    (cs : List Id) :
    Verdict (m.ShapeFits type cs.length) (m.ConstituentFits type) cs (m.checkStruct type cs) := by
  have h : Verdict ((type.operandsFrom 1).length = cs.length ∧ True) (m.ConstituentFits type) cs
      (m.checkStruct type cs) := by
    rw [checkStruct]
    exact Verdict.require rfl beq_iff_eq fun hlen => members_verdict hop hlen
  exact h.congr (by simp only [ShapeFits, hop, and_true]) fun _ _ _ => Iff.rfl

theorem single_verdict {m : Module} {type : Instruction} {component : Id}
    (hcomponent : type.operand 1 = some component) (hstruct : type.opcode ≠ .typeStruct)
    (hmatrix : type.opcode ≠ .typeMatrix) (cs : List Id) :
    Verdict (cs.length = 1) (m.ConstituentFits type) cs
      (match cs with
        | [id] => m.checkConstituent component .matrixComponent id
        | _ => .error (.notSingle cs.length)) := by
  match cs with
  | [] => exact .misshapen _ rfl (by simp)
  | _ :: _ :: _ => exact .misshapen _ rfl (by simp)
  | [c] =>
    have h := elements_verdict (m := m) hcomponent hstruct hmatrix .matrixComponent [c]
    have heach : requireEach (m.checkConstituent component .matrixComponent) [c] =
        m.checkConstituent component .matrixComponent c := by
      rw [requireEach]
      cases m.checkConstituent component .matrixComponent c <;> rfl
    rw [heach] at h
    exact h.congr (by simp) fun _ _ _ => Iff.rfl

theorem checkCooperativeMatrix_verdict {m : Module} (hm : m.Indexed) {type : Instruction}
    (hop : type.opcode = .typeCooperativeMatrixNV ∨ type.opcode = .typeCooperativeMatrixKHR)
    (cs : List Id) :
    Verdict (m.ShapeFits type cs.length) (m.ConstituentFits type) cs
      (m.checkCooperativeMatrix type cs) := by
  have hstruct : type.opcode ≠ .typeStruct := by rcases hop with h | h <;> rw [h] <;> decide
  have hmatrix : type.opcode ≠ .typeMatrix := by rcases hop with h | h <;> rw [h] <;> decide
  have h : Verdict (∃ component d, type.operand 1 = some component ∧
      m.definition? component = some d ∧ cs.length = 1) (m.ConstituentFits type) cs
      (m.checkCooperativeMatrix type cs) := by
    rw [checkCooperativeMatrix]
    refine Verdict.typePart hm fun component d hcomponent _ => ?_
    exact single_verdict hcomponent hstruct hmatrix cs
  refine h.congr ?_ fun _ _ _ => Iff.rfl
  rcases hop with hop | hop <;> simp only [ShapeFits, hop]

/-- The number of constituents as the rules compare it. The columns of a matrix are counted in a
word, which may be too small for them. -/
def countedLength (type : Instruction) (cs : List Id) : Nat :=
  if type.opcode = .typeMatrix then cs.length % UInt32.size else cs.length

theorem countedLength_eq (type : Instruction) {cs : List Id} (hlen : cs.length < UInt32.size) :
    countedLength type cs = cs.length := by
  rw [countedLength, Nat.mod_eq_of_lt hlen, ite_self]

theorem checkConstituents_verdict {m : Module} (hm : m.Indexed) {type : Instruction}
    (hop : type.opcode.isCompositeType = true) (cs : List Id) :
    Verdict (m.ShapeFits type (countedLength type cs)) (m.ConstituentFits type) cs
      (m.checkConstituents type cs) := by
  unfold Opcode.isCompositeType at hop
  split at hop
  case h_8 => contradiction
  all_goals rename_i h; simp only [checkConstituents, countedLength, h, reduceCtorEq, ↓reduceIte]
  · exact checkVector_verdict hm (Or.inl h) cs
  · exact checkMatrix_verdict hm h cs
  · exact checkArray_verdict hm h cs
  · exact checkStruct_verdict h cs
  · exact checkCooperativeMatrix_verdict hm (Or.inl h) cs
  · exact checkCooperativeMatrix_verdict hm (Or.inr h) cs
  · exact checkVector_verdict hm (Or.inr h) cs

theorem checkComposite_of_type {m : Module} (hm : m.Indexed) {i type : Instruction}
    (htype : m.typeDefinition? i = some type)
    (hop : (type.opcode.isCompositeType || type.isShapedTensor) = true) :
    m.checkComposite i = (m.checkConstituents type (i.operandsFrom 2)).mapError .composite := by
  rw [checkComposite, hm.definition?_typeIdOrZero, htype, Option.filter_some, if_pos hop]

theorem checkComposite_of_isCompositeType {m : Module} (hm : m.Indexed) {i type : Instruction}
    (htype : m.typeDefinition? i = some type) (hop : type.opcode.isCompositeType = true) :
    m.checkComposite i = (m.checkConstituents type (i.operandsFrom 2)).mapError .composite :=
  checkComposite_of_type hm htype (by rw [hop, Bool.true_or])

theorem checkComposite_table {v : Version} {addressing : AddressingModel} {is : List Instruction}
    {m : Module} (hbuild : build v addressing is = .ok m) {i : Instruction}
    (hlen : (i.operandsFrom 2).length < UInt32.size)
    (htensor : ∀ type, m.typeDefinition? i = some type → type.isShapedTensor = false) :
    (m.checkComposite i = .ok () ↔
      ∃ type, m.typeDefinition? i = some type ∧ type.opcode.isCompositeType = true ∧
        m.ShapeFits type (i.operandsFrom 2).length ∧
        ∀ k id, (i.operandsFrom 2)[k]? = some id → m.ConstituentFits type k id) ∧
    ∀ id, (∃ f, m.checkComposite i = .error (.composite f) ∧ f.constituent? = some id ∧
        (f.ids i.typeIdOrZero).head? = some id) ↔
      ∃ type, m.typeDefinition? i = some type ∧ type.opcode.isCompositeType = true ∧
        m.ShapeFits type (i.operandsFrom 2).length ∧
        ∃ k, FirstMisfit (m.ConstituentFits type) (i.operandsFrom 2) k id := by
  have hm := indexed_of_build hbuild
  cases htype : m.typeDefinition? i with
  | none => simp [checkComposite, hm.definition?_typeIdOrZero, htype]
  | some type =>
    simp only [Option.some.injEq, exists_eq_left']
    by_cases hop : type.opcode.isCompositeType = true
    · rw [checkComposite_of_isCompositeType hm htype hop, mapError_eq_ok_iff]
      have h := checkConstituents_verdict hm hop (i.operandsFrom 2)
      rw [countedLength_eq type hlen] at h
      refine ⟨?_, fun id => ?_⟩
      · rw [h.eq_ok_iff]
        exact ⟨fun hfits => ⟨hop, hfits⟩, fun hfits => hfits.2⟩
      · constructor
        · rintro ⟨f, hf, hid, -⟩
          obtain ⟨f', hf', heq⟩ := mapError_eq_error_iff.mp hf
          obtain rfl := ConstantFault.composite.inj heq
          exact ⟨hop, (h.names_iff id).mp ⟨f', hf', hid⟩⟩
        · rintro ⟨-, hfirst⟩
          obtain ⟨f, hf, hid⟩ := (h.names_iff id).mpr hfirst
          exact ⟨f, mapError_eq_error_iff.mpr ⟨f, hf, rfl⟩, hid, CompositeFault.ids_head? hid _⟩
    · have hnone : m.checkComposite i = .error .notCompositeType := by
        rw [checkComposite, hm.definition?_typeIdOrZero, htype, Option.filter_some,
          htensor type htype]
        simp [hop]
      simp [hnone, hop]

def mixedVector : List Instruction :=
  [.ofOpcode .typeFloat [1, 32], .ofOpcode .typeVector [2, 1, 3], .ofOpcode .typeInt [3, 32, 0],
    .ofOpcode .constant [1, 4, 0], .ofOpcode .constant [3, 5, 1],
    .ofOpcode .constantComposite [2, 6, 4, 5, 5]]

def mixedVectorModule : Module := assemble .v1_6 .logical (place mixedVector)

theorem mixedVector_cites_integer :
    build .v1_6 .logical mixedVector = .ok mixedVectorModule ∧
      ∃ i type, mixedVectorModule.instruction? 5 = some i ∧
        (i.operandsFrom 2).length < UInt32.size ∧
        mixedVectorModule.typeDefinition? i = some type ∧ type.isShapedTensor = false ∧
        mixedVectorModule.ShapeFits type (i.operandsFrom 2).length ∧
        ∃ k, FirstMisfit (mixedVectorModule.ConstituentFits type) (i.operandsFrom 2) k 5 := by
  have hbuild : build .v1_6 .logical mixedVector = .ok mixedVectorModule := rfl
  let i := mixedVectorModule.instructions[5]
  have hlen : (i.operandsFrom 2).length < UInt32.size := by decide
  have htype : mixedVectorModule.typeDefinition? i = mixedVectorModule.instructions[1] := rfl
  have htensor : ∀ type, mixedVectorModule.typeDefinition? i = some type →
      type.isShapedTensor = false := by
    intro type h
    obtain rfl := Option.some.inj (htype.symm.trans h)
    rfl
  have herror : mixedVectorModule.checkComposite i =
      .error (.composite (.mismatch .vectorElement 5)) := rfl
  obtain ⟨type, htype, -, hshape, k, hk⟩ :=
    ((checkComposite_table hbuild hlen htensor).2 5).mp ⟨_, herror, rfl, rfl⟩
  exact ⟨hbuild, i, type, rfl, hlen, htype, htensor type htype, hshape, k, hk⟩

end Spirv.Module
