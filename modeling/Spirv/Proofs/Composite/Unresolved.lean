import Spirv.Proofs.Composite.Tensor
import Spirv.Proofs.Constant.Value

set_option autoImplicit false

/-!
# Sizes that are not resolved

A specialization constant that sizes the type of a composite has no value yet, and the rule for
composites has nothing to compare. An array or a cooperative vector of such a size is judged by its
constituents alone. The shape of a tensor is not asked for a value: the rule takes the words behind
its result id for the ids of the dimensions, also where the shape is no list of constituents.
-/
namespace Spirv

/-- Specialization constants that are not put together from other constants. -/
def Opcode.isUnresolvedSize : Opcode → Bool
  | .specConstantTrue | .specConstantFalse | .specConstant | .specConstantOp => true
  | _ => false

theorem Opcode.isPlainConstant_of_isUnresolvedSize {op : Opcode}
    (h : op.isUnresolvedSize = true) : op.isPlainConstant = false := by
  unfold isUnresolvedSize at h
  split at h
  case h_5 => contradiction
  all_goals rfl

def Instruction.sizeId? (type : Instruction) : Option Id :=
  match type.opcode with
  | .typeArray | .typeCooperativeVectorNV => type.operand 2
  | .typeTensorARM => if type.isShapedTensor then type.operand 3 else none
  | _ => none

def CompositeFault.isOfSize : CompositeFault → Bool
  | .count _ | .notSingle _ | .shapeDimension .. => true
  | _ => false

/-- In each front of the ids that fits, all ids agree. -/
def AgreeWhileFit (fits agrees : Id → Prop) (cs : List Id) : Prop :=
  ∀ front, front <+: cs → (∀ c ∈ front, fits c) → ∀ c ∈ front, agrees c

theorem agreeWhileFit_cons_iff {fits agrees : Id → Prop} {c : Id} {cs : List Id} :
    AgreeWhileFit fits agrees (c :: cs) ↔ (fits c → agrees c ∧ AgreeWhileFit fits agrees cs) := by
  constructor
  · intro hall hc
    have hone : ∀ d ∈ [c], agrees d :=
      hall [c] (List.prefix_append [c] cs) (List.forall_mem_singleton.mpr hc)
    refine ⟨List.forall_mem_singleton.mp hone, fun front hfront hfits => ?_⟩
    have hlonger : ∀ d ∈ c :: front, agrees d :=
      hall (c :: front) ((List.prefix_cons_inj c).mpr hfront)
        (List.forall_mem_cons.mpr ⟨hc, hfits⟩)
    exact (List.forall_mem_cons.mp hlonger).2
  · intro h front hfront hfits
    rcases List.prefix_cons_iff.mp hfront with rfl | ⟨front, rfl, hrest⟩
    · exact List.forall_mem_nil agrees
    · obtain ⟨hc, hfits⟩ := List.forall_mem_cons.mp hfits
      obtain ⟨hagrees, hall⟩ := h hc
      exact List.forall_mem_cons.mpr ⟨hagrees, hall front hrest hfits⟩

/-- What a check may answer when `fits` is asked whatever the sizes are, and `agrees` of the sizes
that are compared. -/
inductive SizeVerdict (fits agrees : Prop) : Except CompositeFault Unit → Prop where
  | accepted (hfits : fits) (hagrees : agrees) : SizeVerdict fits agrees (.ok ())
  | unfit (f : CompositeFault) (hf : f.isOfSize = false) (hfits : ¬ fits) (hagrees : agrees) :
      SizeVerdict fits agrees (.error f)
  | oversized (f : CompositeFault) (hf : f.isOfSize = true) (hagrees : ¬ agrees) :
      SizeVerdict fits agrees (.error f)

namespace SizeVerdict

variable {fits fits' agrees agrees' : Prop} {result : Except CompositeFault Unit}

theorem congr (h : SizeVerdict fits agrees result) (hf : fits ↔ fits') (ha : agrees ↔ agrees') :
    SizeVerdict fits' agrees' result := by
  rwa [← hf, ← ha]

/-- No size decides exactly if the sizes that are compared agree. -/
theorem skips_iff (h : SizeVerdict fits agrees result) :
    ((∀ f, result = .error f → f.isOfSize = false) ∧ (result = .ok () ↔ fits)) ↔ agrees := by
  cases h with
  | accepted hfits hagrees => simp [hfits, hagrees]
  | unfit f hf hfits hagrees => simp [hf, hfits, hagrees]
  | oversized f hf hagrees => simp [hf, hagrees]

theorem of_unsized (h : ∀ f, result = .error f → f.isOfSize = false) :
    SizeVerdict (result = .ok ()) True result := by
  cases result with
  | ok u => exact .accepted rfl trivial
  | error f => exact .unfit f (h f rfl) (by simp) trivial

theorem of_sized (h : ∀ f, result = .error f → f.isOfSize = true) :
    SizeVerdict True (result = .ok ()) result := by
  cases result with
  | ok u => exact .accepted trivial rfl
  | error f => exact .oversized f (h f rfl) (by simp)

/-- A step that compares no size, and a check of what it found. -/
theorem of_bind {α : Type} {fits agrees : α → Prop} {x : Except CompositeFault α}
    {rest : α → Except CompositeFault Unit} (hx : ∀ f, x = .error f → f.isOfSize = false)
    (h : ∀ a, x = .ok a → SizeVerdict (fits a) (agrees a) (rest a)) :
    SizeVerdict (∃ a, x = .ok a ∧ fits a) (∀ a, x = .ok a → agrees a) (x >>= rest) := by
  cases x with
  | ok a => exact (h a rfl).congr (by simp) (by simp)
  | error f => exact .unfit f (hx f rfl) (by simp) (by simp)

theorem of_require {f : CompositeFault} {rest : Unit → Except CompositeFault Unit} {holds : Bool}
    (hf : f.isOfSize = false) (h : holds = true → SizeVerdict fits agrees (rest ())) :
    SizeVerdict (holds = true ∧ fits) (holds = true → agrees) (require holds f >>= rest) := by
  cases holds with
  | true => exact (h rfl).congr (by simp) (by simp)
  | false => exact .unfit f hf (by simp) (by simp)

theorem of_require_size {f : CompositeFault} {rest : Unit → Except CompositeFault Unit}
    {holds : Bool} (hf : f.isOfSize = true) (h : SizeVerdict fits agrees (rest ())) :
    SizeVerdict fits (holds = true ∧ agrees) (require holds f >>= rest) := by
  cases holds with
  | true => exact h.congr Iff.rfl (by simp)
  | false => exact .oversized f hf (by simp)

/-- Sizes are compared up to the first constituent that does not fit. -/
theorem requireEach {α : Type} {check : α → Except CompositeFault Unit} {as : List α}
    {cs : List Id} {fits agrees : Id → Prop} (key : α → Id) (hkey : as.map key = cs)
    (h : ∀ a, SizeVerdict (fits (key a)) (fits (key a) → agrees (key a)) (check a)) :
    SizeVerdict (∀ c ∈ cs, fits c) (AgreeWhileFit fits agrees cs)
      (Spirv.requireEach check as) := by
  subst hkey
  induction as with
  | nil => exact .accepted (by simp) (by simp [AgreeWhileFit])
  | cons a as ih =>
    have ha := h a
    generalize hcheck : check a = verdict at ha
    rw [List.map_cons]
    cases ha with
    | unfit f hf hfits =>
      simp only [Spirv.requireEach, hcheck]
      exact .unfit f hf (fun hall => hfits (hall _ List.mem_cons_self))
        (agreeWhileFit_cons_iff.mpr fun hc => absurd hc hfits)
    | oversized f hf hagrees =>
      simp only [Spirv.requireEach, hcheck]
      exact .oversized f hf fun hall => hagrees fun hc => (agreeWhileFit_cons_iff.mp hall hc).1
    | accepted hfits hagrees =>
      simp only [Spirv.requireEach, hcheck]
      exact ih.congr (by simp [hfits]) (by simp [agreeWhileFit_cons_iff, hfits, hagrees hfits])

end SizeVerdict

namespace Module

variable {m : Module} {type size : Instruction}

/-- A composite whose type is sized by a specialization constant without a value. -/
structure HasUnresolvedSize (m : Module) (i type size : Instruction) : Prop where
  type_eq : m.typeDefinition? i = some type
  size_eq : type.sizeId?.bind m.definition? = some size
  unresolved : size.opcode.isUnresolvedSize = true

/-- The rank of a tensor as far as it is known, and 0 otherwise. Arrays and vectors are rows of
elements. -/
def rankOf (m : Module) (type : Instruction) : Nat :=
  if type.opcode = .typeTensorARM then ((type.operand 2).bind m.uint64Value?).getD 0 else 1

structure PartsDefined (m : Module) (type : Instruction) : Prop where
  element : ∃ id d, type.operand 1 = some id ∧ m.definition? id = some d
  rank : type.opcode = .typeTensorARM → ∃ id d, type.operand 2 = some id ∧ m.definition? id = some d

/-- A tensor of the same element type and of the rank below. Nothing is asked of its dimensions. -/
structure IsSubtensor (m : Module) (type tensor : Instruction) : Prop where
  opcode : tensor.opcode = .typeTensorARM
  element : tensor.operand 1 = type.operand 1
  rank : ∀ n, (tensor.operand 2).bind m.uint64Value? = some n → n + 1 = m.rankOf type
  shape : ∀ s, tensor.operand 3 = some s → ∃ d, m.definition? s = some d

def IsPart (m : Module) (type : Instruction) (t : Id) (d : Instruction) : Prop :=
  match m.rankOf type with
  | 0 => True
  | 1 => type.operand 1 = some t
  | _ => m.IsSubtensor type d

def FitsAlone (m : Module) (type : Instruction) (c : Id) : Prop :=
  ∃ t d, m.HasConstantType c t d ∧ m.IsPart type t d

/-- The dimensions of a constituent's type agree with the words of a shape behind the first one,
where both name an integer that is known. -/
def DimensionsAgree (m : Module) (shape : Instruction) (c : Id) : Prop :=
  ∀ t tensor s inner, m.HasConstantType c t tensor → tensor.operand 3 = some s →
    m.definition? s = some inner →
      ∀ (k : Nat) actual expected a e, (inner.operandsFrom 2)[k]? = some actual →
        (shape.operandsFrom 3)[k]? = some expected → m.uint64Value? actual = some a →
          m.uint64Value? expected = some e → a = e

/-- No word of a shape names an integer that the constituents contradict: the first one their
number, and the others, for a rank that has them, the dimensions of those up to the first that does
not fit. -/
structure NamesNoSize (m : Module) (type shape : Instruction) (cs : List Id) : Prop where
  outermost : ∀ n, (shape.operand 2).bind m.uint64Value? = some n → n = cs.length
  inner : 2 ≤ m.rankOf type → AgreeWhileFit (m.FitsAlone type) (m.DimensionsAgree shape) cs

/-- No size decides on a composite constant. It is accepted if the parts of its type are defined and
each constituent fits on its own. -/
structure SkipsSize (m : Module) (i type : Instruction) : Prop where
  not_isOfSize : ∀ f, m.checkComposite i = .error (.composite f) → f.isOfSize = false
  accepted_iff : m.checkComposite i = .ok () ↔
    m.PartsDefined type ∧ ∀ c ∈ i.operandsFrom 2, m.FitsAlone type c

theorem isOfSize_of_typePart {k : Nat} {part : TypePart} {f : CompositeFault}
    (h : m.typePart type k part = .error f) : f.isOfSize = false := by
  rw [typePart] at h
  split at h
  · contradiction
  · obtain rfl := Except.error.inj h
    rfl

theorem isOfSize_of_constituentType {c : Id} {f : CompositeFault}
    (h : m.constituentType c = .error f) : f.isOfSize = false := by
  rcases fault_of_constituentType h with rfl | rfl <;> rfl

theorem isOfSize_of_checkConstituent {expected c : Id} {role : ConstituentRole}
    {f : CompositeFault} (h : m.checkConstituent expected role c = .error f) :
    f.isOfSize = false := by
  rcases bind_eq_error_iff.mp h with htype | ⟨_, -, hrequire⟩
  · exact isOfSize_of_constituentType htype
  · obtain ⟨-, rfl⟩ := require_eq_error_iff.mp hrequire
    rfl

theorem int32Value_known?_eq_none {id : Id} {i : Instruction} (hdef : m.definition? id = some i)
    (hop : i.opcode.isUnresolvedSize = true) : (m.int32Value id).known? = none := by
  cases hvalue : m.int32Value id with
  | otherType => rfl
  | unknown => rfl
  | known value =>
    obtain ⟨-, j, hj, hplain, -⟩ := int32Value_eq_known_iff.mp hvalue
    obtain rfl := Option.some.inj (hdef.symm.trans hj)
    rw [Opcode.isPlainConstant_of_isUnresolvedSize hop] at hplain
    contradiction

theorem typePart_sizeVerdict (hm : m.Indexed) {k : Nat} {part : TypePart}
    {fits agrees : Id → Instruction → Prop} {rest : Id × Instruction → Except CompositeFault Unit}
    (h : ∀ id d, type.operand k = some id → m.definition? id = some d →
      SizeVerdict (fits id d) (agrees id d) (rest (id, d))) :
    SizeVerdict (∃ id d, type.operand k = some id ∧ m.definition? id = some d ∧ fits id d)
      (∀ id d, type.operand k = some id → m.definition? id = some d → agrees id d)
      (m.typePart type k part >>= rest) := by
  have hpart : SizeVerdict (∃ p, m.typePart type k part = .ok p ∧ fits p.1 p.2)
      (∀ p, m.typePart type k part = .ok p → agrees p.1 p.2) (m.typePart type k part >>= rest) := by
    refine .of_bind (fun f => isOfSize_of_typePart) fun p hp => ?_
    obtain ⟨hid, hdef⟩ := (typePart_eq_ok_iff hm).mp hp
    exact h p.1 p.2 hid hdef
  exact hpart.congr (by simp only [Prod.exists, typePart_eq_ok_iff hm, and_assoc])
    (by simp only [Prod.forall, typePart_eq_ok_iff hm, and_imp])

theorem constituentType_sizeVerdict {c : Id} {fits agrees : Id → Instruction → Prop}
    {rest : Id × Instruction → Except CompositeFault Unit}
    (h : ∀ t d, m.HasConstantType c t d → SizeVerdict (fits t d) (agrees t d) (rest (t, d))) :
    SizeVerdict (∃ t d, m.HasConstantType c t d ∧ fits t d)
      (∀ t d, m.HasConstantType c t d → agrees t d) (m.constituentType c >>= rest) := by
  have htype : SizeVerdict (∃ p, m.constituentType c = .ok p ∧ fits p.1 p.2)
      (∀ p, m.constituentType c = .ok p → agrees p.1 p.2) (m.constituentType c >>= rest) :=
    .of_bind (fun f => isOfSize_of_constituentType) fun p hp =>
      h p.1 p.2 ((constituentType_eq_ok_iff m c p.1 p.2).mp hp)
  exact htype.congr (by simp only [Prod.exists, constituentType_eq_ok_iff])
    (by simp only [Prod.forall, constituentType_eq_ok_iff])

/-- Constituents of the element type, as arrays and cooperative vectors ask for. -/
theorem elements_sizeVerdict (hm : m.Indexed) (hop : type.opcode ≠ .typeTensorARM)
    (part : TypePart) (role : ConstituentRole) (cs : List Id) :
    SizeVerdict (m.PartsDefined type ∧ ∀ c ∈ cs, m.FitsAlone type c) True
      (m.typePart type 1 part >>= fun element =>
        requireEach (m.checkConstituent element.1 role) cs) := by
  have hparts : m.PartsDefined type ↔
      ∃ id d, type.operand 1 = some id ∧ m.definition? id = some d :=
    ⟨PartsDefined.element, fun h => ⟨h, fun htensor => absurd htensor hop⟩⟩
  have helements : ∀ element d, type.operand 1 = some element → m.definition? element = some d →
      SizeVerdict (∀ c ∈ cs, m.FitsAlone type c) True
        (requireEach (m.checkConstituent element role) cs) := by
    intro element _ helement _
    have hall : SizeVerdict (∀ c ∈ cs, m.FitsAlone type c)
        (AgreeWhileFit (m.FitsAlone type) (fun _ => True) cs)
        (requireEach (m.checkConstituent element role) cs) := by
      refine .requireEach id (List.map_id cs) fun c => ?_
      refine (SizeVerdict.of_unsized fun f => isOfSize_of_checkConstituent).congr ?_ (by simp)
      rw [checkConstituent_eq_ok_iff, exists_hasConstantType_iff, ← helement]
      simp only [FitsAlone, IsPart, rankOf, if_neg hop, id]
    exact hall.congr Iff.rfl (by simp [AgreeWhileFit])
  refine (typePart_sizeVerdict hm helements).congr ?_ (by simp)
  simp only [hparts, ← and_assoc, exists_and_right]

theorem checkArray_sizeVerdict (hm : m.Indexed) (hop : type.opcode = .typeArray) {length : Id}
    (hlength : type.operand 2 = some length) (hdef : m.definition? length = some size)
    (hsize : size.opcode.isUnresolvedSize = true) (cs : List Id) :
    SizeVerdict (m.PartsDefined type ∧ ∀ c ∈ cs, m.FitsAlone type c) True
      (m.checkArray type cs) := by
  have helements : m.checkArray type cs = m.typePart type 1 .elementType >>= fun element =>
      requireEach (m.checkConstituent element.1 .arrayElement) cs := by
    simp only [checkArray, typePart_of_definition hlength hdef, bind, Except.bind,
      int32Value_known?_eq_none hdef hsize, Option.all_none]
    rfl
  rw [helements]
  exact elements_sizeVerdict hm (by rw [hop]; decide) .elementType .arrayElement cs

theorem checkVector_sizeVerdict (hm : m.Indexed) (hop : type.opcode = .typeCooperativeVectorNV)
    {length : Id} (hlength : type.operand 2 = some length) (hdef : m.definition? length = some size)
    (hsize : size.opcode.isUnresolvedSize = true) (cs : List Id) :
    SizeVerdict (m.PartsDefined type ∧ ∀ c ∈ cs, m.FitsAlone type c) True
      (m.checkVector type cs) := by
  have hcount : m.vectorCount? type = none := by
    simp only [vectorCount?, hop, beq_self_eq_true, ↓reduceIte, Instruction.operandOrZero, hlength,
      Option.getD_some, int32Value_known?_eq_none hdef hsize]
  have helements : m.checkVector type cs = m.typePart type 1 .componentType >>= fun element =>
      requireEach (m.checkConstituent element.1 .vectorElement) cs := by
    simp only [checkVector, hcount, Option.all_none]
    rfl
  rw [helements]
  exact elements_sizeVerdict hm (by rw [hop]; decide) .componentType .vectorElement cs

theorem dimensionsAgree_iff {shape tensor : Instruction} {c t : Id}
    (htype : m.HasConstantType c t tensor) (index : Nat) :
    m.DimensionsAgree shape c ↔ ∀ s, tensor.operand 3 = some s → ∀ inner,
      m.definition? s = some inner → m.checkShape shape c index tensor = .ok () := by
  constructor
  · intro h s hs inner hinner
    simp only [checkShape_of_definition hs hinner, checkDimension_iff]
    exact fun k actual expected hactual hexpected a e =>
      h t tensor s inner htype hs hinner k actual expected a e hactual hexpected
  · intro h t' tensor' s inner htype' hs hinner k actual expected a e hactual hexpected
    obtain ⟨-, rfl⟩ := htype.unique htype'
    have hshape := (checkShape_of_definition hs hinner c index).mp (h s hs inner hinner)
    exact checkDimension_iff.mp (hshape k actual expected hactual hexpected) a e

theorem isOfSize_of_checkDimension {c actual expected : Id} {k : Nat} {f : CompositeFault}
    (h : m.checkDimension c actual expected k = .error f) : f.isOfSize = true := by
  rw [checkDimension] at h
  split at h
  · obtain ⟨-, rfl⟩ := require_eq_error_iff.mp h
    rfl
  · contradiction

theorem checkShape_sizeVerdict {shape tensor : Instruction} {c t : Id}
    (htype : m.HasConstantType c t tensor) (index : Nat) :
    SizeVerdict (∀ s, tensor.operand 3 = some s → ∃ d, m.definition? s = some d)
      (m.DimensionsAgree shape c) (m.checkShape shape c index tensor) := by
  rw [dimensionsAgree_iff htype index]
  cases hs : tensor.operand 3 with
  | none =>
    rw [checkShape, hs]
    exact .accepted (by simp) (by simp)
  | some s =>
    cases hinner : m.definition? s with
    | none =>
      simp only [checkShape, hs, hinner]
      exact .unfit _ rfl (by simp [hinner]) (by simp [hinner])
    | some inner =>
      refine (SizeVerdict.of_sized fun f hf => ?_).congr (by simp [hinner]) (by simp [hinner])
      simp only [checkShape, hs, hinner] at hf
      obtain ⟨-, ids, -, hdimension, -⟩ := requireEach_eq_error_iff.mp hf
      exact isOfSize_of_checkDimension hdimension

theorem isSubtensor_iff {tensor : Instruction} {element : Id}
    (helement : type.operand 1 = some element) :
    m.IsSubtensor type tensor ↔
      (tensor.opcode == .typeTensorARM) = true ∧ (tensor.operand 1 == some element) = true ∧
        ((tensor.operand 2).bind m.uint64Value?).all (· + 1 == m.rankOf type) = true ∧
        ∀ s, tensor.operand 3 = some s → ∃ d, m.definition? s = some d := by
  simp only [beq_iff_eq, Option.all_eq_true, ← helement]
  constructor
  · rintro ⟨hop, helement, hrank, hshape⟩
    exact ⟨hop, helement, hrank, hshape⟩
  · rintro ⟨hop, helement, hrank, hshape⟩
    exact ⟨hop, helement, hrank, hshape⟩

theorem checkSubtensor_sizeVerdict {tensor : Instruction} {c t element : Id}
    (helement : type.operand 1 = some element) (htype : m.HasConstantType c t tensor)
    (shape : Instruction) (index : Nat) :
    SizeVerdict (m.IsSubtensor type tensor)
      (m.IsSubtensor type tensor → m.DimensionsAgree shape c)
      (m.checkSubtensor element (m.rankOf type) shape c index tensor) := by
  rw [isSubtensor_iff helement]
  refine SizeVerdict.congr (.of_require rfl fun _ => .of_require rfl fun _ =>
    .of_require rfl fun _ => checkShape_sizeVerdict htype index) Iff.rfl ?_
  constructor
  · exact fun h hfits => h hfits.1 hfits.2.1 hfits.2.2.1
  · -- a shape that is not defined has no dimensions to compare
    intro h hop he hrank
    rw [dimensionsAgree_iff htype index]
    intro s hs inner hinner
    have hshape : ∀ s', tensor.operand 3 = some s' → ∃ d, m.definition? s' = some d := by
      simp only [hs, Option.some.injEq, forall_eq', hinner, exists_eq']
    exact (dimensionsAgree_iff htype index).mp (h ⟨hop, he, hrank, hshape⟩) s hs inner hinner

theorem checkTensorConstituent_sizeVerdict {shape : Instruction} {element : Id}
    (helement : type.operand 1 = some element) (c : Id) (index : Nat) :
    SizeVerdict (m.FitsAlone type c)
      (m.FitsAlone type c → 2 ≤ m.rankOf type → m.DimensionsAgree shape c)
      (m.checkTensorConstituent element (m.rankOf type) shape c index) := by
  rw [checkTensorConstituent]
  have hagrees : (∀ t d, m.HasConstantType c t d →
      m.IsPart type t d → 2 ≤ m.rankOf type → m.DimensionsAgree shape c) ↔
      (m.FitsAlone type c → 2 ≤ m.rankOf type → m.DimensionsAgree shape c) := by
    simp only [FitsAlone, forall_exists_index, and_imp]
  refine SizeVerdict.congr (constituentType_sizeVerdict fun t d htype => ?_) Iff.rfl hagrees
  obtain hrank | hrank | ⟨n, hrank⟩ : m.rankOf type = 0 ∨ m.rankOf type = 1 ∨
      ∃ n, m.rankOf type = n + 2 := by
    rcases m.rankOf type with _ | _ | n <;> simp
  · simp only [IsPart, hrank]
    exact .accepted trivial (by simp)
  · simp only [IsPart, hrank]
    refine (SizeVerdict.of_unsized fun f hf => ?_).congr ?_ (by simp)
    · obtain ⟨-, rfl⟩ := require_eq_error_iff.mp hf
      rfl
    · rw [require_eq_ok_iff, beq_iff_eq, helement, Option.some.injEq, eq_comm]
  · have hsub := checkSubtensor_sizeVerdict helement htype shape index
    simp only [IsPart, hrank] at hsub ⊢
    exact hsub.congr Iff.rfl (by simp)

theorem tensors_sizeVerdict {shape : Instruction} {element : Id}
    (helement : type.operand 1 = some element) (cs : List Id) :
    SizeVerdict (∀ c ∈ cs, m.FitsAlone type c) (m.NamesNoSize type shape cs) (do
      require (((shape.operand 2).bind m.uint64Value?).all (· == cs.length))
        (.count .outermostDimension)
      requireEach (fun c => m.checkTensorConstituent element (m.rankOf type) shape c.1 c.2)
        cs.zipIdx) := by
  have heach : SizeVerdict (∀ c ∈ cs, m.FitsAlone type c)
      (AgreeWhileFit (m.FitsAlone type)
        (fun c => 2 ≤ m.rankOf type → m.DimensionsAgree shape c) cs)
      (requireEach (fun c => m.checkTensorConstituent element (m.rankOf type) shape c.1 c.2)
        cs.zipIdx) :=
    .requireEach Prod.fst (List.zipIdx_map_fst 0 cs) fun c =>
      checkTensorConstituent_sizeVerdict helement c.1 c.2
  refine (SizeVerdict.of_require_size rfl heach).congr Iff.rfl ?_
  simp only [Option.all_eq_true, beq_iff_eq]
  constructor
  · rintro ⟨houtermost, hinner⟩
    exact ⟨houtermost, fun hrank front hfront hfits c hc => hinner front hfront hfits c hc hrank⟩
  · rintro ⟨houtermost, hinner⟩
    exact ⟨houtermost, fun front hfront hfits c hc hrank => hinner hrank front hfront hfits c hc⟩

theorem checkTensor_sizeVerdict (hm : m.Indexed) (hop : type.opcode = .typeTensorARM) {id : Id}
    (hid : type.operand 3 = some id) (hdef : m.definition? id = some size) (cs : List Id) :
    SizeVerdict (m.PartsDefined type ∧ ∀ c ∈ cs, m.FitsAlone type c)
      (m.PartsDefined type → m.NamesNoSize type size cs) (m.checkTensor type cs) := by
  have hparts : m.PartsDefined type ↔
      ∃ element d, type.operand 1 = some element ∧ m.definition? element = some d ∧
        ∃ rank r, type.operand 2 = some rank ∧ m.definition? rank = some r := by
    constructor
    · rintro ⟨⟨element, d, he, hd⟩, hrank⟩
      exact ⟨element, d, he, hd, hrank hop⟩
    · rintro ⟨element, d, he, hd, hrank⟩
      exact ⟨⟨element, d, he, hd⟩, fun _ => hrank⟩
  have htensors : ∀ element d rank r, type.operand 1 = some element →
      m.definition? element = some d → type.operand 2 = some rank → m.definition? rank = some r →
        SizeVerdict (∀ c ∈ cs, m.FitsAlone type c) (m.NamesNoSize type size cs) (do
          let shape ← m.typePart type 3 .shape
          require (((shape.2.operand 2).bind m.uint64Value?).all (· == cs.length))
            (.count .outermostDimension)
          requireEach (fun c => m.checkTensorConstituent element
            ((m.uint64Value? rank).getD 0) shape.2 c.1 c.2) cs.zipIdx) := by
    intro element _ rank _ he _ hrank _
    have hvalue : (m.uint64Value? rank).getD 0 = m.rankOf type := by
      rw [rankOf, if_pos hop, hrank, Option.bind_some]
    rw [typePart_of_definition hid hdef, hvalue]
    exact tensors_sizeVerdict he cs
  refine SizeVerdict.congr (typePart_sizeVerdict hm fun element d he hd =>
    typePart_sizeVerdict hm fun rank r hrank hr => htensors element d rank r he hd hrank hr) ?_ ?_
  · simp only [hparts, ← and_assoc, exists_and_right]
  · simp only [hparts, forall_exists_index, and_imp]

/-- A type that a specialization constant sizes is an array or a cooperative vector, or else a
tensor with a shape. -/
theorem HasUnresolvedSize.cases {i : Instruction} (h : m.HasUnresolvedSize i type size) :
    (∃ id, type.operand 2 = some id ∧ m.definition? id = some size ∧
      (type.opcode = .typeArray ∨ type.opcode = .typeCooperativeVectorNV)) ∨
    ∃ id, type.operand 3 = some id ∧ m.definition? id = some size ∧ type.isShapedTensor = true := by
  obtain ⟨id, hid, hdef⟩ := Option.bind_eq_some_iff.mp h.size_eq
  unfold Instruction.sizeId? at hid
  split at hid
  case h_1 hop => exact Or.inl ⟨id, hid, hdef, Or.inl hop⟩
  case h_2 hop => exact Or.inl ⟨id, hid, hdef, Or.inr hop⟩
  case h_3 =>
    split at hid
    case isTrue hshaped => exact Or.inr ⟨id, hid, hdef, hshaped⟩
    case isFalse => contradiction
  case h_4 => contradiction

theorem checkComposite_sizeVerdict (hm : m.Indexed) {i : Instruction}
    (h : m.HasUnresolvedSize i type size) :
    ∃ result, m.checkComposite i = result.mapError .composite ∧
      SizeVerdict (m.PartsDefined type ∧ ∀ c ∈ i.operandsFrom 2, m.FitsAlone type c)
        (type.opcode = .typeTensorARM → m.PartsDefined type →
          m.NamesNoSize type size (i.operandsFrom 2)) result := by
  refine ⟨m.checkConstituents type (i.operandsFrom 2), ?_⟩
  rcases h.cases with ⟨id, hid, hdef, hop | hop⟩ | ⟨id, hid, hdef, hshaped⟩
  · refine ⟨checkComposite_of_type hm h.type_eq (by rw [hop]; rfl), ?_⟩
    simp only [checkConstituents, hop]
    exact (checkArray_sizeVerdict hm hop hid hdef h.unresolved _).congr Iff.rfl (by simp)
  · refine ⟨checkComposite_of_type hm h.type_eq (by rw [hop]; rfl), ?_⟩
    simp only [checkConstituents, hop]
    exact (checkVector_sizeVerdict hm hop hid hdef h.unresolved _).congr Iff.rfl (by simp)
  · have hop := opcode_of_isShapedTensor hshaped
    refine ⟨checkComposite_of_type hm h.type_eq (by rw [hshaped, Bool.or_true]), ?_⟩
    simp only [checkConstituents, hop]
    exact (checkTensor_sizeVerdict hm hop hid hdef _).congr Iff.rfl (by simp)

/-- A size that is not resolved decides nothing, unless it is the shape of a tensor and one of its
words happens to name an integer. -/
theorem skipsSize_iff {v : Version} {addressing : AddressingModel} {is : List Instruction}
    (hbuild : build v addressing is = .ok m) {i : Instruction}
    (h : m.HasUnresolvedSize i type size) :
    m.SkipsSize i type ↔ (type.opcode = .typeTensorARM → m.PartsDefined type →
      m.NamesNoSize type size (i.operandsFrom 2)) := by
  obtain ⟨result, hresult, hverdict⟩ := checkComposite_sizeVerdict (indexed_of_build hbuild) h
  have herror : ∀ f, m.checkComposite i = .error (.composite f) ↔ result = .error f := by
    simp [hresult, mapError_eq_error_iff]
  rw [← hverdict.skips_iff]
  constructor
  · rintro ⟨hsize, haccepted⟩
    rw [hresult, mapError_eq_ok_iff] at haccepted
    exact ⟨fun f hf => hsize f ((herror f).mpr hf), haccepted⟩
  · rintro ⟨hsize, haccepted⟩
    refine ⟨fun f hf => hsize f ((herror f).mp hf), ?_⟩
    rwa [hresult, mapError_eq_ok_iff]

/-- A tensor of one element, whose shape comes from an insertion, operation 82. A constant of the
given id is in front of it. -/
def insertedShape (id : Id) : List Instruction :=
  [.ofOpcode .typeFloat [1, 32], .ofOpcode .typeInt [2, 32, 0], .ofOpcode .constant [2, 3, 1],
    .ofOpcode .typeArray [4, 2, 3], .ofOpcode .constantComposite [4, 5, 3],
    .ofOpcode .constant [2, id, 7], .ofOpcode .specConstantOp [4, 6, 82, 3, 5, 0],
    .ofOpcode .typeTensorARM [7, 1, 3, 6], .ofOpcode .constant [1, 8, 0],
    .ofOpcode .constantComposite [7, 9, 8]]

theorem insertedShape_skipsSize :
    ∃ m i type size, build .v1_6 .logical (insertedShape 83) = .ok m ∧ m.instruction? 9 = some i ∧
      m.HasUnresolvedSize i type size ∧ m.SkipsSize i type := by
  let m := assemble .v1_6 .logical (place (insertedShape 83))
  have hbuild : build .v1_6 .logical (insertedShape 83) = .ok m := rfl
  have hsize : m.HasUnresolvedSize m.instructions[9] m.instructions[7] m.instructions[6] :=
    ⟨rfl, rfl, rfl⟩
  have houtermost : (m.instructions[6].operand 2).bind m.uint64Value? = none := rfl
  have hrank : m.rankOf m.instructions[7] = 1 := rfl
  refine ⟨m, _, _, _, hbuild, rfl, hsize, (skipsSize_iff hbuild hsize).mpr fun _ _ => ⟨?_, ?_⟩⟩
  · intro n hn
    exact absurd (houtermost.symm.trans hn) (Option.some_ne_none n).symm
  · intro hle
    exact absurd (hrank ▸ hle) (by decide)

/-- The number of the operation is the id of the constant 7, which is taken for the dimension. -/
theorem insertedShape_not_skipsSize :
    ∃ m i type size, build .v1_6 .logical (insertedShape 82) = .ok m ∧ m.instruction? 9 = some i ∧
      m.HasUnresolvedSize i type size ∧ ¬ m.SkipsSize i type := by
  let m := assemble .v1_6 .logical (place (insertedShape 82))
  have hsize : m.HasUnresolvedSize m.instructions[9] m.instructions[7] m.instructions[6] :=
    ⟨rfl, rfl, rfl⟩
  have herror : m.checkComposite m.instructions[9] =
      .error (.composite (.count .outermostDimension)) := rfl
  refine ⟨m, _, _, _, rfl, rfl, hsize, fun h => ?_⟩
  exact Bool.false_ne_true (h.not_isOfSize _ herror).symm

end Module
end Spirv
