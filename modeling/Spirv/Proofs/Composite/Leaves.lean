import Mathlib.Data.List.Forall2
import Spirv.Proofs.Composite.Table
import Spirv.Proofs.Module.Accepted

set_option autoImplicit false

/-!
# The leaves of constants

A type made of booleans, integers and floats has a list of scalar types as its leaves, and so has a
constant, read through its constituents. In an accepted module the leaves of a constant are those
of its type, however deep it nests, unless a matrix constant has more columns than a word counts.
-/
namespace Spirv

def Opcode.isScalarType : Opcode → Bool
  | .typeBool | .typeInt | .typeFloat => true
  | _ => false

def Opcode.isCompositeConstant : Opcode → Bool
  | .constantComposite | .specConstantComposite => true
  | _ => false

theorem Opcode.isCompositeConstant_iff (op : Opcode) :
    op.isCompositeConstant = true ↔ op = .constantComposite ∨ op = .specConstantComposite := by
  cases op <;> simp [isCompositeConstant]

namespace Module

def literalLength? (m : Module) (id : Id) : Option Nat :=
  match m.definition? id with
  | none => none
  | some l =>
    match l.opcode, l.words with
    | .constant, [t, _, value] => if m.isInt32Type t then some value.toNat else none
    | _, _ => none

/-- The element type of a vector, matrix or array type, and the number of its elements. -/
def elements? (m : Module) (type : Instruction) : Option (Id × Nat) :=
  match type.opcode, type.operand 1, type.operand 2 with
  | .typeVector, some component, some count => some (component, count.toNat)
  | .typeMatrix, some column, some count =>
    if m.opcodeOf? column = some .typeVector then some (column, count.toNat) else none
  | .typeArray, some element, some length => (m.literalLength? length).map (element, ·)
  | _, _, _ => none

/-- The scalar types that types consist of, in order. -/
inductive TypeLeaves (m : Module) : List Id → List Id → Prop where
  | nil : TypeLeaves m [] []
  | scalar {t : Id} {type : Instruction} {ts ls : List Id} (htype : m.definition? t = some type)
      (hop : type.opcode.isScalarType = true) (hts : TypeLeaves m ts ls) :
      TypeLeaves m (t :: ts) (t :: ls)
  | elements {t element : Id} {n : Nat} {type : Instruction} {ts ls ls' : List Id}
      (htype : m.definition? t = some type) (helements : m.elements? type = some (element, n))
      (hls : TypeLeaves m [element] ls) (hts : TypeLeaves m ts ls') :
      TypeLeaves m (t :: ts) ((List.replicate n ls).flatten ++ ls')
  | members {t : Id} {type : Instruction} {ts ls ls' : List Id}
      (htype : m.definition? t = some type) (hop : type.opcode = .typeStruct)
      (hls : TypeLeaves m (type.operandsFrom 1) ls) (hts : TypeLeaves m ts ls') :
      TypeLeaves m (t :: ts) (ls ++ ls')

/-- The leaves of constants and undefined values, in order. A composite constant is as its
constituents are, and any other one as its type is. -/
inductive ConstantLeaves (m : Module) : List Id → List Id → Prop where
  | nil : ConstantLeaves m [] []
  | composite {c : Id} {i : Instruction} {cs ls ls' : List Id} (hc : m.definition? c = some i)
      (hop : i.opcode.isCompositeConstant = true) (hls : ConstantLeaves m (i.operandsFrom 2) ls)
      (hcs : ConstantLeaves m cs ls') : ConstantLeaves m (c :: cs) (ls ++ ls')
  | whole {c t : Id} {i : Instruction} {cs ls ls' : List Id} (hc : m.definition? c = some i)
      (hop : i.opcode.isCompositeConstant = false) (hconstant : i.opcode.isConstantOrUndef = true)
      (ht : i.typeId = some t) (hls : TypeLeaves m [t] ls) (hcs : ConstantLeaves m cs ls') :
      ConstantLeaves m (c :: cs) (ls ++ ls')

/-- The leaves of every constant or undefined value are those of its type. -/
def LeavesAgree (m : Module) : Prop :=
  ∀ c i t ls, m.definition? c = some i → i.opcode.isConstantOrUndef = true → i.typeId = some t →
    m.TypeLeaves [t] ls → ∀ ls', m.ConstantLeaves [c] ls' ↔ ls' = ls

/-- A matrix constant whose columns have leaves, and are more than a word counts. -/
structure Crowded (m : Module) (i type : Instruction) : Prop where
  mem : i ∈ m.instructions
  composite : i.opcode.isCompositeConstant = true
  typed : m.typeDefinition? i = some type
  matrix : type.opcode = .typeMatrix
  columns : ∃ column n ls, m.elements? type = some (column, n) ∧ m.TypeLeaves [column] ls ∧ ls ≠ []
  crowded : UInt32.size ≤ (i.operandsFrom 2).length

theorem operands_of_elements? {m : Module} {type : Instruction} {element : Id} {n : Nat}
    (h : m.elements? type = some (element, n)) : type.operand 1 = some element ∧
      (type.opcode = .typeVector ∧ (∃ count, type.operand 2 = some count ∧ count.toNat = n) ∨
        type.opcode = .typeMatrix ∧ m.opcodeOf? element = some .typeVector ∧
          (∃ count, type.operand 2 = some count ∧ count.toNat = n) ∨
        type.opcode = .typeArray ∧
          ∃ length, type.operand 2 = some length ∧ m.literalLength? length = some n) := by
  unfold elements? at h
  split at h
  · rename_i hop h1 h2
    obtain ⟨rfl, rfl⟩ := Prod.mk.inj (Option.some.inj h)
    exact ⟨h1, Or.inl ⟨hop, _, h2, rfl⟩⟩
  · rename_i hop h1 h2
    obtain ⟨hvector, hsome⟩ := Option.ite_none_right_eq_some.mp h
    obtain ⟨rfl, rfl⟩ := Prod.mk.inj (Option.some.inj hsome)
    exact ⟨h1, Or.inr (Or.inl ⟨hop, hvector, _, h2, rfl⟩)⟩
  · rename_i hop h1 h2
    obtain ⟨n', hn, hsome⟩ := Option.map_eq_some_iff.mp h
    obtain ⟨rfl, rfl⟩ := Prod.mk.inj hsome
    exact ⟨h1, Or.inr (Or.inr ⟨hop, _, h2, hn⟩)⟩
  · contradiction

theorem opcode_of_elements? {m : Module} {type : Instruction} {part : Id × Nat}
    (h : m.elements? type = some part) : type.opcode = .typeVector ∨ type.opcode = .typeMatrix ∨
      type.opcode = .typeArray := by
  obtain ⟨-, ⟨hop, -⟩ | ⟨hop, -⟩ | ⟨hop, -⟩⟩ := operands_of_elements? h
  · exact Or.inl hop
  · exact Or.inr (Or.inl hop)
  · exact Or.inr (Or.inr hop)

theorem elements?_eq_none {m : Module} {type : Instruction}
    (h : type.opcode.isScalarType = true ∨ type.opcode = .typeStruct) :
    m.elements? type = none := by
  by_contra hsome
  obtain ⟨part, hpart⟩ := Option.ne_none_iff_exists'.mp hsome
  rcases opcode_of_elements? hpart with hop | hop | hop <;> rw [hop] at h <;>
    rcases h with h | h <;> contradiction

namespace TypeLeaves

variable {m : Module} {ts ls ls' : List Id}

theorem unique (h : m.TypeLeaves ts ls) (h' : m.TypeLeaves ts ls') : ls = ls' := by
  induction h generalizing ls' with
  | nil =>
    cases h'
    rfl
  | scalar htype hop _ ih =>
    cases h' with
    | scalar _ _ hts => rw [ih hts]
    | elements htype' helements =>
      obtain rfl := Option.some.inj (htype.symm.trans htype')
      rw [elements?_eq_none (Or.inl hop)] at helements
      contradiction
    | members htype' hstruct =>
      obtain rfl := Option.some.inj (htype.symm.trans htype')
      rw [hstruct] at hop
      contradiction
  | elements htype helements _ _ ihls ihts =>
    cases h' with
    | scalar htype' hop =>
      obtain rfl := Option.some.inj (htype.symm.trans htype')
      rw [elements?_eq_none (Or.inl hop)] at helements
      contradiction
    | elements htype' helements' hls hts =>
      obtain rfl := Option.some.inj (htype.symm.trans htype')
      obtain ⟨rfl, rfl⟩ := Prod.mk.inj (Option.some.inj (helements.symm.trans helements'))
      rw [ihls hls, ihts hts]
    | members htype' hstruct =>
      obtain rfl := Option.some.inj (htype.symm.trans htype')
      rw [elements?_eq_none (Or.inr hstruct)] at helements
      contradiction
  | members htype hstruct _ _ ihls ihts =>
    cases h' with
    | scalar htype' hop =>
      obtain rfl := Option.some.inj (htype.symm.trans htype')
      rw [hstruct] at hop
      contradiction
    | elements htype' helements =>
      obtain rfl := Option.some.inj (htype.symm.trans htype')
      rw [elements?_eq_none (Or.inr hstruct)] at helements
      contradiction
    | members htype' _ hls hts =>
      obtain rfl := Option.some.inj (htype.symm.trans htype')
      rw [ihls hls, ihts hts]

theorem exists_definition {t : Id} (h : m.TypeLeaves (t :: ts) ls) :
    ∃ d, m.definition? t = some d := by
  cases h with
  | scalar htype => exact ⟨_, htype⟩
  | elements htype => exact ⟨_, htype⟩
  | members htype => exact ⟨_, htype⟩

theorem cons {t : Id} (h : m.TypeLeaves [t] ls) (hts : m.TypeLeaves ts ls') :
    m.TypeLeaves (t :: ts) (ls ++ ls') := by
  cases h with
  | scalar htype hop hnil =>
    cases hnil
    exact scalar htype hop hts
  | elements htype helements hls hnil =>
    cases hnil
    rw [List.append_nil]
    exact elements htype helements hls hts
  | members htype hop hls hnil =>
    cases hnil
    rw [List.append_nil]
    exact members htype hop hls hts

theorem elements_singleton {t element : Id} {n : Nat} {type : Instruction}
    (htype : m.definition? t = some type) (helements : m.elements? type = some (element, n))
    (hls : m.TypeLeaves [element] ls) : m.TypeLeaves [t] (List.replicate n ls).flatten := by
  have h := elements htype helements hls nil
  rwa [List.append_nil] at h

theorem members_singleton {t : Id} {type : Instruction} (htype : m.definition? t = some type)
    (hop : type.opcode = .typeStruct) (hls : m.TypeLeaves (type.operandsFrom 1) ls) :
    m.TypeLeaves [t] ls := by
  have h := members htype hop hls nil
  rwa [List.append_nil] at h

end TypeLeaves

namespace ConstantLeaves

variable {m : Module} {cs ls ls' : List Id}

theorem unique (h : m.ConstantLeaves cs ls) (h' : m.ConstantLeaves cs ls') : ls = ls' := by
  induction h generalizing ls' with
  | nil =>
    cases h'
    rfl
  | composite hc hop _ _ ihls ihcs =>
    cases h' with
    | composite hc' _ hls hcs =>
      obtain rfl := Option.some.inj (hc.symm.trans hc')
      rw [ihls hls, ihcs hcs]
    | whole hc' hop' =>
      obtain rfl := Option.some.inj (hc.symm.trans hc')
      rw [hop] at hop'
      contradiction
  | whole hc hop _ ht hls _ ihcs =>
    cases h' with
    | composite hc' hop' =>
      obtain rfl := Option.some.inj (hc.symm.trans hc')
      rw [hop] at hop'
      contradiction
    | whole hc' _ _ ht' hls' hcs =>
      obtain rfl := Option.some.inj (hc.symm.trans hc')
      obtain rfl := Option.some.inj (ht.symm.trans ht')
      rw [hls.unique hls', ihcs hcs]

theorem cons {c : Id} (h : m.ConstantLeaves [c] ls) (hcs : m.ConstantLeaves cs ls') :
    m.ConstantLeaves (c :: cs) (ls ++ ls') := by
  cases h with
  | composite hc hop hls hnil =>
    cases hnil
    rw [List.append_nil]
    exact composite hc hop hls hcs
  | whole hc hop hconstant ht hls hnil =>
    cases hnil
    rw [List.append_nil]
    exact whole hc hop hconstant ht hls hcs

theorem repeated (h : ∀ c ∈ cs, m.ConstantLeaves [c] ls) :
    m.ConstantLeaves cs (List.replicate cs.length ls).flatten := by
  induction cs with
  | nil => exact nil
  | cons c cs ih =>
    obtain ⟨hc, hcs⟩ := List.forall_mem_cons.mp h
    rw [List.length_cons, List.replicate_succ, List.flatten_cons]
    exact hc.cons (ih hcs)

end ConstantLeaves

def Alike (m : Module) (t t' : Id) : Prop :=
  t = t' ∨ ∃ d d', m.definition? t = some d ∧ m.definition? t' = some d' ∧
    d.opcode = .typeVector ∧ d'.opcode = .typeVector ∧ d.operand 1 = d'.operand 1 ∧
    d.operand 2 = d'.operand 2

theorem Alike.eq_of_ne_vector {m : Module} {t t' : Id} {type : Instruction}
    (h : m.Alike t t') (htype : m.definition? t' = some type) (hop : type.opcode ≠ .typeVector) :
    t = t' := by
  rcases h with h | ⟨d, d', -, hd', -, hvector, -⟩
  · exact h
  · obtain rfl := Option.some.inj (htype.symm.trans hd')
    exact absurd hvector hop

theorem ne_vector_of_isScalarType {op : Opcode} (h : op.isScalarType = true) :
    op ≠ .typeVector := by
  rintro rfl
  contradiction

theorem Alike.elements?_eq {m : Module} {t t' : Id} {d d' : Instruction} (h : m.Alike t t')
    (hd : m.definition? t = some d) (hd' : m.definition? t' = some d') :
    m.elements? d = m.elements? d' := by
  rcases h with rfl | ⟨e, e', he, he', hop, hop', h1, h2⟩
  · rw [Option.some.inj (hd.symm.trans hd')]
  · obtain rfl := Option.some.inj (hd.symm.trans he)
    obtain rfl := Option.some.inj (hd'.symm.trans he')
    rw [elements?, elements?, hop, hop', h1, h2]

theorem TypeLeaves.of_alike {m : Module} {t t' : Id} {d : Instruction} {ls : List Id}
    (h : m.TypeLeaves [t'] ls) (halike : m.Alike t t') (hd : m.definition? t = some d) :
    m.TypeLeaves [t] ls := by
  cases h with
  | scalar htype hop hts =>
    obtain rfl := halike.eq_of_ne_vector htype (ne_vector_of_isScalarType hop)
    exact .scalar htype hop hts
  | elements htype helements hls hts =>
    exact .elements hd ((halike.elements?_eq hd htype).trans helements) hls hts
  | members htype hop hls hts =>
    obtain rfl := halike.eq_of_ne_vector htype (by rw [hop]; decide)
    exact .members htype hop hls hts

/-- A constant or undefined value is of a type, up to the identity of vector types. -/
def IsOfType (m : Module) (c t : Id) : Prop :=
  ∃ t' d, m.HasConstantType c t' d ∧ m.Alike t' t

theorem forall₂_of_getElem? {α β : Type} {r : α → β → Prop} {as : List α} {bs : List β}
    (hlen : as.length = bs.length)
    (h : ∀ (k : Nat) (a : α) (b : β), as[k]? = some a → bs[k]? = some b → r a b) :
    List.Forall₂ r as bs := by
  rw [List.forall₂_iff_get]
  refine ⟨hlen, fun k ha hb => h k _ _ ?_ ?_⟩
  · exact List.getElem?_eq_getElem ha
  · exact List.getElem?_eq_getElem hb

theorem int32Value_of_literalLength? {m : Module} {id : Id} {n : Nat}
    (h : m.literalLength? id = some n) :
    ∃ value, m.int32Value id = .known value ∧ value.toNat = n := by
  unfold literalLength? at h
  split at h
  · contradiction
  · rename_i l hl
    split at h
    · rename_i t r value hop hwords
      split at h
      · rename_i hint
        refine ⟨value, ?_, Option.some.inj h⟩
        have ht : l.typeId = some t := by
          rw [Instruction.typeId, hop, Instruction.operand, hwords]
          rfl
        have hvalue : l.operand 2 = some value := by
          rw [Instruction.operand, hwords]
          rfl
        rw [int32Value, hl]
        simp only [ht, hop, hvalue, Option.any_some, hint]
        rfl
      · contradiction
    · contradiction

/-! ### Constituents in an accepted module -/

theorem isOfType_of_operand {m : Module} {type : Instruction} {element : Id}
    (helement : type.operand 1 = some element) (hstruct : type.opcode ≠ .typeStruct)
    (hmatrix : type.opcode ≠ .typeMatrix) {k : Nat} {c : Id} (h : m.ConstituentFits type k c) :
    m.IsOfType c element := by
  obtain ⟨t, d, htype, ht⟩ := (constituentFits_iff hstruct hmatrix k c).mp h
  obtain rfl := Option.some.inj (helement.symm.trans ht)
  exact ⟨element, d, htype, Or.inl rfl⟩

theorem isOfType_of_member {m : Module} {type : Instruction} (hop : type.opcode = .typeStruct)
    {k : Nat} {c member : Id} (hmember : (type.operandsFrom 1)[k]? = some member)
    (h : m.ConstituentFits type k c) : m.IsOfType c member := by
  obtain ⟨t, d, htype, ht⟩ := (constituentFits_struct_iff hop k c).mp h
  obtain rfl := Option.some.inj (hmember.symm.trans ht)
  exact ⟨member, d, htype, Or.inl rfl⟩

theorem isOfType_of_column {m : Module} {type column : Instruction} {columnType : Id}
    (hop : type.opcode = .typeMatrix) (hcolumn : type.operand 1 = some columnType)
    (hdef : m.definition? columnType = some column) (hvector : column.opcode = .typeVector)
    {k : Nat} {c : Id} (h : m.ConstituentFits type k c) : m.IsOfType c columnType := by
  obtain ⟨t, d, htype, hdop, h1, h2⟩ := (constituentFits_matrix_iff hop hcolumn hdef k c).mp h
  have hd : m.definition? t = some d := by
    obtain ⟨i, -, -, -, hd⟩ := htype
    exact hd
  exact ⟨t, d, htype, Or.inr ⟨d, column, hd, hdef, hdop.trans hvector, hvector, h1, h2⟩⟩

/-- A constituent that the table of composite constants allows is of the element type. -/
theorem isOfType_of_elements {m : Module} {type : Instruction} {element : Id} {n k : Nat} {c : Id}
    (helements : m.elements? type = some (element, n)) (h : m.ConstituentFits type k c) :
    m.IsOfType c element := by
  obtain ⟨helement, ⟨hop, -⟩ | ⟨hop, hvector, -⟩ | ⟨hop, -⟩⟩ := operands_of_elements? helements
  · exact isOfType_of_operand helement (by rw [hop]; decide) (by rw [hop]; decide) h
  · obtain ⟨column, hdef, hcolumn⟩ := Option.map_eq_some_iff.mp hvector
    exact isOfType_of_column hop helement hdef hcolumn h
  · exact isOfType_of_operand helement (by rw [hop]; decide) (by rw [hop]; decide) h

/-- The table of composite constants allows as many constituents as the type has elements. -/
theorem eq_of_shapeFits {m : Module} {type : Instruction} {element : Id} {n k : Nat}
    (helements : m.elements? type = some (element, n)) (h : m.ShapeFits type k) : k = n := by
  obtain ⟨-, hvector | hmatrix | harray⟩ := operands_of_elements? helements
  · obtain ⟨hop, count, hcount, rfl⟩ := hvector
    simp only [ShapeFits, hop] at h
    exact (h.1 count hcount).symm
  · obtain ⟨hop, -, count, hcount, rfl⟩ := hmatrix
    simp only [ShapeFits, hop] at h
    obtain ⟨⟨count', hcount', hk⟩, -⟩ := h
    obtain rfl := Option.some.inj (hcount.symm.trans hcount')
    exact hk.symm
  · obtain ⟨hop, length, hlength, hn⟩ := harray
    obtain ⟨value, hvalue, rfl⟩ := int32Value_of_literalLength? hn
    simp only [ShapeFits, hop] at h
    obtain ⟨_, _, -, -, length', l, hlength', -, hk⟩ := h
    obtain rfl := Option.some.inj (hlength.symm.trans hlength')
    exact (hk value hvalue).symm

theorem checkComposite_ne_ok_of_isScalarType {m : Module} (hm : m.Indexed) {i type : Instruction}
    (htype : m.typeDefinition? i = some type) (hop : type.opcode.isScalarType = true) :
    m.checkComposite i ≠ .ok () := by
  have hfilter : (type.opcode.isCompositeType || type.isShapedTensor) = false := by
    unfold Opcode.isScalarType at hop
    split at hop
    case h_4 => contradiction
    all_goals rename_i h; simp [Instruction.isShapedTensor, h, Opcode.isCompositeType]
  rw [checkComposite, hm.definition?_typeIdOrZero, htype, Option.filter_some, hfilter]
  simp

section Accepted

variable {m : Module} {config : Config} {i type : Instruction} {element : Id} {n : Nat}

theorem constituents_fit (hm : m.Indexed) (hconfig : config.checkConstants = true)
    (h : m.validate config = .ok ()) (hi : i ∈ m.instructions)
    (hop : i.opcode.isCompositeConstant = true) (htype : m.typeDefinition? i = some type)
    (hcomposite : type.opcode.isCompositeType = true) :
    m.ShapeFits type (countedLength type (i.operandsFrom 2)) ∧
      ∀ k c, (i.operandsFrom 2)[k]? = some c → m.ConstituentFits type k c := by
  have hrule := checkComposite_of_validate hconfig h hi ((Opcode.isCompositeConstant_iff _).mp hop)
  rw [checkComposite_of_isCompositeType hm htype hcomposite, mapError_eq_ok_iff] at hrule
  exact (checkConstituents_verdict hm hcomposite (i.operandsFrom 2)).eq_ok_iff.mp hrule

theorem constituents_of_elements (hm : m.Indexed) (hconfig : config.checkConstants = true)
    (h : m.validate config = .ok ()) (hi : i ∈ m.instructions)
    (hop : i.opcode.isCompositeConstant = true) (htype : m.typeDefinition? i = some type)
    (helements : m.elements? type = some (element, n)) :
    countedLength type (i.operandsFrom 2) = n ∧
      ∀ c ∈ i.operandsFrom 2, m.IsOfType c element := by
  have hcomposite : type.opcode.isCompositeType = true := by
    rcases opcode_of_elements? helements with hop | hop | hop <;> rw [hop] <;> rfl
  obtain ⟨hshape, hfits⟩ := constituents_fit hm hconfig h hi hop htype hcomposite
  refine ⟨eq_of_shapeFits helements hshape, fun c hc => ?_⟩
  obtain ⟨k, hk⟩ := List.mem_iff_getElem?.mp hc
  exact isOfType_of_elements helements (hfits k c hk)

theorem constituents_of_struct (hm : m.Indexed) (hconfig : config.checkConstants = true)
    (h : m.validate config = .ok ()) (hi : i ∈ m.instructions)
    (hop : i.opcode.isCompositeConstant = true) (htype : m.typeDefinition? i = some type)
    (hstruct : type.opcode = .typeStruct) :
    List.Forall₂ m.IsOfType (i.operandsFrom 2) (type.operandsFrom 1) := by
  obtain ⟨hshape, hfits⟩ :=
    constituents_fit hm hconfig h hi hop htype (by rw [hstruct]; rfl)
  simp only [ShapeFits, countedLength, hstruct, reduceCtorEq, ↓reduceIte] at hshape
  exact forall₂_of_getElem? hshape.symm fun k c member hc hmember =>
    isOfType_of_member hstruct hmember (hfits k c hc)

/-- Unless the columns are too many, the constituents have the leaves of that many elements. -/
theorem flatten_replicate_length (hcrowded : ¬ m.Crowded i type) {ls : List Id}
    (hi : i ∈ m.instructions) (hop : i.opcode.isCompositeConstant = true)
    (htype : m.typeDefinition? i = some type)
    (helements : m.elements? type = some (element, n)) (hls : m.TypeLeaves [element] ls)
    (hcount : countedLength type (i.operandsFrom 2) = n) :
    (List.replicate (i.operandsFrom 2).length ls).flatten = (List.replicate n ls).flatten := by
  by_cases hnil : ls = []
  · simp [hnil]
  · suffices hlen : (i.operandsFrom 2).length = n by rw [hlen]
    by_cases hmatrix : type.opcode = .typeMatrix
    · have hlt : (i.operandsFrom 2).length < UInt32.size := by
        by_contra hge
        exact hcrowded ⟨hi, hop, htype, hmatrix, ⟨element, n, ls, helements, hls, hnil⟩,
          Nat.le_of_not_lt hge⟩
      rw [← hcount, countedLength_eq type hlt]
    · rw [← hcount, countedLength, if_neg hmatrix]

end Accepted

theorem constantLeaves_of_typeLeaves {m : Module} {config : Config} (hm : m.Indexed)
    (hconfig : config.checkConstants = true) (h : m.validate config = .ok ())
    (hcrowded : ∀ i type, ¬ m.Crowded i type) {ts ls : List Id} (hls : m.TypeLeaves ts ls)
    {cs : List Id} (hcs : List.Forall₂ m.IsOfType cs ts) : m.ConstantLeaves cs ls := by
  -- the constants may be cyclic as far as their own words go, the types are not
  induction hls generalizing cs with
  | nil =>
    cases hcs
    exact .nil
  | @scalar t type ts ls htype hop _ ih =>
    obtain ⟨c, rest, ⟨t', d, ⟨i, hi, hconstant, ht, hd⟩, halike⟩, hrest, rfl⟩ :=
      List.forall₂_cons_right_iff.mp hcs
    obtain rfl := halike.eq_of_ne_vector htype (ne_vector_of_isScalarType hop)
    have hwhole : i.opcode.isCompositeConstant = false := by
      by_contra hcomposite
      have hrule := checkComposite_of_validate hconfig h (mem_of_definition? hi).1
        ((Opcode.isCompositeConstant_iff _).mp (Bool.not_eq_false _ ▸ hcomposite))
      have htd : m.typeDefinition? i = some type := by rw [typeDefinition?, ht]; exact htype
      exact checkComposite_ne_ok_of_isScalarType hm htd hop hrule
    exact .whole hi hwhole hconstant ht (.scalar htype hop .nil) (ih hrest)
  | @elements t element n type ts ls ls' htype helements hls _ ihls ihts =>
    obtain ⟨c, rest, ⟨t', d, ⟨i, hi, hconstant, ht, hd⟩, halike⟩, hrest, rfl⟩ :=
      List.forall₂_cons_right_iff.mp hcs
    have helements' : m.elements? d = some (element, n) :=
      (halike.elements?_eq hd htype).trans helements
    cases hop : i.opcode.isCompositeConstant with
    | false =>
      exact .whole hi hop hconstant ht (.elements_singleton hd helements' hls) (ihts hrest)
    | true =>
      have hmem := (mem_of_definition? hi).1
      have htd : m.typeDefinition? i = some d := by rw [typeDefinition?, ht]; exact hd
      obtain ⟨hcount, hof⟩ := constituents_of_elements hm hconfig h hmem hop htd helements'
      have hconstituents := ConstantLeaves.repeated fun c hc => ihls (.cons (hof c hc) .nil)
      rw [flatten_replicate_length (hcrowded i d) hmem hop htd helements' hls hcount]
        at hconstituents
      exact .composite hi hop hconstituents (ihts hrest)
  | @members t type ts ls ls' htype hstruct hls _ ihls ihts =>
    obtain ⟨c, rest, ⟨t', d, ⟨i, hi, hconstant, ht, hd⟩, halike⟩, hrest, rfl⟩ :=
      List.forall₂_cons_right_iff.mp hcs
    obtain rfl := halike.eq_of_ne_vector htype (by rw [hstruct]; decide)
    cases hop : i.opcode.isCompositeConstant with
    | false =>
      exact .whole hi hop hconstant ht (.members_singleton htype hstruct hls) (ihts hrest)
    | true =>
      have htd : m.typeDefinition? i = some type := by rw [typeDefinition?, ht]; exact htype
      have hconstituents :=
        constituents_of_struct hm hconfig h (mem_of_definition? hi).1 hop htd hstruct
      exact .composite hi hop (ihls hconstituents) (ihts hrest)

theorem leavesAgree_of_not_crowded {m : Module} {config : Config} (hm : m.Indexed)
    (hconfig : config.checkConstants = true) (h : m.validate config = .ok ())
    (hcrowded : ∀ i type, ¬ m.Crowded i type) : m.LeavesAgree := by
  intro c i t ls hc hop ht hls ls'
  obtain ⟨d, hd⟩ := hls.exists_definition
  have htype : m.IsOfType c t := ⟨t, d, ⟨i, hc, hop, ht, hd⟩, Or.inl rfl⟩
  have hleaves := constantLeaves_of_typeLeaves hm hconfig h hcrowded hls (.cons htype .nil)
  constructor
  · exact fun hls' => hls'.unique hleaves
  · rintro rfl
    exact hleaves

theorem Crowded.not_leavesAgree {m : Module} {config : Config} (hm : m.Indexed)
    (hconfig : config.checkConstants = true) (h : m.validate config = .ok ())
    {i type : Instruction} (hcrowded : m.Crowded i type) : ¬ m.LeavesAgree := by
  intro hagree
  obtain ⟨column, n, ls, helements, hls, hne⟩ := hcrowded.columns
  obtain ⟨-, hof⟩ := constituents_of_elements hm hconfig h hcrowded.mem hcrowded.composite
    hcrowded.typed helements
  have hcolumns : ∀ c ∈ i.operandsFrom 2, m.ConstantLeaves [c] ls := fun c hc => by
    obtain ⟨t, d, ⟨j, hj, hconstant, ht, hd⟩, halike⟩ := hof c hc
    exact (hagree c j t ls hj hconstant ht (hls.of_alike halike hd) ls).mpr rfl
  have hconstant : i.opcode.isConstantOrUndef = true ∧ i.opcode.hasResultId = true := by
    rcases (Opcode.isCompositeConstant_iff _).mp hcrowded.composite with hop | hop <;>
      rw [hop] <;> exact ⟨rfl, rfl⟩
  obtain ⟨t, ht, hd⟩ := Option.bind_eq_some_iff.mp hcrowded.typed
  obtain ⟨c, hid⟩ := hm.exists_resultId hcrowded.mem hconstant.2
  have hc : m.definition? c = some i := hm.definition?_eq_some_iff.mpr ⟨hcrowded.mem, hid⟩
  have hleaves := ConstantLeaves.composite hc hcrowded.composite (.repeated hcolumns) .nil
  rw [List.append_nil] at hleaves
  -- as many leaves for the columns as for the type, but no type has so many columns
  have heq := (hagree c i t _ hc hconstant.1 ht (.elements_singleton hd helements hls) _).mp hleaves
  have hlength := congrArg List.length heq
  rw [List.length_flatten, List.length_flatten, List.map_replicate, List.map_replicate,
    List.sum_replicate_nat, List.sum_replicate_nat] at hlength
  have hn := Nat.eq_of_mul_eq_mul_right (List.length_pos_iff.mpr hne) hlength
  obtain ⟨-, ⟨hop, -⟩ | ⟨-, -, count, -, hcount⟩ | ⟨hop, -⟩⟩ := operands_of_elements? helements
  · rw [hcrowded.matrix] at hop
    contradiction
  · have hlt := count.toNat_lt_size
    have hge := hcrowded.crowded
    omega
  · rw [hcrowded.matrix] at hop
    contradiction

/-- In an accepted module the leaves of constants are those of their types exactly if no matrix
constant has more columns than a word counts. -/
theorem leavesAgree_iff {v : Version} {addressing : AddressingModel} {is : List Instruction}
    {m : Module} (hbuild : build v addressing is = .ok m) (h : m.validate .standard = .ok ()) :
    m.LeavesAgree ↔ ∀ i type, ¬ m.Crowded i type := by
  have hm := indexed_of_build hbuild
  constructor
  · exact fun hagree i type hcrowded => hcrowded.not_leavesAgree hm rfl h hagree
  · exact fun hcrowded => leavesAgree_of_not_crowded hm rfl h hcrowded

/-- A struct of a boolean, a matrix and an array, whose constant has a null value for the array. -/
def nestedConstant : List Instruction :=
  [.ofOpcode .typeFloat [1, 32], .ofOpcode .typeInt [2, 32, 0], .ofOpcode .typeBool [3],
    .ofOpcode .typeVector [4, 1, 2], .ofOpcode .typeMatrix [5, 4, 2], .ofOpcode .constant [2, 6, 2],
    .ofOpcode .typeArray [7, 2, 6], .ofOpcode .typeStruct [8, 3, 5, 7],
    .ofOpcode .constantTrue [3, 9], .ofOpcode .constant [1, 10, 0],
    .ofOpcode .constantComposite [4, 11, 10, 10], .ofOpcode .constantComposite [5, 12, 11, 11],
    .ofOpcode .constantNull [7, 13], .ofOpcode .constantComposite [8, 14, 9, 12, 13]]

def nestedModule : Module := assemble .v1_6 .logical (place nestedConstant)

theorem nestedConstant_leaves :
    build .v1_6 .logical nestedConstant = .ok nestedModule ∧
      nestedModule.validate .standard = .ok () ∧ nestedModule.LeavesAgree ∧
      ∀ ls, nestedModule.ConstantLeaves [14] ls ↔ ls = [3, 1, 1, 1, 1, 2, 2] := by
  have hbuild : build .v1_6 .logical nestedConstant = .ok nestedModule := rfl
  have hvalid : nestedModule.validate .standard = .ok () := rfl
  have hlen : ∀ i ∈ nestedModule.instructions, (i.operandsFrom 2).length < UInt32.size := by
    decide
  have hagree : nestedModule.LeavesAgree := (leavesAgree_iff hbuild hvalid).mpr
    fun i type hcrowded => Nat.not_le_of_lt (hlen i hcrowded.mem) hcrowded.crowded
  have hint : nestedModule.TypeLeaves [2] [2] := .scalar rfl rfl .nil
  have hfloat : nestedModule.TypeLeaves [1] [1] := .scalar rfl rfl .nil
  have hvector : nestedModule.TypeLeaves [4] (List.replicate 2 [1]).flatten :=
    .elements_singleton rfl rfl hfloat
  have hmatrix : nestedModule.TypeLeaves [5] (List.replicate 2 [1, 1]).flatten :=
    .elements_singleton rfl rfl hvector
  have harray : nestedModule.TypeLeaves [7] (List.replicate 2 [2]).flatten :=
    .elements_singleton rfl rfl hint
  have hmembers : nestedModule.TypeLeaves [3, 5, 7] [3, 1, 1, 1, 1, 2, 2] :=
    .scalar rfl rfl (hmatrix.cons harray)
  have hstruct : nestedModule.TypeLeaves [8] [3, 1, 1, 1, 1, 2, 2] :=
    .members_singleton rfl rfl hmembers
  exact ⟨hbuild, hvalid, hagree, hagree 14 _ 8 _ rfl rfl rfl hstruct⟩

/-- A constant of a matrix type of two columns, with `n` columns. -/
def columnsConstant (n : Nat) : List Instruction :=
  [.ofOpcode .typeFloat [1, 32], .ofOpcode .typeVector [2, 1, 2], .ofOpcode .typeMatrix [3, 2, 2],
    .ofOpcode .constant [1, 4, 0], .ofOpcode .constantComposite [2, 5, 4, 4],
    .ofOpcode .constantComposite (3 :: 6 :: List.replicate n 5)]

def columnsModule (n : Nat) : Module := assemble .v1_6 .logical (place (columnsConstant n))

theorem build_columnsConstant (n : Nat) :
    build .v1_6 .logical (columnsConstant n) = .ok (columnsModule n) := rfl

theorem operandsFrom_columnsConstant {n : Nat} {i : Instruction}
    (hi : (columnsModule n).definition? 6 = some i) : i.operandsFrom 2 = List.replicate n 5 := by
  obtain rfl := Option.some.inj hi
  rfl

/-- The columns are compared with their type as far as a word counts them. -/
theorem checkComposite_columnsConstant {n : Nat} (hn : n % UInt32.size = 2) {i : Instruction}
    (hi : (columnsModule n).definition? 6 = some i) :
    (columnsModule n).checkComposite i = .ok () := by
  have hm := indexed_of_build (build_columnsConstant n)
  obtain ⟨type, htype⟩ : ∃ type, (columnsModule n).definition? 3 = some type := ⟨_, rfl⟩
  obtain ⟨column, hcolumn⟩ : ∃ column, (columnsModule n).definition? 2 = some column := ⟨_, rfl⟩
  have htyped : (columnsModule n).typeDefinition? i = some type := by
    obtain rfl := Option.some.inj hi
    exact htype
  have hop : type.opcode = .typeMatrix ∧ type.operand 1 = some 2 ∧ type.operand 2 = some 2 := by
    obtain rfl := Option.some.inj htype
    exact ⟨rfl, rfl, rfl⟩
  rw [checkComposite_of_isCompositeType hm htyped (by rw [hop.1]; rfl), mapError_eq_ok_iff,
    (checkConstituents_verdict hm (by rw [hop.1]; rfl) _).eq_ok_iff,
    operandsFrom_columnsConstant hi, countedLength, if_pos hop.1, List.length_replicate, hn]
  constructor
  · simp only [ShapeFits, hop]
    refine ⟨⟨2, rfl, rfl⟩, 2, column, rfl, hcolumn, ?_⟩
    obtain rfl := Option.some.inj hcolumn
    exact ⟨1, _, rfl, rfl⟩
  · intro k c hc
    obtain rfl := List.eq_of_mem_replicate (List.mem_of_getElem? hc)
    rw [constituentFits_matrix_iff hop.1 hop.2.1 hcolumn]
    exact ⟨2, column, ⟨_, rfl, rfl, rfl, hcolumn⟩, rfl, rfl, rfl⟩

theorem validate_columnsModule {n : Nat} (hn : n % UInt32.size = 2) :
    (columnsModule n).validate .standard = .ok () := by
  rw [validate_eq_ok_iff]
  refine List.forall_mem_cons.mpr ⟨rfl, List.forall_mem_cons.mpr ⟨rfl,
    List.forall_mem_cons.mpr ⟨rfl, List.forall_mem_cons.mpr ⟨rfl,
      List.forall_mem_cons.mpr ⟨rfl, List.forall_mem_singleton.mpr ?_⟩⟩⟩⟩⟩
  have hrule := checkComposite_columnsConstant hn rfl
  exact mapError_eq_ok_iff.mpr (then_eq_ok_iff.mpr ⟨hrule, rfl⟩)

theorem crowded_columnsModule {n : Nat} (hn : UInt32.size ≤ n) :
    ∃ i type, (columnsModule n).Crowded i type := by
  obtain ⟨i, hi⟩ : ∃ i, (columnsModule n).definition? 6 = some i := ⟨_, rfl⟩
  have hlength : (i.operandsFrom 2).length = n := by
    rw [operandsFrom_columnsConstant hi, List.length_replicate]
  have hfloat : (columnsModule n).TypeLeaves [1] [1] := .scalar rfl rfl .nil
  have hvector : (columnsModule n).TypeLeaves [2] (List.replicate 2 [1]).flatten :=
    .elements_singleton rfl rfl hfloat
  obtain ⟨type, htype⟩ : ∃ type, (columnsModule n).definition? 3 = some type := ⟨_, rfl⟩
  have hcolumns : type.opcode = .typeMatrix ∧ (columnsModule n).elements? type = some (2, 2) := by
    obtain rfl := Option.some.inj htype
    exact ⟨rfl, rfl⟩
  have hmatrix : i.opcode.isCompositeConstant = true ∧ i.typeId = some 3 := by
    obtain rfl := Option.some.inj hi
    exact ⟨rfl, rfl⟩
  have htyped : (columnsModule n).typeDefinition? i = some type := by
    rw [typeDefinition?, hmatrix.2]
    exact htype
  exact ⟨i, type, (mem_of_definition? hi).1, hmatrix.1, htyped, hcolumns.1,
    ⟨2, 2, _, hcolumns.2, hvector, by decide⟩, by rwa [hlength]⟩

theorem crowdedMatrix_not_leavesAgree :
    build .v1_6 .logical (columnsConstant (UInt32.size + 2)) =
        .ok (columnsModule (UInt32.size + 2)) ∧
      (columnsModule (UInt32.size + 2)).validate .standard = .ok () ∧
      ¬ (columnsModule (UInt32.size + 2)).LeavesAgree := by
  have hbuild := build_columnsConstant (UInt32.size + 2)
  have hvalid := validate_columnsModule (Nat.add_mod_left UInt32.size 2)
  obtain ⟨i, type, hcrowded⟩ := crowded_columnsModule (Nat.le_add_right UInt32.size 2)
  exact ⟨hbuild, hvalid, hcrowded.not_leavesAgree (indexed_of_build hbuild) rfl hvalid⟩

end Module
end Spirv
