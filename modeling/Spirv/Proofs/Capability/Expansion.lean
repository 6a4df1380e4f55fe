import Spirv.Proofs.Permission.Capability
import Spirv.Proofs.Type.Levels

set_option autoImplicit false

/-!
# Expanding a set by pending capabilities

What a capability grants can be taken in one at a time: a pending capability that the set has
already is dropped, any other one is added and all that it grants directly is pending as well. The
set that is left in the end is the one that inserting gives. Hence a set has what can be reached from
the capabilities that it is made from, and neither their order nor their number matters.
-/
namespace Spirv

open Relation (ReflTransGen)

theorem Capability.ofValue?_eq_some_iff {n : Nat} {c : Capability} :
    ofValue? n = some c ↔ c.value = n := by
  constructor
  · intro h
    have hfound := List.find?_some h
    exact eq_of_beq hfound
  · rintro rfl
    exact ofValue?_value c

namespace CapabilitySet

/-- The members stand in the order of the table of capabilities, each of them once. -/
def Ordered (s : CapabilitySet) : Prop := s.members = Capability.values.filter s.contains

theorem contains_filter (p : Capability → Bool) (c : Capability) :
    contains ⟨Capability.values.filter p⟩ c = p c := by
  rw [contains, Bool.eq_iff_iff, List.contains_iff_mem, List.mem_filter]
  exact and_iff_right (Capability.mem_values c)

theorem ordered_filter (p : Capability → Bool) : Ordered ⟨Capability.values.filter p⟩ := by
  rw [Ordered, funext (contains_filter p)]

theorem Ordered.foldl_insert {s : CapabilitySet} (hs : s.Ordered) (cs : List Capability) :
    (cs.foldl insert s).Ordered := by
  induction cs generalizing s with
  | nil => exact hs
  | cons c cs ih => exact ih (ordered_filter _)

theorem ordered_ofList (cs : List Capability) : (ofList cs).Ordered := by
  have hempty : empty.Ordered := (List.filter_eq_nil_iff.mpr fun _ _ => Bool.false_ne_true).symm
  exact hempty.foldl_insert cs

theorem Ordered.eq_of_contains {s t : CapabilitySet} (hs : s.Ordered) (ht : t.Ordered)
    (h : ∀ c, s.contains c = true ↔ t.contains c = true) : s = t := by
  have hcontains : s.contains = t.contains := funext fun c => Bool.eq_iff_iff.mpr (h c)
  have hmembers : s.members = t.members := by rw [hs, ht, hcontains]
  cases s
  cases t
  exact congrArg mk hmembers

theorem contains_insert_iff (s : CapabilitySet) (c d : Capability) :
    (s.insert c).contains d = true ↔
      s.contains d = true ∨ ReflTransGen Capability.Implies c d := by
  rw [contains_insert, Bool.or_eq_true, List.contains_iff_mem, Capability.mem_granted_iff]

/-- Adds a capability without anything that it grants. -/
def add (s : CapabilitySet) (c : Capability) : CapabilitySet :=
  ⟨Capability.values.filter fun d => s.contains d || d == c⟩

theorem contains_add_iff (s : CapabilitySet) (c d : Capability) :
    (s.add c).contains d = true ↔ s.contains d = true ∨ d = c := by
  rw [add, contains_filter, Bool.or_eq_true, beq_iff_eq]

def absent (s : CapabilitySet) : Nat := Capability.values.countP fun c => !s.contains c

theorem absent_add_lt {s : CapabilitySet} {c : Capability} (hc : s.contains c = false) :
    (s.add c).absent < s.absent := by
  have hle (d : Capability) (hd : (!(s.add c).contains d) = true) : (!s.contains d) = true := by
    rw [Bool.not_eq_true', Bool.eq_false_iff] at hd ⊢
    exact fun hmem => hd ((contains_add_iff s c d).mpr (Or.inl hmem))
  refine Nat.lt_of_le_of_ne (List.countP_mono_left fun d _ => hle d) fun heq => ?_
  have hcounted := countP_eq_imp hle heq (Capability.mem_values c) (by rw [hc]; rfl)
  rw [(contains_add_iff s c c).mpr (Or.inr rfl)] at hcounted
  contradiction

end CapabilitySet

structure Expansion where
  set : CapabilitySet
  pending : List Capability

namespace Expansion

inductive Step : Expansion → Expansion → Prop where
  | skip {s : CapabilitySet} {c : Capability} {pending : List Capability}
      (hc : s.contains c = true) : Step ⟨s, c :: pending⟩ ⟨s, pending⟩
  | take {s : CapabilitySet} {c : Capability} {pending : List Capability}
      (hc : s.contains c = false) : Step ⟨s, c :: pending⟩ ⟨s.add c, c.implied ++ pending⟩

def Promises (e : Expansion) (d : Capability) : Prop :=
  e.set.contains d = true ∨ ∃ c ∈ e.pending, ReflTransGen Capability.Implies c d

def Covers (e : Expansion) : Prop :=
  ∀ c d, e.set.contains c = true → Capability.Implies c d →
    e.set.contains d = true ∨ d ∈ e.pending

variable {e e' : Expansion}

theorem Covers.promises_of_reaches (h : e.Covers) {c d : Capability}
    (hc : e.set.contains c = true) (hd : ReflTransGen Capability.Implies c d) : e.Promises d := by
  induction hd using ReflTransGen.head_induction_on with
  | refl => exact Or.inl hc
  | head hstep hrest ih =>
    obtain hmem | hpending := h _ _ hc hstep
    · exact ih hmem
    · exact Or.inr ⟨_, hpending, hrest⟩

theorem Step.covers (h : Step e e') (he : e.Covers) : e'.Covers := by
  intro a d ha had
  cases h with
  | skip hc =>
    obtain hmem | hpending := he a d ha had
    · exact Or.inl hmem
    · obtain rfl | hpending := List.mem_cons.mp hpending
      · exact Or.inl hc
      · exact Or.inr hpending
  | take hc =>
    rw [CapabilitySet.contains_add_iff] at ha ⊢
    obtain hold | rfl := ha
    · obtain hmem | hpending := he a d hold had
      · exact Or.inl (Or.inl hmem)
      · obtain rfl | hpending := List.mem_cons.mp hpending
        · exact Or.inl (Or.inr rfl)
        · exact Or.inr (List.mem_append_right _ hpending)
    · exact Or.inr (List.mem_append_left _ had)

/-- A step neither loses a capability that was promised nor promises another one. A capability that
is dropped is a member, and what it grants is covered. -/
theorem Step.promises_iff (h : Step e e') (he : e.Covers) (d : Capability) :
    e'.Promises d ↔ e.Promises d := by
  have he' := h.covers he
  cases h with
  | skip hc =>
    constructor
    · rintro (hmem | ⟨a, ha, had⟩)
      · exact Or.inl hmem
      · exact Or.inr ⟨a, List.mem_cons_of_mem _ ha, had⟩
    · rintro (hmem | ⟨a, ha, had⟩)
      · exact Or.inl hmem
      · obtain rfl | ha := List.mem_cons.mp ha
        · exact he'.promises_of_reaches hc had
        · exact Or.inr ⟨a, ha, had⟩
  | @take s c pending hc =>
    rw [Promises, CapabilitySet.contains_add_iff]
    constructor
    · rintro ((hmem | rfl) | ⟨a, ha, had⟩)
      · exact Or.inl hmem
      · exact Or.inr ⟨d, List.mem_cons_self, .refl⟩
      · obtain hgranted | ha := List.mem_append.mp ha
        · exact Or.inr ⟨c, List.mem_cons_self, .head hgranted had⟩
        · exact Or.inr ⟨a, List.mem_cons_of_mem _ ha, had⟩
    · rintro (hmem | ⟨a, ha, had⟩)
      · exact Or.inl (Or.inl hmem)
      · obtain rfl | ha := List.mem_cons.mp ha
        · obtain rfl | ⟨b, hb, hbd⟩ := ReflTransGen.cases_head had
          · exact Or.inl (Or.inr rfl)
          · exact Or.inr ⟨b, List.mem_append_left _ hb, hbd⟩
        · exact Or.inr ⟨a, List.mem_append_right _ ha, had⟩

theorem Step.ordered (h : Step e e') (he : e.set.Ordered) : e'.set.Ordered := by
  cases h with
  | skip _ => exact he
  | take _ => exact CapabilitySet.ordered_filter _

theorem promises_iff_of_run (h : ReflTransGen Step e e') (he : e.Covers) (d : Capability) :
    e'.Promises d ↔ e.Promises d := by
  induction h using ReflTransGen.head_induction_on with
  | refl => exact Iff.rfl
  | head hstep _ ih => exact (ih (hstep.covers he)).trans (hstep.promises_iff he d)

theorem ordered_of_run (h : ReflTransGen Step e e') (he : e.set.Ordered) : e'.set.Ordered := by
  induction h with
  | refl => exact he
  | tail _ hstep ih => exact hstep.ordered ih

/-- Each step either adds one of the capabilities that are absent or shortens the list. -/
theorem exists_finished (s : CapabilitySet) (pending : List Capability) :
    ∃ t, ReflTransGen Step ⟨s, pending⟩ ⟨t, []⟩ := by
  induction habsent : s.absent using Nat.strong_induction_on generalizing s pending with
  | _ n ih =>
    induction pending with
    | nil => exact ⟨s, .refl⟩
    | cons c pending shorter =>
      cases hc : s.contains c with
      | true =>
        obtain ⟨t, ht⟩ := shorter
        exact ⟨t, .head (.skip hc) ht⟩
      | false =>
        have hlt := CapabilitySet.absent_add_lt hc
        obtain ⟨t, ht⟩ := ih _ (habsent ▸ hlt) (s.add c) (c.implied ++ pending) rfl
        exact ⟨t, .head (.take hc) ht⟩

theorem covers_ofList (cs pending : List Capability) : Covers ⟨.ofList cs, pending⟩ := by
  intro c d hc hcd
  obtain ⟨a, ha, hac⟩ := (CapabilitySet.contains_ofList_iff cs c).mp hc
  exact Or.inl ((CapabilitySet.contains_ofList_iff cs d).mpr ⟨a, ha, hac.tail hcd⟩)

theorem finished_iff (cs : List Capability) (c : Capability) (t : CapabilitySet) :
    ReflTransGen Step ⟨.ofList cs, [c]⟩ ⟨t, []⟩ ↔ t = (CapabilitySet.ofList cs).insert c := by
  have hend {t : CapabilitySet} (h : ReflTransGen Step ⟨.ofList cs, [c]⟩ ⟨t, []⟩) :
      t = (CapabilitySet.ofList cs).insert c := by
    have hordered := ordered_of_run h (CapabilitySet.ordered_ofList cs)
    refine hordered.eq_of_contains (CapabilitySet.ordered_filter _) fun d => ?_
    have hkept := promises_iff_of_run h (covers_ofList cs [c]) d
    simpa [Promises, CapabilitySet.contains_insert_iff] using hkept
  refine ⟨hend, ?_⟩
  rintro rfl
  obtain ⟨t, ht⟩ := exists_finished (.ofList cs) [c]
  rwa [← hend ht]

end Expansion

namespace CapabilitySet

/-- A set has exactly what can be reached from the capabilities that are inserted. So their order
and their repetitions do not matter, nor does inserting a member again, and expanding a set comes to
the same as inserting. A built module has what can be reached from the known capabilities that its
instructions declare, wherever they stand. -/
theorem closure_exact :
    (∀ (cs : List Capability) (c : Capability),
      (cs.foldl insert empty).contains c = true ↔
        ∃ d ∈ cs, ReflTransGen Capability.Implies d c) ∧
    (∀ cs cs' : List Capability, (∀ c, c ∈ cs ↔ c ∈ cs') →
      cs.foldl insert empty = cs'.foldl insert empty) ∧
    (∀ (cs : List Capability) (c : Capability), (cs.foldl insert empty).contains c = true →
      (cs.foldl insert empty).insert c = cs.foldl insert empty) ∧
    (∀ (cs : List Capability) (c : Capability) (t : CapabilitySet),
      ReflTransGen Expansion.Step ⟨cs.foldl insert empty, [c]⟩ ⟨t, []⟩ ↔
        t = (cs.foldl insert empty).insert c) ∧
    ∀ (v : Version) (a : AddressingModel) (is : List Instruction) (m : Module),
      Module.build v a is = .ok m → ∀ c, m.hasCapability c = true ↔
        ∃ i ∈ is, i.opcode = .capability ∧ ∃ (w : Word) (d : Capability), i.operand 0 = some w ∧
          d.value = w.toNat ∧ ReflTransGen Capability.Implies d c := by
  refine ⟨contains_ofList_iff, fun cs cs' hsame => ?_, fun cs c hc => ?_, Expansion.finished_iff,
    fun v a is m hbuild c => ?_⟩
  · refine (ordered_ofList cs).eq_of_contains (ordered_ofList cs') fun c => ?_
    refine ((contains_ofList_iff cs c).trans ?_).trans (contains_ofList_iff cs' c).symm
    simp only [hsame]
  · refine (ordered_filter _).eq_of_contains (ordered_ofList cs) fun d => ?_
    refine (contains_insert_iff _ c d).trans (or_iff_left_of_imp fun hcd => ?_)
    obtain ⟨a, ha, hac⟩ := (contains_ofList_iff cs c).mp hc
    exact (contains_ofList_iff cs d).mpr ⟨a, ha, hac.trans hcd⟩
  · rw [Module.hasCapability_iff_of_build hbuild]
    simp only [Module.declaredCapability?, Option.ite_none_right_eq_some, beq_iff_eq,
      Option.bind_eq_some_iff, Capability.ofValue?_eq_some_iff]
    constructor
    · rintro ⟨i, hi, d, ⟨hop, w, hw, hd⟩, hreaches⟩
      exact ⟨i, hi, hop, w, d, hw, hd, hreaches⟩
    · rintro ⟨i, hi, hop, w, d, hw, hd, hreaches⟩
      exact ⟨i, hi, d, ⟨hop, w, hw, hd⟩, hreaches⟩

/-- Point sizes of geometry shaders lead to matrices in three steps. -/
theorem pointSizes_closure :
    let once : List Capability := [.shader, .geometryPointSize]
    let again : List Capability := [.geometryPointSize, .shader, .geometryPointSize]
    let is : List Instruction := [.ofOpcode .typeVoid [1], .ofOpcode .capability [24]]
    (∀ c, c ∈ once ↔ c ∈ again) ∧ once.foldl insert empty = again.foldl insert empty ∧
      (once.foldl insert empty).contains .geometry = true ∧
      (once.foldl insert empty).insert .geometry = once.foldl insert empty ∧
      ∃ m, Module.build .v1_6 .logical is = .ok m ∧ m.hasCapability .matrix = true := by
  intro once again is
  have hsame : ∀ c, c ∈ once ↔ c ∈ again := by
    intro c
    simp only [once, again, List.mem_cons, List.not_mem_nil, or_false]
    tauto
  have hmember : (once.foldl insert empty).contains .geometry = true := by decide
  have hbuild : Module.build .v1_6 .logical is = .ok (.assemble .v1_6 .logical (Module.place is)) :=
    rfl
  have hgeometry : Capability.Implies .geometryPointSize .geometry := List.mem_singleton_self _
  have hshader : Capability.Implies .geometry .shader := List.mem_singleton_self _
  have hmatrix : Capability.Implies .shader .matrix := List.mem_singleton_self _
  obtain ⟨-, hequal, hkept, -, hdeclared⟩ := closure_exact
  refine ⟨hsame, hequal once again hsame, hmember, hkept once _ hmember, _, hbuild, ?_⟩
  refine (hdeclared _ _ is _ hbuild _).mpr ⟨.ofOpcode .capability [24], ?_, rfl, 24,
    .geometryPointSize, rfl, rfl, ((ReflTransGen.single hgeometry).tail hshader).tail hmatrix⟩
  exact List.mem_cons_of_mem _ List.mem_cons_self

end CapabilitySet
end Spirv
