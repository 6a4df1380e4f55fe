import Mathlib.Data.List.Nodup
import Mathlib.Logic.Relation
import Spirv.Proofs.Type.Nullable
import Spirv.Type.Search

set_option autoImplicit false

/-!
# What a search finds

A search that runs into its depth bound may miss a type, since it does not come back to an id that
it has visited. Its course, the ids it meets with the levels that are left at each of them, does not
depend on what it searches for, and it finds a wanted type exactly when it enters one. With levels
enough it enters every defined type that is reachable, on cyclic types and through undefined members
as well.
-/
namespace Spirv.Module

def Searches (m : Module) (everywhere : Bool) (a b : Id) : Prop :=
  ∃ type, m.definition? a = some type ∧ b ∈ type.searched everywhere

def Finds (m : Module) (everywhere : Bool) (wanted : Instruction → Bool) (id : Id) : Prop :=
  ∃ u type, Relation.ReflTransGen (m.Searches everywhere) id u ∧ m.definition? u = some type ∧
    wanted type = true

inductive Leads (m : Module) (everywhere : Bool) (a : Id) : Nat → Id → Prop where
  | refl : Leads m everywhere a 0 a
  | tail {n : Nat} {b c : Id} (hab : Leads m everywhere a n b) (hbc : m.Searches everywhere b c) :
      Leads m everywhere a (n + 1) c

variable {m : Module} {everywhere : Bool} {wanted : Instruction → Bool}

theorem Leads.head {a b c : Id} {n : Nat} (hab : m.Searches everywhere a b)
    (hbc : m.Leads everywhere b n c) : m.Leads everywhere a (n + 1) c := by
  induction hbc with
  | refl => exact .tail .refl hab
  | tail _ hstep ih => exact ih.tail hstep

theorem reflTransGen_iff_leads {a b : Id} :
    Relation.ReflTransGen (m.Searches everywhere) a b ↔ ∃ n, m.Leads everywhere a n b := by
  constructor
  · intro h
    induction h with
    | refl => exact ⟨0, .refl⟩
    | tail _ hstep ih =>
      obtain ⟨n, hleads⟩ := ih
      exact ⟨n + 1, hleads.tail hstep⟩
  · rintro ⟨n, h⟩
    induction h with
    | refl => exact .refl
    | tail _ hstep ih => exact ih.tail hstep

/-! ### Levels that are enough -/

/-- Levels are enough to search from an id, whatever has been visited on the way to it. -/
def SearchedWithin (m : Module) (everywhere : Bool) : Nat → List Id → Id → Prop
  | 0, visited, id => id ∈ visited ∨ m.definition? id = none
  | n + 1, visited, id => id ∉ visited → ∀ type, m.definition? id = some type →
      ∀ visited', id :: visited ⊆ visited' → ∀ b ∈ type.searched everywhere,
        m.SearchedWithin everywhere n visited' b

theorem SearchedWithin.mono {n : Nat} {visited visited' : List Id} {id : Id}
    (h : m.SearchedWithin everywhere n visited id) (hsub : visited ⊆ visited') :
    m.SearchedWithin everywhere n visited' id := by
  cases n with
  | zero => exact h.imp_left fun hmem => hsub hmem
  | succ n =>
    intro hnew type hdef visited'' hsub' b hb
    exact h (fun hmem => hnew (hsub hmem)) type hdef visited''
      (List.Subset.trans (List.cons_subset_cons id hsub) hsub') b hb

def unvisitedCount (m : Module) (visited : List Id) : Nat :=
  m.instructions.countP fun i => i.resultId.any fun id => id ∉ visited

theorem unvisitedCount_nil (m : Module) : m.unvisitedCount [] = m.definitionCount := by
  refine List.countP_congr fun i _ => ?_
  cases i.resultId <;> simp

theorem unvisitedCount_lt {visited visited' : List Id} {id : Id} {type : Instruction}
    (hdef : m.definition? id = some type) (hnew : id ∉ visited)
    (hsub : id :: visited ⊆ visited') : m.unvisitedCount visited' < m.unvisitedCount visited := by
  obtain ⟨hmem, hid⟩ := mem_of_definition? hdef
  obtain ⟨hvisited, hsub⟩ := List.cons_subset.mp hsub
  have hle (i : Instruction) (hi : (i.resultId.any fun id => id ∉ visited') = true) :
      (i.resultId.any fun id => id ∉ visited) = true := by
    obtain ⟨a, ha, hnot⟩ := (Option.any_eq_true _ _).mp hi
    refine (Option.any_eq_true _ _).mpr ⟨a, ha, decide_eq_true fun hin => ?_⟩
    exact of_decide_eq_true hnot (hsub hin)
  refine Nat.lt_of_le_of_ne (List.countP_mono_left fun i _ => hle i) fun heq => ?_
  have hcounted := countP_eq_imp hle heq hmem (by simpa [hid] using hnew)
  exact absurd hvisited (by simpa [hid] using hcounted)

/-- On the way down each level visits a definition, so the definitions that are left are enough. -/
theorem searchedWithin_of_unvisitedCount {n : Nat} {visited : List Id} (id : Id)
    (h : m.unvisitedCount visited ≤ n) : m.SearchedWithin everywhere n visited id := by
  induction n generalizing visited id with
  | zero =>
    by_cases hnew : id ∈ visited
    · exact Or.inl hnew
    right
    cases hdef : m.definition? id with
    | none => rfl
    | some type =>
      have hlt := unvisitedCount_lt hdef hnew (List.Subset.refl _)
      omega
  | succ n ih =>
    intro hnew type hdef visited' hsub b _
    have hlt := unvisitedCount_lt hdef hnew hsub
    exact ih b (by omega)

/-! ### The course of a search -/

/-- The ids that a search meets when no type ends it, the last one first, each with the levels that
are left where it is met first. A defined one is entered when a level is left. -/
def course (m : Module) (everywhere : Bool) : Nat → List (Id × Nat) → Id → List (Id × Nat)
  | 0, met, id => if id ∈ met.map Prod.fst then met else (id, 0) :: met
  | levels + 1, met, id =>
    if id ∈ met.map Prod.fst then met
    else
      match m.definition? id with
      | none => (id, levels + 1) :: met
      | some type =>
        (type.searched everywhere).foldl (m.course everywhere levels) ((id, levels + 1) :: met)

/-- What a course from some ids in turn, with `n` levels for each, adds to the ids met before. -/
structure Walked (m : Module) (everywhere : Bool) (n : Nat) (ids : List Id)
    (met met' : List (Id × Nat)) : Prop where
  subset : met ⊆ met'
  nodup : (met.map Prod.fst).Nodup → (met'.map Prod.fst).Nodup
  meets : ids ⊆ met'.map Prod.fst
  leads : ∀ v ∈ met', v ∉ met → ∃ a ∈ ids, ∃ k, m.Leads everywhere a k v.1 ∧ k + v.2 = n
  closed : ∀ v ∈ met', v ∉ met → v.2 ≠ 0 → ∀ type, m.definition? v.1 = some type →
    type.searched everywhere ⊆ met'.map Prod.fst
  enough : (∀ id ∈ ids, m.SearchedWithin everywhere n (met.map Prod.fst) id) →
    ∀ v ∈ met', v ∉ met → v.2 = 0 → m.definition? v.1 = none

namespace Walked

variable {n : Nat} {id : Id} {ids : List Id} {met met' met'' : List (Id × Nat)}

theorem met_before (h : ids ⊆ met.map Prod.fst) : m.Walked everywhere n ids met met where
  subset := List.Subset.refl met
  nodup := fun hnodup => hnodup
  meets := h
  leads _ hmem hnew := absurd hmem hnew
  closed _ hmem hnew := absurd hmem hnew
  enough _ _ hmem hnew := absurd hmem hnew

theorem cons (h : m.Walked everywhere n [id] met met')
    (h' : m.Walked everywhere n ids met' met'') : m.Walked everywhere n (id :: ids) met met'' where
  subset := List.Subset.trans h.subset h'.subset
  nodup hnodup := h'.nodup (h.nodup hnodup)
  meets := by
    have hid : id ∈ met'.map Prod.fst := h.meets List.mem_cons_self
    exact List.cons_subset.mpr ⟨List.map_subset _ h'.subset hid, h'.meets⟩
  leads v hv hnew := by
    by_cases hv' : v ∈ met'
    · obtain ⟨a, ha, hleads⟩ := h.leads v hv' hnew
      obtain rfl := List.mem_singleton.mp ha
      exact ⟨a, List.mem_cons_self, hleads⟩
    · obtain ⟨a, ha, hleads⟩ := h'.leads v hv hv'
      exact ⟨a, List.mem_cons_of_mem id ha, hleads⟩
  closed v hv hnew hlevels type hdef := by
    by_cases hv' : v ∈ met'
    · exact List.Subset.trans (h.closed v hv' hnew hlevels type hdef)
        (List.map_subset _ h'.subset)
    · exact h'.closed v hv hv' hlevels type hdef
  enough hids v hv hnew hlevels := by
    by_cases hv' : v ∈ met'
    · refine h.enough (fun a ha => ?_) v hv' hnew hlevels
      obtain rfl := List.mem_singleton.mp ha
      exact hids a List.mem_cons_self
    · refine h'.enough (fun a ha => ?_) v hv hv' hlevels
      exact (hids a (List.mem_cons_of_mem id ha)).mono (List.map_subset _ h.subset)

theorem foldl {walk : List (Id × Nat) → Id → List (Id × Nat)}
    (h : ∀ met id, m.Walked everywhere n [id] met (walk met id)) (met : List (Id × Nat))
    (ids : List Id) : m.Walked everywhere n ids met (ids.foldl walk met) := by
  induction ids generalizing met with
  | nil => exact met_before (List.nil_subset _)
  | cons id ids ih => exact (h met id).cons (ih (walk met id))

/-- Meeting an id that is not entered. -/
theorem stop (hnew : id ∉ met.map Prod.fst) (hstop : n = 0 ∨ m.definition? id = none) :
    m.Walked everywhere n [id] met ((id, n) :: met) where
  subset := List.subset_cons_self _ _
  nodup hnodup := List.nodup_cons.mpr ⟨hnew, hnodup⟩
  meets := by simp
  leads v hv hv' := by
    obtain rfl := (List.mem_cons.mp hv).resolve_right hv'
    exact ⟨id, List.mem_cons_self, 0, .refl, Nat.zero_add n⟩
  closed v hv hv' hlevels type hdef := by
    obtain rfl := (List.mem_cons.mp hv).resolve_right hv'
    have hnone := hstop.resolve_left hlevels
    rw [hdef] at hnone
    contradiction
  enough hids v hv hv' hlevels := by
    obtain rfl := (List.mem_cons.mp hv).resolve_right hv'
    obtain rfl : n = 0 := hlevels
    exact (hids id List.mem_cons_self).resolve_left hnew

/-- Meeting an id that is entered. -/
theorem enter {type : Instruction} (hnew : id ∉ met.map Prod.fst)
    (hdef : m.definition? id = some type)
    (h : m.Walked everywhere n (type.searched everywhere) ((id, n + 1) :: met) met') :
    m.Walked everywhere (n + 1) [id] met met' where
  subset := List.Subset.trans (List.subset_cons_self _ _) h.subset
  nodup hnodup := h.nodup (List.nodup_cons.mpr ⟨hnew, hnodup⟩)
  meets := by
    have hid : id ∈ met'.map Prod.fst := List.mem_map_of_mem (h.subset List.mem_cons_self)
    simpa using hid
  leads v hv hv' := by
    by_cases hfirst : v = (id, n + 1)
    · subst hfirst
      exact ⟨id, List.mem_cons_self, 0, .refl, Nat.zero_add _⟩
    · obtain ⟨b, hb, k, hleads, hk⟩ := h.leads v hv (by simp [hfirst, hv'])
      exact ⟨id, List.mem_cons_self, k + 1, .head ⟨type, hdef, hb⟩ hleads, by omega⟩
  closed v hv hv' hlevels type' hdef' := by
    by_cases hfirst : v = (id, n + 1)
    · subst hfirst
      obtain rfl := Option.some.inj (hdef.symm.trans hdef')
      exact h.meets
    · exact h.closed v hv (by simp [hfirst, hv']) hlevels type' hdef'
  enough hids v hv hv' hlevels := by
    by_cases hfirst : v = (id, n + 1)
    · subst hfirst
      contradiction
    · refine h.enough (fun b hb => ?_) v hv (by simp [hfirst, hv']) hlevels
      exact hids id List.mem_cons_self hnew type hdef _ (List.Subset.refl _) b hb

end Walked

theorem walked_course (m : Module) (everywhere : Bool) (n : Nat) (met : List (Id × Nat)) (id : Id) :
    m.Walked everywhere n [id] met (m.course everywhere n met id) := by
  induction n generalizing met id with
  | zero =>
    rw [course]
    split
    · rename_i hmet
      exact .met_before (by simpa using hmet)
    · rename_i hnew
      exact .stop hnew (.inl rfl)
  | succ n ih =>
    rw [course]
    split
    · rename_i hmet
      exact .met_before (by simpa using hmet)
    rename_i hnew
    cases hdef : m.definition? id with
    | none => exact .stop hnew (.inr hdef)
    | some type => exact .enter hnew hdef (.foldl ih _ _)

/-! ### What is entered -/

/-- A search from an id, at most `depth` types deep, enters another id where a level is left for
it. -/
def Enters (m : Module) (everywhere : Bool) (depth : Nat) (id u : Id) : Prop :=
  ∃ levels, levels ≠ 0 ∧ (u, levels) ∈ m.course everywhere (depth + 1) [] id

/-- A search gives up at a defined id that it meets first where no level is left. -/
def GivesUpAt (m : Module) (everywhere : Bool) (depth : Nat) (id u : Id) : Prop :=
  (u, 0) ∈ m.course everywhere (depth + 1) [] id ∧ ∃ type, m.definition? u = some type

variable {depth : Nat} {id u : Id}

theorem Enters.leads (h : m.Enters everywhere depth id u) :
    ∃ k, k ≤ depth ∧ m.Leads everywhere id k u := by
  obtain ⟨levels, hlevels, hmem⟩ := h
  obtain ⟨a, ha, k, hleads, hk⟩ := (m.walked_course everywhere _ _ _).leads _ hmem List.not_mem_nil
  obtain rfl := List.mem_singleton.mp ha
  exact ⟨k, by dsimp only at hk; omega, hleads⟩

theorem GivesUpAt.leads (h : m.GivesUpAt everywhere depth id u) :
    m.Leads everywhere id (depth + 1) u := by
  obtain ⟨a, ha, k, hleads, hk⟩ := (m.walked_course everywhere _ _ _).leads _ h.1 List.not_mem_nil
  obtain rfl := List.mem_singleton.mp ha
  obtain rfl : k = depth + 1 := hk
  exact hleads

theorem GivesUpAt.not_enters (h : m.GivesUpAt everywhere depth id u) :
    ¬ m.Enters everywhere depth id u := by
  rintro ⟨levels, hlevels, hmem⟩
  have hnodup := (m.walked_course everywhere (depth + 1) [] id).nodup List.nodup_nil
  have heq := List.inj_on_of_nodup_map hnodup hmem h.1 rfl
  exact hlevels (congrArg Prod.snd heq)

theorem not_givesUpAt (henough : m.SearchedWithin everywhere (depth + 1) [] id) :
    ¬ m.GivesUpAt everywhere depth id u := by
  rintro ⟨hmem, type, hdef⟩
  have hnone := (m.walked_course everywhere _ _ _).enough (by simpa using henough) _ hmem
    List.not_mem_nil rfl
  rw [hdef] at hnone
  contradiction

/-- A search enters a defined id that it meets and does not give up at. -/
theorem enters_of_mem_course {type : Instruction}
    (hmem : u ∈ (m.course everywhere (depth + 1) [] id).map Prod.fst)
    (hdef : m.definition? u = some type) (hgives : ¬ m.GivesUpAt everywhere depth id u) :
    m.Enters everywhere depth id u := by
  obtain ⟨⟨_, levels⟩, hv, rfl⟩ := List.mem_map.mp hmem
  refine ⟨levels, fun hzero => hgives ⟨?_, type, hdef⟩, hv⟩
  rwa [← hzero]

/-- A search meets what some steps lead to, when it gives up nowhere on the way. -/
theorem mem_course_of_leads {k : Nat} (hu : m.Leads everywhere id k u)
    (hgives : ∀ j < k, ∀ a, m.Leads everywhere id j a → ¬ m.GivesUpAt everywhere depth id a) :
    u ∈ (m.course everywhere (depth + 1) [] id).map Prod.fst := by
  induction hu with
  | refl => exact (m.walked_course everywhere _ _ _).meets List.mem_cons_self
  | @tail j b c hb hstep ih =>
    -- the id before it has a step, so it is defined, and it is entered since it is not given up
    obtain ⟨type, hdef, hc⟩ := hstep
    have hmet := ih fun i hi => hgives i (by omega)
    obtain ⟨levels, hlevels, hmem⟩ := enters_of_mem_course hmet hdef (hgives j (by omega) b hb)
    exact (m.walked_course everywhere _ _ _).closed _ hmem List.not_mem_nil hlevels type hdef hc

/-! ### What is found -/

/-- Searching from some ids visits what their course meets, up to the first hit. -/
def Follows (hit : Id × Nat → Bool) (result : Bool × List Id) (met : List (Id × Nat)) : Prop :=
  result.1 = met.any hit ∧ (result.1 = false → result.2 = met.map Prod.fst)

theorem Follows.of_none {hit : Id × Nat → Bool} {met : List (Id × Nat)} (h : met.any hit = false) :
    Follows hit (false, met.map Prod.fst) met :=
  ⟨h.symm, fun _ => rfl⟩

theorem follows_searchEach {hit : Id × Nat → Bool} {search : List Id → Id → Bool × List Id}
    {walk : List (Id × Nat) → Id → List (Id × Nat)} {n : Nat}
    (hwalk : ∀ met id, m.Walked everywhere n [id] met (walk met id))
    (hfollows : ∀ met id, met.any hit = false →
      Follows hit (search (met.map Prod.fst) id) (walk met id))
    {met : List (Id × Nat)} (hnone : met.any hit = false) (ids : List Id) :
    Follows hit (searchEach search (met.map Prod.fst) ids) (ids.foldl walk met) := by
  induction ids generalizing met with
  | nil => exact .of_none hnone
  | cons id ids ih =>
    obtain ⟨hany, hvisited⟩ := hfollows met id hnone
    rw [searchEach, List.foldl_cons]
    split
    · -- the course goes on where the search ends, and the hit stays in it
      rename_i heq
      rw [heq] at hany
      obtain ⟨v, hv, hhit⟩ := List.any_eq_true.mp hany.symm
      have hmem := (Walked.foldl hwalk (walk met id) ids).subset hv
      exact ⟨(List.any_eq_true.mpr ⟨v, hmem, hhit⟩).symm, fun h => by contradiction⟩
    · rename_i visited heq
      rw [heq] at hany hvisited
      obtain rfl := hvisited rfl
      exact ih hany.symm

def hits (m : Module) (wanted : Instruction → Bool) (v : Id × Nat) : Bool :=
  v.2 != 0 && (m.definition? v.1).any wanted

theorem follows_searchFrom (n : Nat) (met : List (Id × Nat))
    (hnone : met.any (m.hits wanted) = false) (id : Id) :
    Follows (m.hits wanted) (m.searchFrom everywhere wanted n (met.map Prod.fst) id)
      (m.course everywhere n met id) := by
  induction n generalizing met id with
  | zero =>
    rw [searchFrom, course]
    split
    · exact .of_none hnone
    · have hzero : ((id, 0) :: met).any (m.hits wanted) = false := by
        rw [List.any_cons, hnone]
        rfl
      exact .of_none hzero
  | succ n ih =>
    have hfirst : ((id, n + 1) :: met).any (m.hits wanted) = (m.definition? id).any wanted := by
      rw [List.any_cons, hnone, Bool.or_false]
      rfl
    rw [searchFrom, course]
    split
    · exact .of_none hnone
    cases hdef : m.definition? id with
    | none =>
      rw [hdef, Option.any_none] at hfirst
      exact .of_none hfirst
    | some type =>
      rw [hdef, Option.any_some] at hfirst
      dsimp only
      split
      · rename_i hwanted
        obtain ⟨v, hv, hhit⟩ := List.any_eq_true.mp (hfirst.trans hwanted)
        have hwalked := Walked.foldl (m.walked_course everywhere n) ((id, n + 1) :: met)
          (type.searched everywhere)
        have hmem := hwalked.subset hv
        exact ⟨(List.any_eq_true.mpr ⟨v, hmem, hhit⟩).symm, fun h => by contradiction⟩
      · rename_i hwanted
        have hunwanted := hfirst.trans (Bool.eq_false_iff.mpr hwanted)
        exact follows_searchEach (m.walked_course everywhere n) (fun met b hb => ih met hb b)
          hunwanted _

/-- A search succeeds exactly when it would enter a wanted type. -/
theorem containsType_iff_enters :
    m.containsType depth everywhere wanted id = true ↔
      ∃ u type, m.Enters everywhere depth id u ∧ m.definition? u = some type ∧
        wanted type = true := by
  have hfollows : Follows (m.hits wanted) (m.searchFrom everywhere wanted (depth + 1) [] id)
      (m.course everywhere (depth + 1) [] id) := follows_searchFrom (depth + 1) [] rfl id
  rw [containsType, hfollows.1, List.any_eq_true]
  simp only [hits, Bool.and_eq_true, bne_iff_ne, Option.any_eq_true]
  constructor
  · rintro ⟨v, hv, hlevels, type, hdef, hwanted⟩
    exact ⟨v.1, type, ⟨v.2, hlevels, hv⟩, hdef, hwanted⟩
  · rintro ⟨u, type, ⟨levels, hlevels, hv⟩, hdef, hwanted⟩
    exact ⟨(u, levels), hv, hlevels, type, hdef, hwanted⟩

/-- With levels enough, a search succeeds exactly when a wanted type is reachable. -/
theorem containsType_iff {depth : Nat} {id : Id}
    (henough : m.SearchedWithin everywhere (depth + 1) [] id) :
    m.containsType depth everywhere wanted id = true ↔ m.Finds everywhere wanted id := by
  simp only [containsType_iff_enters, Finds, reflTransGen_iff_leads]
  constructor
  · rintro ⟨u, type, hu, hdef, hwanted⟩
    obtain ⟨k, -, hleads⟩ := hu.leads
    exact ⟨u, type, ⟨k, hleads⟩, hdef, hwanted⟩
  · rintro ⟨u, type, ⟨k, hleads⟩, hdef, hwanted⟩
    have hmem := mem_course_of_leads hleads fun _ _ _ _ => not_givesUpAt henough
    exact ⟨u, type, enters_of_mem_course hmem hdef (not_givesUpAt henough), hdef, hwanted⟩

end Spirv.Module
