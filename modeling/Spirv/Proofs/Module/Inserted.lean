import Mathlib.Data.List.Forall2
import Spirv.Proofs.Module.Rearranged

set_option autoImplicit false

/-!
# Sequences with an instruction put in

Putting an instruction into a sequence moves the ones behind it. When the instruction is one that
the tables do not look at, the tables of the longer sequence are those of the shorter one, with the
positions moved.
-/
namespace Spirv

/-- The second list has one element more than the first one. The others are related in order. -/
inductive Inserted {α β : Type} (R : α → β → Prop) (x : β) (as : List α) : List β → Prop where
  | intro (before after : List β) (h : List.Forall₂ R as (before ++ after)) :
      Inserted R x as (before ++ x :: after)

namespace Inserted

variable {α β γ δ : Type} {R : α → β → Prop} {x : β} {as : List α} {bs : List β}

theorem map {S : γ → δ → Prop} {f : α → γ} {g : β → δ} (h : Inserted R x as bs)
    (hfg : ∀ a b, R a b → S (f a) (g b)) : Inserted S (g x) (as.map f) (bs.map g) := by
  obtain ⟨before, after, h⟩ := h
  rw [List.map_append, List.map_cons]
  refine .intro _ _ ?_
  rw [← List.map_append]
  exact List.rel_map hfg h

theorem imp_of_mem {S : α → β → Prop} (h : Inserted R x as bs)
    (hRS : ∀ a ∈ as, ∀ b ∈ bs, R a b → S a b) : Inserted S x as bs := by
  obtain ⟨before, after, h⟩ := h
  refine .intro _ _ (List.forall₂_iff_zip.mpr ⟨h.length_eq, fun {a b} hab => ?_⟩)
  have hmem := List.of_mem_zip hab
  refine hRS a hmem.1 b ?_ (List.forall₂_zip h hab)
  exact (List.sublist_cons_self x after).append_left before |>.mem hmem.2

theorem exists_image (h : Inserted R x as bs) {a : α} (ha : a ∈ as) : ∃ b ∈ bs, R a b := by
  obtain ⟨before, after, h⟩ := h
  obtain ⟨n, hn, rfl⟩ := List.getElem_of_mem ha
  have hn' : n < (before ++ after).length := h.length_eq ▸ hn
  refine ⟨(before ++ after)[n], ?_, h.get hn hn'⟩
  exact (List.sublist_cons_self x after).append_left before |>.mem (List.getElem_mem hn')

theorem eq_or_exists_origin (h : Inserted R x as bs) {b : β} (hb : b ∈ bs) :
    b = x ∨ ∃ a ∈ as, R a b := by
  obtain ⟨before, after, h⟩ := h
  have hmem : b = x ∨ b ∈ before ++ after := by
    simp only [List.mem_append, List.mem_cons] at hb ⊢
    tauto
  refine hmem.imp_right fun hb => ?_
  obtain ⟨n, hn, rfl⟩ := List.getElem_of_mem hb
  have hn' : n < as.length := h.length_eq ▸ hn
  exact ⟨as[n], List.getElem_mem hn', h.get hn' hn⟩

theorem forall_iff {p : α → Prop} {q : β → Prop} (h : Inserted R x as bs) (hx : q x)
    (hpq : ∀ a b, R a b → (p a ↔ q b)) : (∀ a ∈ as, p a) ↔ ∀ b ∈ bs, q b := by
  constructor
  · intro hall b hb
    obtain rfl | ⟨a, ha, hab⟩ := h.eq_or_exists_origin hb
    · exact hx
    · exact (hpq a b hab).mp (hall a ha)
  · intro hall a ha
    obtain ⟨b, hb, hab⟩ := h.exists_image ha
    exact (hpq a b hab).mpr (hall b hb)

theorem filter {p : α → Bool} {q : β → Bool} (h : Inserted R x as bs) (hx : q x = false)
    (hpq : ∀ a b, R a b → p a = q b) : List.Forall₂ R (as.filter p) (bs.filter q) := by
  obtain ⟨before, after, h⟩ := h
  rw [List.filter_append, List.filter_cons_of_neg (by rw [hx]; exact Bool.false_ne_true),
    ← List.filter_append]
  exact List.rel_filter (fun a b hab => iff_of_eq (congrArg (· = true) (hpq a b hab))) h

theorem filterMap {S : γ → δ → Prop} {f : α → Option γ} {g : β → Option δ}
    (h : Inserted R x as bs) (hx : g x = none) (hfg : ∀ a b, R a b → Option.Rel S (f a) (g b)) :
    List.Forall₂ S (as.filterMap f) (bs.filterMap g) := by
  obtain ⟨before, after, h⟩ := h
  rw [List.filterMap_append, List.filterMap_cons_none hx, ← List.filterMap_append]
  exact List.rel_filterMap hfg h

theorem find? {p : α → Bool} {q : β → Bool} (h : Inserted R x as bs) (hx : q x = false)
    (hpq : ∀ a b, R a b → p a = q b) : Option.Rel R (as.find? p) (bs.find? q) := by
  have hfiltered := h.filter hx hpq
  rw [← List.head?_filter, ← List.head?_filter]
  generalize as.filter p = found, bs.filter q = found' at hfiltered ⊢
  cases hfiltered with
  | nil => exact .none
  | cons hab _ => exact .some hab

end Inserted

/-- Opcodes that no table depends on, except for those of names, decorations and references. -/
def Opcode.isPassive (op : Opcode) : Bool :=
  !op.hasResultId && op != .capability && op != .extension && op != .memoryModel

theorem Opcode.isPassive_iff {op : Opcode} :
    op.isPassive = true ↔ op.hasResultId = false ∧ op ≠ .capability ∧ op ≠ .extension ∧
      op ≠ .memoryModel := by
  simp [isPassive, and_assoc]

/-- Where instructions stand after one has been put in at `k`. The one put in comes from behind the
`rest` ones that follow. -/
def insertion (k rest : Nat) : Equiv.Perm Nat where
  toFun n := if n < k then n else if n < k + rest then n + 1 else if n = k + rest then k else n
  invFun n := if n < k then n else if n = k then k + rest else if n ≤ k + rest then n - 1 else n
  left_inv n := by
    dsimp only
    split_ifs <;> omega
  right_inv n := by
    dsimp only
    split_ifs <;> omega

theorem insertion_apply {k rest n : Nat} (hn : n < k + rest) :
    insertion k rest n = if n < k then n else n + 1 := by
  simp only [insertion, Equiv.coe_fn_mk, if_pos hn]

/-- Behind all other instructions, putting one in moves none. -/
theorem insertion_last (k : Nat) : insertion k 0 = Equiv.refl Nat := by
  ext n
  simp only [insertion, Equiv.coe_fn_mk, Equiv.refl_apply]
  split_ifs <;> omega

namespace Module

def placeFrom (n : Nat) (is : List Instruction) : List Instruction :=
  (is.zipIdx n).map fun (i, n) => { i with position := n, uses := [] }

theorem placeFrom_append (n : Nat) (is js : List Instruction) :
    placeFrom n (is ++ js) = placeFrom n is ++ placeFrom (n + is.length) js := by
  rw [placeFrom, List.zipIdx_append, List.map_append]
  rfl

theorem map_movedBy_placeFrom {σ : Equiv.Perm Nat} {n n' : Nat} {is : List Instruction}
    (h : ∀ k < is.length, σ (n + k) = n' + k) :
    (placeFrom n is).map (·.movedBy σ) = placeFrom n' is := by
  induction is generalizing n n' with
  | nil => rfl
  | cons i is ih =>
    have hi : σ n = n' := h 0 (Nat.succ_pos _)
    have hbehind : ∀ k < is.length, σ (n + 1 + k) = n' + 1 + k := by
      intro k hk
      rw [Nat.add_right_comm, Nat.add_right_comm n']
      exact h (k + 1) (Nat.succ_lt_succ hk)
    have his := ih hbehind
    simp only [placeFrom, List.zipIdx_cons, List.map_cons, Instruction.movedBy, hi] at his ⊢
    rw [his]

/-- The second sequence has the moved instructions of the first one, and one instruction more. -/
abbrev Joins (σ : Equiv.Perm Nat) (x : Instruction) : List Instruction → List Instruction → Prop :=
  Inserted (fun i j => i.movedBy σ = j) x

theorem joins_place (x : Instruction) (before after : List Instruction) :
    Joins (insertion before.length after.length) { x with position := before.length, uses := [] }
      (place (before ++ after)) (place (before ++ x :: after)) := by
  have hbefore : (placeFrom 0 before).map (·.movedBy (insertion before.length after.length)) =
      placeFrom 0 before := by
    refine map_movedBy_placeFrom fun k hk => ?_
    rw [insertion_apply (by omega), if_pos (by omega)]
  have hafter : (placeFrom before.length after).map
      (·.movedBy (insertion before.length after.length)) =
      placeFrom (before.length + 1) after := by
    refine map_movedBy_placeFrom fun k hk => ?_
    rw [insertion_apply (by omega), if_neg (by omega)]
    omega
  have hplace (is : List Instruction) : place (before ++ is) =
      placeFrom 0 before ++ placeFrom before.length is := by
    rw [← Nat.zero_add before.length]
    exact placeFrom_append 0 before is
  have hx : placeFrom before.length (x :: after) =
      { x with position := before.length, uses := [] } ::
        placeFrom (before.length + 1) after := rfl
  rw [hplace, hplace, hx]
  refine .intro _ _ ?_
  rw [← List.forall₂_map_left_iff, List.forall₂_eq_eq_eq, List.map_append, hbefore, hafter]

theorem joins_append (x : Instruction) (is : List Instruction) :
    Joins (Equiv.refl Nat) { x with position := is.length, uses := [] } (place is)
      (place (is ++ [x])) := by
  have h := joins_place x is []
  rwa [List.length_nil, insertion_last, List.append_nil] at h

namespace Joins

variable {σ : Equiv.Perm Nat} {x : Instruction} {is js : List Instruction}

theorem filter_eq (h : Joins σ x is js) (among : Opcode → Bool) (hx : among x.opcode = false) :
    js.filter (among ·.opcode) = (is.filter (among ·.opcode)).map (·.movedBy σ) := by
  have hfiltered := h.filter (p := (among ·.opcode)) (q := (among ·.opcode)) hx
    (by rintro i _ rfl; rfl)
  rw [← List.forall₂_map_left_iff, List.forall₂_eq_eq_eq] at hfiltered
  exact hfiltered.symm

theorem filterMap_eq (h : Joins σ x is js) {α : Type} {declared? : Instruction → Option α}
    (hx : declared? x = none) (hcode : ∀ i : Instruction, declared? (i.movedBy σ) = declared? i) :
    is.filterMap declared? = js.filterMap declared? := by
  rw [← List.forall₂_eq_eq_eq]
  refine h.filterMap hx ?_
  rintro i _ rfl
  rw [hcode]
  cases declared? i with
  | none => exact .none
  | some a => exact .some rfl

theorem checkResults_iff (h : Joins σ x is js) (hx : x.opcode.resultIdIndex = none) :
    checkResults [] is = .ok () ↔ checkResults [] js = .ok () := by
  have hresults : is.filterMap Instruction.resultId = js.filterMap Instruction.resultId :=
    h.filterMap_eq (by rw [Instruction.resultId, hx]; rfl) fun _ => rfl
  rw [checkResults_eq_ok_iff, checkResults_eq_ok_iff, hresults]
  refine and_congr_left fun _ => h.forall_iff ?_ ?_
  · intro k hk
    rw [hx] at hk
    contradiction
  · rintro i _ rfl
    rfl

theorem exists_build (h : Joins σ x (place is) (place js)) (hx : x.opcode.hasResultId = false)
    {v : Version} {a : AddressingModel} {m : Module} (hm : build v a is = .ok m) :
    ∃ m', build v a js = .ok m' := by
  have hnone : x.opcode.resultIdIndex = none := by
    rw [Opcode.resultIdIndex, hx]
    rfl
  have hresults := (h.checkResults_iff hnone).mp ((build_eq_ok_iff v a is m).mp hm).1
  exact ⟨_, (build_eq_ok_iff v a js _).mpr ⟨hresults, rfl⟩⟩

theorem importedSet?_eq (h : Joins σ x is js) (hx : x.opcode ≠ .extInstImport) :
    importedSet? is = importedSet? js := by
  have hcode : Inserted Instruction.SameCode x is js :=
    h.imp_of_mem fun i _ _ _ hij => hij ▸ i.sameCode_movedBy σ
  funext id
  refine SameFind.map (hcode.find? ?_ fun i j hij => ?_) fun i j hij => by rw [hij.operandsFrom]
  · rw [beq_eq_false_iff_ne.mpr hx, Bool.false_and]
  · rw [hij.opcode, hij.resultId]

end Joins
end Module
end Spirv
