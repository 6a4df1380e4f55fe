import Spirv.Proofs.Module.Scan

set_option autoImplicit false

/-!
# The parameters of a function

The parameter table of a built module gives the `k`-th parameter below a function the slot `k` of
that function, where the parameters below a function end at the next function.
-/
namespace Spirv

/-- An element that passes a filter comes behind as many as pass in front of it. -/
theorem getElem?_filter_iff {α : Type} {q : α → Bool} {as : List α} {a : α} {k : Nat} :
    (as.filter q)[k]? = some a ↔
      ∃ n, as[n]? = some a ∧ q a = true ∧ (as.take n).countP q = k := by
  induction as generalizing k with
  | nil => simp
  | cons b as ih =>
    -- a place in the list is its head or a place in its tail
    rw [← Nat.or_exists_add_one]
    cases hb : q b with
    | false =>
      have hne : ¬ (b = a ∧ q a = true) := by
        rintro ⟨rfl, hq⟩
        rw [hb] at hq
        contradiction
      simp [hb, ih, ← and_assoc, hne]
    | true =>
      cases k with
      | zero =>
        simp only [List.filter_cons_of_pos hb, List.getElem?_cons_zero, List.getElem?_cons_succ,
          List.take_zero, List.countP_nil, List.take_succ_cons, List.countP_cons_of_pos hb]
        constructor
        · rintro h
          exact Or.inl ⟨h, Option.some.inj h ▸ hb, trivial⟩
        · rintro (⟨h, -⟩ | ⟨n, -, -, hcount⟩)
          · exact h
          · exact absurd hcount (Nat.succ_ne_zero _)
      | succ k => simp [hb, ih]

/-- An element is in the longest part that passes a test when it and all in front of it pass. -/
theorem getElem?_takeWhile_iff {α : Type} {q : α → Bool} {as : List α} {a : α} {n : Nat} :
    (as.takeWhile q)[n]? = some a ↔
      as[n]? = some a ∧ ∀ j ≤ n, ∀ b, as[j]? = some b → q b = true := by
  rw [List.takeWhile_eq_take_findIdx_not, List.getElem?_take, Option.ite_none_right_eq_some,
    and_comm]
  refine and_congr_right fun ha => ?_
  obtain ⟨hn, -⟩ := List.getElem?_eq_some_iff.mp ha
  constructor
  · intro hlt j hj b hb
    obtain ⟨hj', rfl⟩ := List.getElem?_eq_some_iff.mp hb
    simpa using List.not_of_lt_findIdx (Nat.lt_of_le_of_lt hj hlt)
  · intro hall
    refine List.lt_findIdx_of_not hn fun j hj => ?_
    simpa using hall j hj _ (List.getElem?_eq_getElem (by omega))

theorem take_takeWhile {α : Type} {q : α → Bool} {as : List α} {n : Nat}
    (hn : n ≤ (as.takeWhile q).length) : (as.takeWhile q).take n = as.take n := by
  rw [List.prefix_iff_eq_take.mp (List.takeWhile_prefix q), List.take_take, Nat.min_eq_left hn]

namespace Module

open ParameterTable

def parametersOf (m : Module) (function : Instruction) : List Instruction :=
  ((m.instructions.drop (function.position + 1)).takeWhile (·.opcode != .function)).filter
    (·.opcode == .functionParameter)

theorem mem_parametersOf {m : Module} {f p : Instruction} (h : p ∈ m.parametersOf f) :
    p ∈ m.instructions ∧ p.opcode = .functionParameter := by
  obtain ⟨hmem, hop⟩ := List.mem_filter.mp h
  exact ⟨List.mem_of_mem_drop ((List.takeWhile_sublist _).mem hmem), by simpa using hop⟩

theorem Indexed.pairwise_position {m : Module} (hm : m.Indexed) :
    m.instructions.Pairwise fun i j => i.position < j.position := by
  rw [List.pairwise_iff_getElem]
  intro a b ha hb hlt
  rw [hm.position a _ (List.getElem?_eq_getElem ha), hm.position b _ (List.getElem?_eq_getElem hb)]
  exact hlt

/-- The parameters of a function are the parameters that have it as the closest function in front
of them, each behind as many of them as stand in between. -/
theorem Indexed.getElem?_parametersOf_iff {m : Module} (hm : m.Indexed) {f p : Instruction}
    {k : Nat} (hf : f ∈ m.instructions) (hop : f.opcode = .function) :
    (m.parametersOf f)[k]? = some p ↔
      p ∈ m.instructions ∧ p.opcode = .functionParameter ∧
        LastFunction m.instructions p.position f.position ∧
        parametersBetween m.instructions f.position p.position = k := by
  rw [parametersOf, getElem?_filter_iff]
  constructor
  · rintro ⟨n, hn, hparameter, hcount⟩
    obtain ⟨hn', hbody⟩ := getElem?_takeWhile_iff.mp hn
    obtain ⟨hlt, -⟩ := List.getElem?_eq_some_iff.mp hn
    rw [take_takeWhile (Nat.le_of_lt hlt)] at hcount
    rw [List.getElem?_drop] at hn'
    have hposition : p.position = f.position + 1 + n := hm.position _ _ hn'
    refine ⟨List.mem_of_getElem? hn', by simpa using hparameter, ⟨by omega, ?_, ?_⟩, ?_⟩
    · exact ⟨f, hm.instruction?_position hf, hop⟩
    · rintro g hfg hgp ⟨i, hi, hfunction⟩
      have hg : (m.instructions.drop (f.position + 1))[g - (f.position + 1)]? = some i := by
        rw [List.getElem?_drop, Nat.add_sub_cancel' hfg]
        exact hi
      simpa [hfunction] using hbody _ (by omega) i hg
    · rw [parametersBetween, hposition, List.drop_take, Nat.add_sub_cancel_left]
      exact hcount
  · rintro ⟨hp, hparameter, hlast, hcount⟩
    have hlt := hlast.lt
    have hn : (m.instructions.drop (f.position + 1))[p.position - (f.position + 1)]? = some p := by
      rw [List.getElem?_drop, Nat.add_sub_cancel' hlt]
      exact hm.instruction?_position hp
    have hbody : ((m.instructions.drop (f.position + 1)).takeWhile
        (·.opcode != .function))[p.position - (f.position + 1)]? = some p := by
      refine getElem?_takeWhile_iff.mpr ⟨hn, fun j hj i hi => ?_⟩
      rw [bne_iff_ne]
      intro hfunction
      rw [List.getElem?_drop] at hi
      obtain hlt' | heq := Nat.lt_or_eq_of_le hj
      · exact hlast.last _ (by omega) (by omega) ⟨i, hi, hfunction⟩
      · have hi' : m.instructions[p.position]? = some i := by
          rw [← hi]
          congr 1
          omega
        obtain rfl := Option.some.inj ((hm.instruction?_position hp).symm.trans hi')
        rw [hparameter] at hfunction
        contradiction
    obtain ⟨hlength, -⟩ := List.getElem?_eq_some_iff.mp hbody
    refine ⟨_, hbody, by simp [hparameter], ?_⟩
    rw [take_takeWhile (Nat.le_of_lt hlength), ← List.drop_take]
    exact hcount

theorem Indexed.parameterSlot? {m : Module} (hm : m.Indexed) {f p : Instruction} {k : Nat}
    (hf : f ∈ m.instructions) (hop : f.opcode = .function)
    (hp : (m.parametersOf f)[k]? = some p) :
    m.parameterSlot? p.position = some (.inFunction f.position k) := by
  obtain ⟨hmem, hparameter, hlast, rfl⟩ := (hm.getElem?_parametersOf_iff hf hop).mp hp
  have hstands : StandsAt m.instructions .functionParameter p.position :=
    ⟨p, hm.instruction?_position hmem, hparameter⟩
  exact (hm.scannedSlot p.position).unique (.inFunction hstands hlast)

/-- A slot is below a function of the module. -/
theorem Indexed.exists_function {m : Module} (hm : m.Indexed) {n function index : Nat}
    (h : m.parameterSlot? n = some (.inFunction function index)) :
    ∃ f, m.instruction? function = some f ∧ f.opcode = .function := by
  have hscanned := hm.scannedSlot n
  rw [h] at hscanned
  cases hscanned with
  | inFunction _ hlast => exact hlast.stands

end Module
end Spirv
