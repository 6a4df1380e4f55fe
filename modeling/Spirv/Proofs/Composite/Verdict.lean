import Spirv.Proofs.Module.Indexed
import Spirv.Rule.Composite

set_option autoImplicit false

/-!
# Verdicts on constituents

A check of constituents compares their number and the parts of the result type first, and then each
constituent in order. Its verdict names a constituent exactly when the first part was passed, and
then the first constituent that does not fit.
-/
namespace Spirv

def CompositeFault.constituent? : CompositeFault → Option Id
  | .undefinedPart _ _ | .count _ | .notSingle _ => none
  | .notConstant c | .undefinedType c | .mismatch _ c | .columnComponent c | .columnCount c
  | .notTensor c _ | .tensorRank c _ | .undefinedShape c _ _ | .shapeDimension c _ _ _ => some c

theorem CompositeFault.ids_head? {f : CompositeFault} {id : Id} (h : f.constituent? = some id)
    (type : Id) : (f.ids type).head? = some id := by
  cases f <;> first | exact h | contradiction

structure FirstMisfit (fits : Nat → Id → Prop) (cs : List Id) (k : Nat) (id : Id) : Prop where
  at_index : cs[k]? = some id
  misfit : ¬ fits k id
  before : ∀ j < k, ∀ c, cs[j]? = some c → fits j c

theorem FirstMisfit.unique {fits : Nat → Id → Prop} {cs : List Id} {k l : Nat} {id id' : Id}
    (h : FirstMisfit fits cs k id) (h' : FirstMisfit fits cs l id') : k = l ∧ id = id' := by
  have hkl : ¬ k < l := fun hlt => h.misfit (h'.before k hlt id h.at_index)
  have hlk : ¬ l < k := fun hlt => h'.misfit (h.before l hlt id' h'.at_index)
  obtain rfl : k = l := by omega
  exact ⟨rfl, Option.some.inj (h.at_index.symm.trans h'.at_index)⟩

theorem FirstMisfit.cons {fits : Nat → Id → Prop} {c id : Id} {cs : List Id} {k : Nat}
    (hc : fits 0 c) (h : FirstMisfit (fun k => fits (k + 1)) cs k id) :
    FirstMisfit fits (c :: cs) (k + 1) id where
  at_index := h.at_index
  misfit := h.misfit
  before := by
    intro j hj d hd
    cases j with
    | zero =>
      obtain rfl : c = d := Option.some.inj hd
      exact hc
    | succ j => exact h.before j (by omega) d hd

/-- What a check of constituents may answer when `shape` is asked of their number and of the result
type, and `fits` of each of them. -/
inductive Verdict (shape : Prop) (fits : Nat → Id → Prop) (cs : List Id) :
    Except CompositeFault Unit → Prop where
  | accepted (hshape : shape) (hfits : ∀ k id, cs[k]? = some id → fits k id) :
      Verdict shape fits cs (.ok ())
  | misshapen (f : CompositeFault) (hf : f.constituent? = none) (hshape : ¬ shape) :
      Verdict shape fits cs (.error f)
  | misfit (f : CompositeFault) (k : Nat) (id : Id) (hf : f.constituent? = some id)
      (hshape : shape) (hfirst : FirstMisfit fits cs k id) : Verdict shape fits cs (.error f)

namespace Verdict

theorem eq_ok_iff {shape : Prop} {fits : Nat → Id → Prop} {cs : List Id}
    {result : Except CompositeFault Unit} (h : Verdict shape fits cs result) :
    result = .ok () ↔ shape ∧ ∀ k id, cs[k]? = some id → fits k id := by
  cases h with
  | accepted hshape hfits => simpa using ⟨hshape, hfits⟩
  | misshapen f hf hshape => simp [hshape]
  | misfit f k id hf hshape hfirst =>
    simp only [reduceCtorEq, false_iff, not_and]
    exact fun _ hall => hfirst.misfit (hall k id hfirst.at_index)

theorem names_iff {shape : Prop} {fits : Nat → Id → Prop} {cs : List Id}
    {result : Except CompositeFault Unit} (h : Verdict shape fits cs result) (id : Id) :
    (∃ f, result = .error f ∧ f.constituent? = some id) ↔
      shape ∧ ∃ k, FirstMisfit fits cs k id := by
  cases h with
  | accepted hshape hfits =>
    simp only [reduceCtorEq, false_and, exists_false, false_iff, not_and, not_exists]
    exact fun _ k hk => hk.misfit (hfits k id hk.at_index)
  | misshapen f hf hshape => simp [hf, hshape]
  | misfit f k id' hf hshape hfirst =>
    constructor
    · rintro ⟨f', hf', hid⟩
      obtain rfl : f = f' := Except.error.inj hf'
      obtain rfl : id' = id := Option.some.inj (hf.symm.trans hid)
      exact ⟨hshape, k, hfirst⟩
    · rintro ⟨-, l, hl⟩
      obtain ⟨-, rfl⟩ := hfirst.unique hl
      exact ⟨f, rfl, hf⟩

theorem congr {shape shape' : Prop} {fits fits' : Nat → Id → Prop} {cs : List Id}
    {result : Except CompositeFault Unit} (h : Verdict shape fits cs result)
    (hs : shape ↔ shape') (hf : shape → ∀ k id, fits k id ↔ fits' k id) :
    Verdict shape' fits' cs result := by
  cases h with
  | accepted hshape hfits =>
    exact .accepted (hs.mp hshape) fun k id hk => (hf hshape k id).mp (hfits k id hk)
  | misshapen f hnone hshape => exact .misshapen f hnone (mt hs.mpr hshape)
  | misfit f k id hid hshape hfirst =>
    refine .misfit f k id hid (hs.mp hshape) ⟨hfirst.at_index, ?_, ?_⟩
    · exact mt (hf hshape k id).mpr hfirst.misfit
    · exact fun j hj c hc => (hf hshape j c).mp (hfirst.before j hj c hc)

theorem require {p shape : Prop} {fits : Nat → Id → Prop} {cs : List Id} {b : Bool}
    {f : CompositeFault} {rest : Unit → Except CompositeFault Unit} (hf : f.constituent? = none)
    (hb : b = true ↔ p) (h : p → Verdict shape fits cs (rest ())) :
    Verdict (p ∧ shape) fits cs (Spirv.require b f >>= rest) := by
  cases b with
  | true =>
    have hp : p := hb.mp rfl
    exact (h hp).congr (by simp [hp]) fun _ _ _ => Iff.rfl
  | false =>
    have hp : ¬ p := fun hp => by simpa using hb.mpr hp
    exact .misshapen f hf fun hand => hp hand.1

theorem typePart {m : Module} (hm : m.Indexed) {type : Instruction} {k : Nat} {part : TypePart}
    {shape : Id → Instruction → Prop} {fits : Nat → Id → Prop} {cs : List Id}
    {rest : Id × Instruction → Except CompositeFault Unit}
    (h : ∀ id d, type.operand k = some id → m.definition? id = some d →
      Verdict (shape id d) fits cs (rest (id, d))) :
    Verdict (∃ id d, type.operand k = some id ∧ m.definition? id = some d ∧ shape id d) fits cs
      (m.typePart type k part >>= rest) := by
  rw [Module.typePart]
  cases hd : m.definition? (type.operandOrZero k) with
  | none =>
    refine .misshapen _ rfl ?_
    rintro ⟨id, d, hid, hdef, -⟩
    simp [Instruction.operandOrZero, hid, hdef] at hd
  | some d =>
    obtain ⟨id, hid, hdef⟩ := hm.definition?_operandOrZero.mp hd
    have hzero : type.operandOrZero k = id := by simp [Instruction.operandOrZero, hid]
    rw [hzero]
    refine (h id d hid hdef).congr ⟨fun hs => ⟨id, d, hid, hdef, hs⟩, ?_⟩ fun _ _ _ => Iff.rfl
    rintro ⟨id', d', hid', hdef', hs⟩
    obtain rfl : id = id' := Option.some.inj (hid.symm.trans hid')
    obtain rfl : d = d' := Option.some.inj (hdef.symm.trans hdef')
    exact hs

theorem requireEach {α : Type} {check : α → Except CompositeFault Unit} {as : List α}
    {cs : List Id} {fits : Nat → Id → Prop} (key : α → Id) (hkey : as.map key = cs)
    (hok : ∀ k a, as[k]? = some a → (check a = .ok () ↔ fits k (key a)))
    (herror : ∀ a f, check a = .error f → f.constituent? = some (key a)) :
    Verdict True fits cs (Spirv.requireEach check as) := by
  subst hkey
  induction as generalizing fits with
  | nil => exact .accepted trivial (by simp)
  | cons a as ih =>
    have ha := hok 0 a rfl
    cases hcheck : check a with
    | error f =>
      have hmisfit : ¬ fits 0 (key a) := fun hfits => by simp [ha.mpr hfits] at hcheck
      simp only [Spirv.requireEach, hcheck]
      exact .misfit f 0 (key a) (herror a f hcheck) trivial
        ⟨rfl, hmisfit, fun j hj => absurd hj (Nat.not_lt_zero j)⟩
    | ok u =>
      have hfits : fits 0 (key a) := ha.mp hcheck
      simp only [Spirv.requireEach, hcheck, List.map_cons]
      have hrest := @ih (fun k => fits (k + 1)) fun k b hb => hok (k + 1) b hb
      generalize Spirv.requireEach check as = result at hrest ⊢
      cases hrest with
      | accepted _ hall =>
        refine .accepted trivial fun k id hk => ?_
        cases k with
        | zero =>
          obtain rfl : key a = id := Option.some.inj hk
          exact hfits
        | succ k => exact hall k id hk
      | misshapen f hf hfalse => exact absurd trivial hfalse
      | misfit f k id hf _ hfirst => exact .misfit f (k + 1) id hf trivial (hfirst.cons hfits)

end Verdict
end Spirv
