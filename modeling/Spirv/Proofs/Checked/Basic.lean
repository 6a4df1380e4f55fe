import Spirv.Rule.Basic

set_option autoImplicit false

/-!
# Checked computations

A checked computation stops where an index or a slice is out of range, where a number leaves the
range of machine words, and where it is out of stack. `Ends` says that it comes to a value, or is out
of stack because there is not enough of it, so that nothing else has gone wrong.
-/
namespace Spirv

inductive Abort where
  | outOfRange
  | overflow
  | outOfStack
  deriving DecidableEq, Repr

abbrev Checked := Except Abort

namespace Checked

variable {α β ε : Type}

@[simp] theorem ok_bind (a : α) (f : α → Checked β) : (Except.ok a >>= f : Checked β) = f a := rfl

@[simp] theorem pure_eq_ok (a : α) : (pure a : Checked α) = .ok a := rfl

/-! ### Operations that can go wrong -/

def add (a b : Nat) : Checked Nat := if a + b < UInt64.size then .ok (a + b) else .error .overflow

def sub (a b : Nat) : Checked Nat := if b ≤ a then .ok (a - b) else .error .overflow

def mul (a b : Nat) : Checked Nat := if a * b < UInt64.size then .ok (a * b) else .error .overflow

def index (as : List α) (k : Nat) : Checked α :=
  match as[k]? with
  | some a => .ok a
  | none => .error .outOfRange

def sliceFrom (as : List α) (k : Nat) : Checked (List α) :=
  if k ≤ as.length then .ok (as.drop k) else .error .outOfRange

def sliceTo (as : List α) (k : Nat) : Checked (List α) :=
  if k ≤ as.length then .ok (as.take k) else .error .outOfRange

theorem add_eq_ok {a b : Nat} (h : a + b < UInt64.size) : add a b = .ok (a + b) := if_pos h

theorem sub_eq_ok {a b : Nat} (h : b ≤ a) : sub a b = .ok (a - b) := if_pos h

theorem mul_eq_ok {a b : Nat} (h : a * b < UInt64.size) : mul a b = .ok (a * b) := if_pos h

theorem index_eq_ok {as : List α} {k : Nat} {a : α} (h : as[k]? = some a) : index as k = .ok a := by
  rw [index, h]

theorem sliceFrom_eq_ok {as : List α} {k : Nat} (h : k ≤ as.length) :
    sliceFrom as k = .ok (as.drop k) := if_pos h

theorem of_sliceFrom_eq_ok {as bs : List α} {k : Nat} (h : sliceFrom as k = .ok bs) :
    k ≤ as.length ∧ as.drop k = bs := by
  rw [sliceFrom] at h
  split at h
  case isTrue hk => exact ⟨hk, Except.ok.inj h⟩
  case isFalse => contradiction

theorem sliceTo_eq_ok {as : List α} {k : Nat} (h : k ≤ as.length) :
    sliceTo as k = .ok (as.take k) := if_pos h

/-! ### Computations on lists -/

def gather (f : α → Checked (List β)) : List α → Checked (List β)
  | [] => .ok []
  | a :: rest => do
    let bs ← f a
    let cs ← gather f rest
    return bs ++ cs

theorem gather_eq_ok {f : α → Checked (List β)} {g : α → List β} {as : List α}
    (h : ∀ a ∈ as, f a = .ok (g a)) : gather f as = .ok (as.flatMap g) := by
  induction as with
  | nil => rfl
  | cons a as ih =>
    rw [gather, h a List.mem_cons_self, ih fun b hb => h b (List.mem_cons_of_mem a hb),
      List.flatMap_cons]
    rfl

theorem gather_map {γ : Type} (f : β → Checked (List γ)) (g : α → β) (as : List α) :
    gather f (as.map g) = gather (fun a => f (g a)) as := by
  induction as with
  | nil => rfl
  | cons a as ih => rw [List.map_cons, gather, gather, ih]

def whenSome (o : Option α) (p : α → Checked Bool) : Checked Bool :=
  match o with
  | none => .ok false
  | some a => p a

/-- Whether all elements pass a test. It is not made after an element that fails. -/
def all (p : α → Checked Bool) : List α → Checked Bool
  | [] => .ok true
  | a :: rest => do
    match ← p a with
    | true => all p rest
    | false => return false

def requireEach (check : α → Checked (Except ε Unit)) : List α → Checked (Except ε Unit)
  | [] => .ok (.ok ())
  | a :: rest => do
    match ← check a with
    | .ok () => requireEach check rest
    | .error fault => return .error fault

def after (x : Except ε α) (f : α → Checked (Except ε β)) : Checked (Except ε β) :=
  match x with
  | .ok a => f a
  | .error fault => .ok (.error fault)

/-! ### Ends -/

/-- The computation comes to the value, or is out of stack where there is not enough of it. -/
def Ends (enough : Prop) (x : Checked α) (a : α) : Prop :=
  x = .ok a ∨ ¬ enough ∧ x = .error .outOfStack

namespace Ends

variable {enough : Prop} {x : Checked α} {a : α}

theorem of_eq (h : x = .ok a) : Ends enough x a := Or.inl h

theorem ok (a : α) : Ends enough (.ok a) a := of_eq rfl

theorem eq_ok (h : Ends enough x a) (henough : enough) : x = .ok a := by
  obtain h | ⟨hnot, -⟩ := h
  · exact h
  · exact absurd henough hnot

theorem bind {f : α → Checked β} {b : β} (h : Ends enough x a) (hf : Ends enough (f a) b) :
    Ends enough (x >>= f) b := by
  obtain rfl | ⟨hnot, rfl⟩ := h
  · exact hf
  · exact Or.inr ⟨hnot, rfl⟩

theorem map {g : α → β} (h : Ends enough x a) : Ends enough (x.map g) (g a) := by
  obtain rfl | ⟨hnot, rfl⟩ := h
  · exact ok (g a)
  · exact Or.inr ⟨hnot, rfl⟩

theorem whenSome {o : Option α} {p : α → Checked Bool} {q : α → Bool}
    (h : ∀ a, o = some a → Ends enough (p a) (q a)) :
    Ends enough (Checked.whenSome o p) (o.any q) := by
  cases o with
  | none => exact ok false
  | some a => exact h a rfl

theorem all {p : α → Checked Bool} {q : α → Bool} {as : List α}
    (h : ∀ a ∈ as, Ends enough (p a) (q a)) : Ends enough (Checked.all p as) (as.all q) := by
  induction as with
  | nil => exact ok true
  | cons a as ih =>
    rw [Checked.all, List.all_cons]
    refine bind (h a List.mem_cons_self) ?_
    cases q a with
    | true => exact ih fun b hb => h b (List.mem_cons_of_mem a hb)
    | false => exact ok false

theorem requireEach {check : α → Checked (Except ε Unit)} {rule : α → Except ε Unit} {as : List α}
    (h : ∀ a ∈ as, Ends enough (check a) (rule a)) :
    Ends enough (Checked.requireEach check as) (Spirv.requireEach rule as) := by
  induction as with
  | nil => exact ok _
  | cons a as ih =>
    rw [Checked.requireEach, Spirv.requireEach]
    refine bind (h a List.mem_cons_self) ?_
    cases rule a with
    | ok u => exact ih fun b hb => h b (List.mem_cons_of_mem a hb)
    | error fault => exact ok _

theorem after {y : Except ε α} {f : α → Checked (Except ε β)} {g : α → Except ε β}
    (h : ∀ a, y = .ok a → Ends enough (f a) (g a)) :
    Ends enough (Checked.after y f) (y >>= g) := by
  cases y with
  | ok a => exact h a rfl
  | error fault => exact ok _

end Ends
end Checked
end Spirv
