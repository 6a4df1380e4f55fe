set_option autoImplicit false

/-!
# Rules

A rule is a sequence of requirements and reports the first one that does not hold.
-/
namespace Spirv

def require {ε : Type} (holds : Bool) (fault : ε) : Except ε Unit :=
  if holds then .ok () else .error fault

theorem require_eq_ok_iff {ε : Type} {holds : Bool} {fault : ε} {u : Unit} :
    require holds fault = .ok u ↔ holds = true := by
  cases holds <;> simp [require]

theorem require_eq_error_iff {ε : Type} {holds : Bool} {fault e : ε} :
    require holds fault = .error e ↔ holds = false ∧ fault = e := by
  cases holds <;> simp [require]

theorem bind_eq_ok_iff {ε α β : Type} {x : Except ε α} {f : α → Except ε β} {b : β} :
    x >>= f = .ok b ↔ ∃ a, x = .ok a ∧ f a = .ok b := by
  cases x <;> simp [bind, Except.bind]

theorem then_eq_ok_iff {ε β : Type} {x : Except ε Unit} {f : Unit → Except ε β} {b : β} :
    x >>= f = .ok b ↔ x = .ok () ∧ f () = .ok b := by
  cases x <;> simp [bind, Except.bind]

theorem bind_eq_error_iff {ε α β : Type} {x : Except ε α} {f : α → Except ε β} {e : ε} :
    x >>= f = .error e ↔ x = .error e ∨ ∃ a, x = .ok a ∧ f a = .error e := by
  cases x <;> simp [bind, Except.bind]

theorem mapError_eq_ok_iff {ε ε' α : Type} {x : Except ε α} {f : ε → ε'} {a : α} :
    x.mapError f = .ok a ↔ x = .ok a := by
  cases x with
  | error e => exact ⟨fun h => (nomatch h), fun h => (nomatch h)⟩
  | ok b =>
    constructor
    · intro h
      rw [Except.ok.inj h]
    · intro h
      rw [Except.ok.inj h]
      rfl

theorem mapError_eq_error_iff {ε ε' α : Type} {x : Except ε α} {f : ε → ε'} {e' : ε'} :
    x.mapError f = .error e' ↔ ∃ e, x = .error e ∧ f e = e' := by
  cases x with
  | error e =>
    constructor
    · intro h
      exact ⟨e, rfl, Except.error.inj h⟩
    · rintro ⟨d, hd, rfl⟩
      rw [Except.error.inj hd]
      rfl
  | ok b =>
    constructor
    · intro h
      contradiction
    · rintro ⟨d, hd, -⟩
      contradiction

def requireEach {ε α : Type} (check : α → Except ε Unit) : List α → Except ε Unit
  | [] => .ok ()
  | a :: rest =>
    match check a with
    | .ok () => requireEach check rest
    | .error fault => .error fault

theorem requireEach_eq_ok_iff {ε α : Type} {check : α → Except ε Unit} {as : List α} :
    requireEach check as = .ok () ↔ ∀ a ∈ as, check a = .ok () := by
  induction as with
  | nil => simp [requireEach]
  | cons a as ih =>
    cases h : check a with
    | ok u => cases u; simp [requireEach, h, ih]
    | error fault => simp [requireEach, h]

theorem requireEach_eq_error_iff {ε α : Type} {check : α → Except ε Unit} {as : List α} {e : ε} :
    requireEach check as = .error e ↔
      ∃ (n : Nat) (a : α), as[n]? = some a ∧ check a = .error e ∧
        ∀ k < n, ∀ b, as[k]? = some b → check b = .ok () := by
  induction as with
  | nil => simp [requireEach]
  | cons a as ih =>
    cases h : check a with
    | error fault =>
      simp only [requireEach, h]
      constructor
      · intro heq
        rw [Except.error.inj heq] at h
        exact ⟨0, a, rfl, h, fun k hk => absurd hk (Nat.not_lt_zero k)⟩
      · rintro ⟨n, b, hb, hcheck, hbefore⟩
        cases n with
        | zero =>
          obtain rfl : a = b := Option.some.inj hb
          exact h.symm.trans hcheck
        | succ n =>
          rw [hbefore 0 (Nat.succ_pos n) a rfl] at h
          contradiction
    | ok u =>
      simp only [requireEach, h, ih]
      constructor
      · rintro ⟨n, b, hb, hcheck, hbefore⟩
        refine ⟨n + 1, b, hb, hcheck, fun k hk c hc => ?_⟩
        cases k with
        | zero =>
          obtain rfl : a = c := Option.some.inj hc
          exact h
        | succ k => exact hbefore k (by omega) c hc
      · rintro ⟨n, b, hb, hcheck, hbefore⟩
        cases n with
        | zero =>
          obtain rfl : a = b := Option.some.inj hb
          rw [hcheck] at h
          contradiction
        | succ n => exact ⟨n, b, hb, hcheck, fun k hk => hbefore (k + 1) (by omega)⟩

end Spirv
