import Spirv.Validate

set_option autoImplicit false

/-!
# The two walks of an engine

Validating a module and collecting its diagnostics are two walks over the same instructions. Both
go by the diagnostics of the single instructions: one walk fails with the first of them, and the
other one lists them.
-/
namespace Spirv

def diagnosticOf : Except Error Unit → Option Diagnostic
  | .ok () => none
  | .error failure => failure.diagnostic?

def Reports (check : Instruction → Except Error Unit) : Prop :=
  ∀ i failure, check i = .error failure → ∃ d, failure = .validation d

section Reports

variable {check : Instruction → Except Error Unit}

theorem Reports.eq_ok_iff (h : Reports check) (i : Instruction) :
    check i = .ok () ↔ diagnosticOf (check i) = none := by
  cases hi : check i with
  | ok u => simp [diagnosticOf]
  | error failure =>
    obtain ⟨d, rfl⟩ := h i failure hi
    simp [diagnosticOf, Error.diagnostic?]

theorem Reports.eq_error_iff (h : Reports check) (i : Instruction) (d : Diagnostic) :
    check i = .error (.validation d) ↔ diagnosticOf (check i) = some d := by
  cases hi : check i with
  | ok u => simp [diagnosticOf]
  | error failure =>
    obtain ⟨d', rfl⟩ := h i failure hi
    simp [diagnosticOf, Error.diagnostic?]

theorem Reports.collectFrom_true (h : Reports check) (is : List Instruction) :
    Engine.collectFrom check true is = is.filterMap fun i => diagnosticOf (check i) := by
  induction is with
  | nil => rfl
  | cons i is ih =>
    cases hi : check i with
    | ok u => simp [Engine.collectFrom, hi, ih, diagnosticOf]
    | error failure =>
      obtain ⟨d, rfl⟩ := h i failure hi
      simp [Engine.collectFrom, hi, ih, diagnosticOf, Error.diagnostic?]

theorem Reports.collectFrom_false (h : Reports check) (is : List Instruction) :
    Engine.collectFrom check false is =
      (is.filterMap fun i => diagnosticOf (check i)).take 1 := by
  induction is with
  | nil => rfl
  | cons i is ih =>
    cases hi : check i with
    | ok u => simp [Engine.collectFrom, hi, ih, diagnosticOf]
    | error failure =>
      obtain ⟨d, rfl⟩ := h i failure hi
      simp [Engine.collectFrom, hi, diagnosticOf, Error.diagnostic?]

theorem Reports.head?_collectFrom (h : Reports check) (keepGoing : Bool) (is : List Instruction) :
    (Engine.collectFrom check keepGoing is).head? =
      (is.filterMap fun i => diagnosticOf (check i)).head? := by
  cases keepGoing with
  | true => rw [h.collectFrom_true]
  | false => rw [h.collectFrom_false, List.head?_take, if_neg Nat.one_ne_zero]

theorem Reports.requireEach_eq (h : Reports check) (is : List Instruction) :
    requireEach check is =
      match (is.filterMap fun i => diagnosticOf (check i)).head? with
      | none => .ok ()
      | some d => .error (.validation d) := by
  induction is with
  | nil => rfl
  | cons i is ih =>
    cases hi : check i with
    | ok u => simp [requireEach, hi, ih, diagnosticOf]
    | error failure =>
      obtain ⟨d, rfl⟩ := h i failure hi
      simp [requireEach, hi, diagnosticOf, Error.diagnostic?]

end Reports

namespace Engine

def diagnostic? (e : Engine) (i : Instruction) : Option Diagnostic :=
  diagnosticOf (e.validateInstruction i)

theorem reports (e : Engine) : Reports e.validateInstruction := by
  intro i failure h
  obtain ⟨v, -, rfl⟩ := mapError_eq_error_iff.mp h
  exact ⟨v.diagnostic (e.names e.module), rfl⟩

theorem collect_eq_filterMap (e : Engine) (h : e.config.continueAfterError = true) :
    e.collect = e.module.instructions.filterMap e.diagnostic? := by
  rw [collect, h]
  exact e.reports.collectFrom_true _

theorem collect_eq_take (e : Engine) (h : e.config.continueAfterError = false) :
    e.collect = (e.module.instructions.filterMap e.diagnostic?).take 1 := by
  rw [collect, h]
  exact e.reports.collectFrom_false _

theorem validate_eq_head? (e : Engine) :
    e.validate =
      match e.collect.head? with
      | none => .ok ()
      | some d => .error (.validation d) := by
  rw [validate, e.reports.requireEach_eq, collect, e.reports.head?_collectFrom]

/-- Validating fails with the first diagnostic that is collected, which the first failing
instruction gives, and collecting lists one diagnostic for each failing instruction, or the first
one only. -/
theorem walks_agree (e : Engine) :
    (∀ i failure, e.validateInstruction i = .error failure →
      ∃ d, failure = .validation d ∧ e.diagnostic? i = some d) ∧
    (∀ i, e.validateInstruction i = .ok () ↔ e.diagnostic? i = none) ∧
    (e.validate = .ok () ↔ e.collect = []) ∧
    (∀ failure, e.validate = .error failure →
      ∃ (d : Diagnostic) (n : Nat) (i : Instruction),
        failure = .validation d ∧ e.collect.head? = some d ∧
        e.module.instructions[n]? = some i ∧ e.validateInstruction i = .error failure ∧
        ∀ k < n, ∀ j, e.module.instructions[k]? = some j → e.validateInstruction j = .ok ()) ∧
    (e.config.continueAfterError = true →
      e.collect = e.module.instructions.filterMap e.diagnostic?) ∧
    (e.config.continueAfterError = false →
      e.collect = (e.module.instructions.filterMap e.diagnostic?).take 1) := by
  refine ⟨?_, e.reports.eq_ok_iff, ?_, ?_, e.collect_eq_filterMap, e.collect_eq_take⟩
  · intro i failure hi
    obtain ⟨d, rfl⟩ := e.reports i failure hi
    exact ⟨d, rfl, (e.reports.eq_error_iff i d).mp hi⟩
  · rw [validate_eq_head?, ← List.head?_eq_none_iff]
    cases e.collect.head? <;> simp
  · intro failure hfail
    obtain ⟨n, i, hi, hcheck, hbefore⟩ := requireEach_eq_error_iff.mp hfail
    obtain ⟨d, rfl⟩ := e.reports i failure hcheck
    refine ⟨d, n, i, rfl, ?_, hi, hcheck, hbefore⟩
    rw [validate_eq_head?] at hfail
    cases hhead : e.collect.head? with
    | none => simp [hhead] at hfail
    | some d' => simpa [hhead] using hfail

end Engine
end Spirv
