import Spirv.Proofs.Engine.Walks
import Spirv.Proofs.Module.Layout

set_option autoImplicit false

/-!
# The order of diagnostics

Diagnostics are collected in the order of the instructions that fail. One that is about a forbidden
reference to a function has the position of the instruction that refers, which may stand anywhere,
so the positions need not increase.
-/
namespace Spirv

theorem Engine.diagnostic?_eq_some_iff (e : Engine) (i : Instruction) (d : Diagnostic) :
    e.diagnostic? i = some d ↔
      ∃ v, e.module.check e.config i = .error v ∧ v.diagnostic (e.names e.module) = d := by
  rw [diagnostic?, ← e.reports.eq_error_iff, validateInstruction, mapError_eq_error_iff]
  simp only [report, Error.validation.injEq]

namespace Module

/-- A function that fails for a reference to it, and the first instruction with such a one. -/
structure Misused (m : Module) (config : Config) (f u : Instruction) : Prop where
  mem : f ∈ m.instructions
  enabled : config.checkFunctions = true
  opcode : f.opcode = .function
  signature : m.checkSignature f = .ok ()
  user : m.forbiddenUser? f = some u

theorem Misused.check_eq {m : Module} {config : Config} {f u : Instruction}
    (h : m.Misused config f u) :
    m.check config f = .error ⟨u, .function (.invalidUse (f.resultId.getD 0))⟩ := by
  have hfamily : f.opcode.family = .function := by
    rw [h.opcode]
    rfl
  rw [check, hfamily]
  simp only [h.enabled, ↓reduceIte]
  rw [checkFunctionPass, h.opcode, checkFunction, h.signature, h.user]
  rfl

theorem site_of_checkFunction {m : Module} {i : Instruction} {v : Violation}
    (h : m.checkFunction i = .error v) :
    v.site = i ∨ m.checkSignature i = .ok () ∧ m.forbiddenUser? i = some v.site := by
  rcases bind_eq_error_iff.mp h with hsignature | ⟨u, hsignature, huse⟩
  · obtain ⟨fault, -, rfl⟩ := mapError_eq_error_iff.mp hsignature
    exact Or.inl rfl
  · refine Or.inr ⟨mapError_eq_ok_iff.mp hsignature, ?_⟩
    cases huser : m.forbiddenUser? i with
    | none => simp [huser] at huse
    | some user =>
      simp only [huser, Except.error.injEq] at huse
      rw [← huse]

/-- A violation is at the instruction that fails, unless that is a function that is misused. -/
theorem site_of_check {m : Module} {config : Config} {i : Instruction} {v : Violation}
    (hi : i ∈ m.instructions) (h : m.check config i = .error v) :
    v.site = i ∨ m.Misused config i v.site := by
  rw [check] at h
  cases hfamily : i.opcode.family with
  | other => simp [hfamily] at h
  | constant =>
    simp only [hfamily] at h
    split at h
    · obtain ⟨fault, -, rfl⟩ := mapError_eq_error_iff.mp h
      exact Or.inl rfl
    · contradiction
  | function =>
    simp only [hfamily] at h
    split at h
    · rename_i henabled
      unfold checkFunctionPass at h
      split at h
      case h_1 hop =>
        refine (site_of_checkFunction h).imp_right fun ⟨hsignature, huser⟩ => ?_
        exact ⟨hi, henabled, hop, hsignature, huser⟩
      case h_5 => contradiction
      all_goals
        obtain ⟨fault, -, rfl⟩ := mapError_eq_error_iff.mp h
        exact Or.inl rfl
    · contradiction

theorem site_mem {m : Module} {config : Config} {i : Instruction} {v : Violation}
    (hi : i ∈ m.instructions) (h : m.check config i = .error v) : v.site ∈ m.instructions := by
  obtain hsite | hmisused := site_of_check hi h
  · rwa [hsite]
  · obtain ⟨u, -, hu⟩ := List.mem_filterMap.mp (List.mem_of_find?_eq_some hmisused.user)
    exact List.mem_of_getElem? hu

/-- The instructions that fail are reported in their order: none of them stands between a misused
function and its first forbidden user, and the users come in the order of the functions. -/
structure ReportsInOrder (m : Module) (config : Config) : Prop where
  apart : ∀ f u, m.Misused config f u → ∀ i ∈ m.instructions, m.check config i ≠ .ok () →
    (∀ w, ¬ m.Misused config i w) →
    (f.position < i.position → u.position < i.position) ∧
      (i.position < f.position → i.position < u.position)
  users : ∀ f u g w, m.Misused config f u → m.Misused config g w → f.position < g.position →
    u.position < w.position

theorem Indexed.pairwise_iff {m : Module} (hm : m.Indexed) {r : Instruction → Instruction → Prop} :
    m.instructions.Pairwise r ↔
      ∀ i ∈ m.instructions, ∀ j ∈ m.instructions, i.position < j.position → r i j := by
  constructor
  · intro h i hi j hj hlt
    obtain ⟨a, ha⟩ := List.mem_iff_getElem?.mp hi
    obtain ⟨b, hb⟩ := List.mem_iff_getElem?.mp hj
    rw [hm.position a i ha, hm.position b j hb] at hlt
    obtain ⟨ha', rfl⟩ := List.getElem?_eq_some_iff.mp ha
    obtain ⟨hb', rfl⟩ := List.getElem?_eq_some_iff.mp hb
    exact List.pairwise_iff_getElem.mp h a b ha' hb' hlt
  · exact fun h => hm.pairwise_position.imp_of_mem fun hi hj hlt => h _ hi _ hj hlt

/-- A misused function is reported at its user, every other failing instruction at itself. -/
theorem misused_or_site_eq {m : Module} {config : Config} {i : Instruction} {v : Violation}
    (hi : i ∈ m.instructions) (h : m.check config i = .error v) :
    m.Misused config i v.site ∨ v.site = i ∧ ∀ w, ¬ m.Misused config i w := by
  by_cases hmisused : ∃ u, m.Misused config i u
  · obtain ⟨u, hu⟩ := hmisused
    obtain rfl := Except.error.inj (hu.check_eq.symm.trans h)
    exact Or.inl hu
  · obtain hsite | hu := site_of_check hi h
    · exact Or.inr ⟨hsite, not_exists.mp hmisused⟩
    · exact absurd ⟨_, hu⟩ hmisused

theorem reportsInOrder_iff {m : Module} {config : Config} :
    m.ReportsInOrder config ↔
      ∀ i ∈ m.instructions, ∀ j ∈ m.instructions, i.position < j.position →
        ∀ v w, m.check config i = .error v → m.check config j = .error w →
          v.site.position < w.site.position := by
  constructor
  · rintro ⟨hapart, husers⟩ i hi j hj hlt v w hv hw
    have hifail : m.check config i ≠ .ok () := by simp [hv]
    have hjfail : m.check config j ≠ .ok () := by simp [hw]
    obtain hiu | ⟨hsite, hinone⟩ := misused_or_site_eq hi hv
    · obtain hju | ⟨hsite', hjnone⟩ := misused_or_site_eq hj hw
      · exact husers i _ j _ hiu hju hlt
      · rw [hsite']
        exact (hapart i _ hiu j hj hjfail hjnone).1 hlt
    · obtain hju | ⟨hsite', -⟩ := misused_or_site_eq hj hw
      · rw [hsite]
        exact (hapart j _ hju i hi hifail hinone).2 hlt
      · rwa [hsite, hsite']
  · intro h
    refine ⟨fun f u hf i hi hfail hnone => ?_, fun f u g w hf hg hlt => ?_⟩
    · obtain ⟨v, hv⟩ : ∃ v, m.check config i = .error v := by
        cases hcheck : m.check config i with
        | ok _ => exact absurd hcheck hfail
        | error v => exact ⟨v, rfl⟩
      obtain hmisused | ⟨hsite, -⟩ := misused_or_site_eq hi hv
      · exact absurd hmisused (hnone _)
      · rw [← hsite]
        exact ⟨fun hlt => h f hf.mem i hi (hsite ▸ hlt) _ v hf.check_eq hv,
          fun hlt => h i hi f hf.mem (hsite ▸ hlt) v _ hv hf.check_eq⟩
    · exact h f hf.mem g hg.mem hlt _ _ hf.check_eq hg.check_eq

end Module

/-- The collected positions increase exactly when the failing instructions are reported in order. -/
theorem Engine.positions_increase_iff {v : Version} {a : AddressingModel} {is : List Instruction}
    {e : Engine} (hbuild : Module.build v a is = .ok e.module)
    (hconfig : e.config.continueAfterError = true) :
    (e.collect.map (·.position)).Pairwise (· < ·) ↔ e.module.ReportsInOrder e.config := by
  rw [e.collect_eq_filterMap hconfig, List.pairwise_map, List.pairwise_filterMap,
    (Module.indexed_of_build hbuild).pairwise_iff, Module.reportsInOrder_iff]
  simp only [e.diagnostic?_eq_some_iff]
  constructor
  · intro h i hi j hj hlt v w hv hw
    exact h i hi j hj hlt _ ⟨v, hv, rfl⟩ _ ⟨w, hw, rfl⟩
  · rintro h i hi j hj hlt _ ⟨v, hv, rfl⟩ _ ⟨w, hw, rfl⟩
    exact h i hi j hj hlt v w hv hw

namespace Engine

def callee : List Instruction :=
  [.ofOpcode .function [1, 4, 0, 3], .ofOpcode .label [5], .ofOpcode .returnVoid [],
    .ofOpcode .functionEnd []]

/-- A function `6` with another result type than its function type has, which copies the function
`4` as if it were a value. -/
def copier : List Instruction :=
  [.ofOpcode .function [2, 6, 0, 3], .ofOpcode .label [7], .ofOpcode .copyObject [1, 8, 4],
    .ofOpcode .returnVoid [], .ofOpcode .functionEnd []]

def withTypes (functions : List Instruction) : List Instruction :=
  [.ofOpcode .typeVoid [1], .ofOpcode .typeInt [2, 32, 0], .ofOpcode .typeFunction [3, 1]] ++
    functions

def exhaustive (is : List Instruction) : Engine where
  module := Module.assemble .v1_6 .logical (Module.place is)
  config := .exhaustive
  names := friendlyName

def copierFirst : Engine := exhaustive (withTypes (copier ++ callee))

def calleeFirst : Engine := exhaustive (withTypes (callee ++ copier))

theorem copierFirst_reportsInOrder :
    Module.build .v1_6 .logical (withTypes (copier ++ callee)) = .ok copierFirst.module ∧
      copierFirst.config.continueAfterError = true ∧
      copierFirst.collect.map (·.position) = [3, 5] ∧
      copierFirst.module.ReportsInOrder copierFirst.config := by
  have hbuild : Module.build .v1_6 .logical (withTypes (copier ++ callee)) =
      .ok copierFirst.module := rfl
  have hpositions : copierFirst.collect.map (·.position) = [3, 5] := rfl
  refine ⟨hbuild, rfl, hpositions, (positions_increase_iff hbuild rfl).mp ?_⟩
  rw [hpositions]
  decide

theorem calleeFirst_positions_decrease :
    Module.build .v1_6 .logical (withTypes (callee ++ copier)) = .ok calleeFirst.module ∧
      calleeFirst.config.continueAfterError = true ∧
      calleeFirst.collect.map (·.position) = [9, 7] ∧
      ¬ (calleeFirst.collect.map (·.position)).Pairwise (· < ·) := by
  have hpositions : calleeFirst.collect.map (·.position) = [9, 7] := rfl
  refine ⟨rfl, rfl, hpositions, ?_⟩
  rw [hpositions]
  decide

end Engine
end Spirv
