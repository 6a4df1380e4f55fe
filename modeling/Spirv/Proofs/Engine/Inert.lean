import Spirv.Proofs.Agreement.Inserted
import Spirv.Proofs.Engine.Order
import Spirv.Proofs.Module.Accepted

set_option autoImplicit false

/-!
# Instructions without effect

Unknown instructions and the ones that stand for nothing may be put in anywhere. What an engine
collects is then the same, with positions that count the instruction put in and with messages that
may differ.
-/
namespace Spirv

/-- The second diagnostic reports the same as the first one, where the instruction has moved to. -/
structure Diagnostic.MovedTo (σ : Equiv.Perm Nat) (d d' : Diagnostic) : Prop where
  kind : d'.kind = d.kind
  opcode : d'.opcode = d.opcode
  ids : d'.ids = d.ids
  position : d'.position = σ d.position

/-- The words of such an instruction may look like ids, but they are not references. -/
theorem Instruction.idOperands_eq_nil {x : Instruction}
    (hx : x.opcode = .unknown ∨ x.opcode = .nop ∨ x.opcode = .noLine) : x.idOperands = [] := by
  apply idOperands_eq_nil_of_operandIsId
  intro k
  rcases hx with hop | hop | hop <;> rw [hop, Opcode.operandIsId_of_ne (by decide)] <;> rfl

namespace Engine

variable {σ : Equiv.Perm Nat} {e e' : Engine}

theorem diagnostic?_movedTo {i j : Instruction}
    (h : SameReport σ (e.module.check e.config i) (e'.module.check e'.config j)) :
    Option.Rel (Diagnostic.MovedTo σ) (e.diagnostic? i) (e'.diagnostic? j) := by
  rw [diagnostic?, diagnostic?, validateInstruction, validateInstruction]
  generalize e.module.check e.config i = r, e'.module.check e'.config j = r' at h ⊢
  cases h with
  | ok => exact .none
  | error hsite hkind hids =>
    refine .some ⟨hkind, hsite.opcode.symm, ?_, hsite.position⟩
    simp only [Violation.diagnostic, Diagnostic.about, Diagnostic.withIds, hsite.resultId, hids,
      hsite.typeIdOrZero]

theorem forall₂_collect {S : Diagnostic → Diagnostic → Prop} (hconfig : e.config = e'.config)
    (h : List.Forall₂ S (e.module.instructions.filterMap e.diagnostic?)
      (e'.module.instructions.filterMap e'.diagnostic?)) :
    List.Forall₂ S e.collect e'.collect := by
  cases hgoing : e.config.continueAfterError with
  | true =>
    rwa [e.collect_eq_filterMap hgoing, e'.collect_eq_filterMap (hconfig ▸ hgoing)]
  | false =>
    rw [e.collect_eq_take hgoing, e'.collect_eq_take (hconfig ▸ hgoing)]
    exact List.forall₂_take 1 h

theorem mem_filterMap_of_mem_collect {d : Diagnostic} (h : d ∈ e.collect) :
    d ∈ e.module.instructions.filterMap e.diagnostic? := by
  cases hgoing : e.config.continueAfterError with
  | true => rwa [← e.collect_eq_filterMap hgoing]
  | false => exact List.mem_of_mem_take (e.collect_eq_take hgoing ▸ h)

theorem position_lt_of_mem_collect (hm : e.module.Indexed) {d : Diagnostic} (hd : d ∈ e.collect) :
    d.position < e.module.instructions.length := by
  obtain ⟨i, hi, hdi⟩ := List.mem_filterMap.mp (mem_filterMap_of_mem_collect hd)
  obtain ⟨v, hv, rfl⟩ := (e.diagnostic?_eq_some_iff i d).mp hdi
  exact hm.position_lt (Module.site_mem hi hv)

end Engine

namespace Module

namespace Joins

variable {σ : Equiv.Perm Nat} {x : Instruction} {is js : List Instruction} {v : Version}
  {a : AddressingModel} {m m' : Module}

theorem validate_iff (h : Joins σ x (place is) (place js)) (hx : x.opcode.isPassive = true)
    (hm : build v a is = .ok m) (hm' : build v a js = .ok m') {config : Config}
    (hmirrors : Mirrors config σ m m') :
    m.validate config = .ok () ↔ m'.validate config = .ok () :=
  have hresult := (Opcode.isPassive_iff.mp hx).1
  hmirrors.validate_iff (indexed_of_build hm) (h.instructions hresult hm hm') hresult

theorem forall₂_collect (h : Joins σ x (place is) (place js)) (hx : x.opcode.isPassive = true)
    (hm : build v a is = .ok m) (hm' : build v a js = .ok m') {config : Config}
    (hmirrors : Mirrors config σ m m') (names names' : NameResolver) :
    List.Forall₂ (Diagnostic.MovedTo σ) (Engine.collect ⟨m, config, names⟩)
      (Engine.collect ⟨m', config, names'⟩) := by
  have hresult := (Opcode.isPassive_iff.mp hx).1
  have hreports := hmirrors.reports (indexed_of_build hm) (h.instructions hresult hm hm')
  refine Engine.forall₂_collect rfl (hreports.filterMap ?_ ?_)
  · rw [Engine.diagnostic?, Engine.validateInstruction, check_finish_eq_ok hresult]
    rfl
  · exact fun i j hij => Engine.diagnostic?_movedTo hij

end Joins

/-- An unknown instruction, or one that stands for nothing, has no effect wherever it is put in. -/
theorem opaque_inert {x : Instruction}
    (hx : x.opcode = .unknown ∨ x.opcode = .nop ∨ x.opcode = .noLine)
    (before after : List Instruction) (v : Version) (a : AddressingModel) :
    ((∃ m, build v a (before ++ after) = .ok m) ↔
        ∃ m', build v a (before ++ x :: after) = .ok m') ∧
      ∀ m m', build v a (before ++ after) = .ok m → build v a (before ++ x :: after) = .ok m' →
        ∀ (config : Config) (names names' : NameResolver),
          List.Forall₂ (fun d d' => d'.kind = d.kind ∧ d'.opcode = d.opcode ∧ d'.ids = d.ids ∧
              d'.position = if d.position < before.length then d.position else d.position + 1)
            (Engine.collect ⟨m, config, names⟩) (Engine.collect ⟨m', config, names'⟩) ∧
          (m.validate config = .ok () ↔ m'.validate config = .ok ()) := by
  have hpassive : x.opcode.isPassive = true := by
    rcases hx with hop | hop | hop <;> rw [hop] <;> rfl
  have hdecorates : x.opcode.decorates = false := by
    rcases hx with hop | hop | hop <;> rw [hop] <;> rfl
  have hjoins := joins_place x before after
  refine ⟨?_, fun m m' hm hm' config names names' => ?_⟩
  · simp only [build_eq_ok_iff, exists_and_left, exists_eq', and_true]
    refine hjoins.checkResults_iff ?_
    rw [Opcode.resultIdIndex, (Opcode.isPassive_iff.mp hpassive).1]
    rfl
  have hmirrors : Mirrors config (insertion before.length after.length) m m' :=
    hjoins.mirrors hpassive hm hm' (fun _ => hdecorates)
      (Or.inl (Instruction.idOperands_eq_nil hx))
  refine ⟨?_, hjoins.validate_iff hpassive hm hm' hmirrors⟩
  have hlength : m.instructions.length = before.length + after.length := by
    rw [length_of_build hm, List.length_append]
  have hcollect := (List.forall₂_and_left _ _).mpr
    ⟨fun _ => Engine.position_lt_of_mem_collect (indexed_of_build hm),
      hjoins.forall₂_collect hpassive hm hm' hmirrors names names'⟩
  refine hcollect.imp fun d d' h => ?_
  obtain ⟨hlt, hmoved⟩ := h
  refine ⟨hmoved.kind, hmoved.opcode, hmoved.ids, ?_⟩
  rw [hmoved.position, insertion_apply (hlength ▸ hlt)]

def parameterFirst : List Instruction :=
  [.ofOpcode .functionParameter [1, 2], .ofOpcode .typeInt [1, 32, 0],
    .ofOpcode .constantTrue [1, 3]]

theorem unknown_before_parameterFirst :
    ∃ m m', build .v1_6 .logical parameterFirst = .ok m ∧
      build .v1_6 .logical (.ofRaw 4711 [1, 2, 3] :: parameterFirst) = .ok m' ∧
      (Engine.collect ⟨m, .exhaustive, friendlyName⟩).map (·.position) = [0, 2] ∧
      List.Forall₂ (fun d d' => d'.kind = d.kind ∧ d'.opcode = d.opcode ∧ d'.ids = d.ids ∧
          d'.position = d.position + 1)
        (Engine.collect ⟨m, .exhaustive, friendlyName⟩)
        (Engine.collect ⟨m', .exhaustive, friendlyName⟩) ∧
      m'.validate .exhaustive ≠ .ok () := by
  let m := assemble .v1_6 .logical (place parameterFirst)
  have hm : build .v1_6 .logical parameterFirst = .ok m := rfl
  have hfails : m.validate .exhaustive =
      .error ⟨m.instructions[0], .function .firstInstruction⟩ := rfl
  have hopaque : (Instruction.ofRaw 4711 [1, 2, 3]).opcode = .unknown := rfl
  obtain ⟨hbuild, hinert⟩ := opaque_inert (Or.inl hopaque) [] parameterFirst .v1_6 .logical
  obtain ⟨m', hm'⟩ := hbuild.mp ⟨m, hm⟩
  obtain ⟨hcollect, hverdict⟩ := hinert m m' hm hm' .exhaustive friendlyName friendlyName
  refine ⟨m, m', hm, hm', rfl, hcollect.imp fun d d' h => by simpa using h, fun hvalid => ?_⟩
  have hpasses := hverdict.mpr hvalid
  rw [hfails] at hpasses
  contradiction

end Module
end Spirv
