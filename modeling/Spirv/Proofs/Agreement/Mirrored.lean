import Spirv.Proofs.Agreement.Rules
import Spirv.Proofs.Module.Layout
import Spirv.Proofs.Module.Rearranged
import Spirv.Validate

set_option autoImplicit false

/-!
# Reports on modules that mirror others

A module mirrors another one when it has an image of each instruction, with the same parameters
below the images of functions and with the images of the first forbidden users. The rules then
report the same on an instruction and on its image: faults may differ in what they say, but not in
their kinds nor in the ids that they cite.
-/
namespace Spirv

/-- The second instruction is the first one, where it has moved to. -/
structure Instruction.MovedTo (σ : Equiv.Perm Nat) (i j : Instruction) : Prop
    extends Instruction.SameCode i j where
  position : j.position = σ i.position

/-- Two results are both passes, or violations that are reported alike, at an instruction and at its
image. -/
inductive SameReport (σ : Equiv.Perm Nat) :
    Except Violation Unit → Except Violation Unit → Prop where
  | ok : SameReport σ (.ok ()) (.ok ())
  | error {v v' : Violation} (hsite : v.site.MovedTo σ v'.site)
      (hkind : v'.fault.kind = v.fault.kind) (hids : ∀ type, v'.fault.ids type = v.fault.ids type) :
      SameReport σ (.error v) (.error v')

namespace SameReport

variable {σ : Equiv.Perm Nat} {i j : Instruction}

theorem mapError_of_eq {ε : Type} {r r' : Except ε Unit} (hr : r = r') (hij : i.MovedTo σ j)
    (fault : ε → Fault) :
    SameReport σ (r.mapError fun e => ⟨i, fault e⟩) (r'.mapError fun e => ⟨j, fault e⟩) := by
  subst hr
  cases r with
  | ok _ => exact .ok
  | error e => exact .error hij rfl fun _ => rfl

theorem eq_ok_iff {r r' : Except Violation Unit} (h : SameReport σ r r') :
    r = .ok () ↔ r' = .ok () := by
  cases h with
  | ok => exact Iff.rfl
  | error => exact ⟨fun hok => (nomatch hok), fun hok => (nomatch hok)⟩

end SameReport

namespace Module

/-- Each instruction of the first module has an image in the second one. -/
structure Mirrors (config : Config) (σ : Equiv.Perm Nat) (m m' : Module) : Prop
    extends Agree config m m' where
  image : ∀ i ∈ m.instructions, ∃ j, m'.instruction? (σ i.position) = some j ∧ i.MovedTo σ j
  enclosing : ∀ n, (m'.parameterSlot? (σ n)).bind ParameterSlot.enclosing? =
    ParameterTable.moveEnclosing σ ((m.parameterSlot? n).bind ParameterSlot.enclosing?)
  forbiddenUser? : ∀ i ∈ m.instructions, ∀ j ∈ m'.instructions, i.MovedTo σ j →
    i.opcode = .function →
      Option.Rel (Instruction.MovedTo σ) (m.forbiddenUser? i) (m'.forbiddenUser? j)

theorem checkParameter_of_enclosing_eq_none {m : Module} {i : Instruction}
    (h : (m.parameterSlot? i.position).bind ParameterSlot.enclosing? = none) :
    m.checkParameter i = .error .firstInstruction ∨
      m.checkParameter i = .error .noEnclosingFunction := by
  rw [checkParameter]
  cases hslot : m.parameterSlot? i.position with
  | none => exact Or.inr rfl
  | some slot =>
    cases slot with
    | inFunction function index => simp [hslot, ParameterSlot.enclosing?] at h
    | firstInstruction => exact Or.inl rfl
    | noEnclosingFunction => exact Or.inr rfl

theorem slot_of_enclosing_eq_some {slot : Option ParameterSlot} {function index : Nat}
    (h : slot.bind ParameterSlot.enclosing? = some (function, index)) :
    slot = some (.inFunction function index) := by
  obtain ⟨s, rfl, hs⟩ := Option.bind_eq_some_iff.mp h
  cases s with
  | inFunction f k =>
    obtain ⟨rfl, rfl⟩ := Prod.mk.inj (Option.some.inj hs)
    rfl
  | firstInstruction => contradiction
  | noEnclosingFunction => contradiction

namespace Mirrors

variable {config : Config} {σ : Equiv.Perm Nat} {m m' : Module} {i j : Instruction}

theorem checkParameter (h : Mirrors config σ m m') (hm : m.Indexed) (hij : i.MovedTo σ j) :
    SameReport σ ((m.checkParameter i).mapError fun fault => ⟨i, .function fault⟩)
      ((m'.checkParameter j).mapError fun fault => ⟨j, .function fault⟩) := by
  have henclosing := h.enclosing i.position
  rw [← hij.position] at henclosing
  cases hslot : (m.parameterSlot? i.position).bind ParameterSlot.enclosing? with
  | none =>
    rw [hslot] at henclosing
    -- a parameter that is not the first instruction any more has a fault of the same kind
    rcases checkParameter_of_enclosing_eq_none hslot with hcheck | hcheck <;>
    rcases checkParameter_of_enclosing_eq_none henclosing with hcheck' | hcheck' <;>
    · rw [hcheck, hcheck']
      exact .error hij rfl fun _ => rfl
  | some e =>
    obtain ⟨function, index⟩ := e
    rw [hslot] at henclosing
    have hslot := slot_of_enclosing_eq_some hslot
    have hslot' := slot_of_enclosing_eq_some henclosing
    obtain ⟨f, hf, -⟩ := hm.exists_function hslot
    obtain ⟨g, hg, hfg⟩ := h.image f (List.mem_of_getElem? hf)
    rw [hm.position function f hf] at hg
    have hfind : SameFind (m.instruction? function) (m'.instruction? (σ function)) := by
      rw [hf, hg]
      exact .some hfg.toSameCode
    have hcheck : m.checkParameter i = m'.checkParameter j := by
      rw [Module.checkParameter, Module.checkParameter, hslot, hslot']
      exact h.toAgree.checkParameterOf hij.toSameCode hfind index
    exact .mapError_of_eq hcheck hij _

theorem checkFunction (h : Mirrors config σ m m') (hi : i ∈ m.instructions)
    (hj : j ∈ m'.instructions) (hij : i.MovedTo σ j) (hop : i.opcode = .function) :
    SameReport σ (m.checkFunction i) (m'.checkFunction j) := by
  rw [Module.checkFunction, Module.checkFunction, h.toAgree.checkSignature hij.toSameCode,
    hij.resultId]
  cases m'.checkSignature j with
  | error fault => exact .error hij rfl fun _ => rfl
  | ok _ =>
    have huser := h.forbiddenUser? i hi j hj hij hop
    generalize m.forbiddenUser? i = user, m'.forbiddenUser? j = user' at huser ⊢
    cases huser with
    | none => exact .ok
    | some huser => exact .error huser rfl fun _ => rfl

theorem check (h : Mirrors config σ m m') (hm : m.Indexed) (hi : i ∈ m.instructions)
    (hj : j ∈ m'.instructions) (hij : i.MovedTo σ j) :
    SameReport σ (m.check config i) (m'.check config j) := by
  rw [Module.check, Module.check, ← hij.opcode]
  cases i.opcode.family with
  | other => exact .ok
  | constant =>
    simp only [checkConstantPass]
    split
    · exact .mapError_of_eq (h.toAgree.checkConstant hij.toSameCode) hij _
    · exact .ok
  | function =>
    simp only [checkFunctionPass, ← hij.opcode]
    split
    · split
      case h_1 hop => exact h.checkFunction hi hj hij hop
      case h_2 => exact h.checkParameter hm hij
      case h_3 => exact .mapError_of_eq (h.toAgree.checkCall hij.toSameCode) hij _
      case h_4 => exact .mapError_of_eq (h.toAgree.checkPerElement hij.toSameCode) hij _
      case h_5 => exact .ok
    · exact .ok

end Mirrors
end Module
end Spirv
