import Spirv.Proofs.Engine.Inert
import Spirv.Proofs.Function.Reference
import Spirv.Proofs.Module.Uses

set_option autoImplicit false

/-!
# Annotations put at the end

Decorations of all kinds name what they are put on. A plain decoration and the application of a
group may name a function, and an accepted module stays accepted with them. A decoration by ids and
one by a string may not, so an accepted module is refused as soon as one of them is put on a
function.
-/
namespace Spirv

/-- The operands that name what an annotation is put on. A group is put on all operands behind it. -/
def Opcode.isTarget : Opcode → Nat → Bool
  | .decorate, k | .decorateId, k | .decorateString, k => k == 0
  | .groupDecorate, k => k != 0
  | _, _ => false

namespace Module

/-- An annotation that names no function unless it is put on it. -/
structure Annotates (m : Module) (x : Instruction) : Prop where
  opcode : x.opcode = .decorate ∨ x.opcode = .decorateId ∨ x.opcode = .decorateString ∨
    x.opcode = .groupDecorate
  others : ∀ k id, (k, id) ∈ x.idOperands → x.opcode.isTarget k = false → m.function? id = none

def AcceptedWith (v : Version) (a : AddressingModel) (is : List Instruction) (x : Instruction) :
    Prop :=
  ∃ m', build v a (is ++ [x]) = .ok m' ∧ m'.validate .standard = .ok ()

theorem mayUseFunction_of_decorate {m : Module} {x : Instruction}
    (hop : x.opcode = .decorate ∨ x.opcode = .groupDecorate) : m.mayUseFunction x = true := by
  rcases hop with hop | hop <;> simp only [mayUseFunction, hop]

-- the two opcodes are not among the listed ones, and only extended instructions bear marks
theorem mayUseFunction_eq_false_of_decorate {m : Module} {x : Instruction}
    (hop : x.opcode = .decorateId ∨ x.opcode = .decorateString) : m.mayUseFunction x = false := by
  have hmarks : (x.debugInfo || x.nonSemantic) = false := by
    apply Instruction.marks_eq_false
    rcases hop with hop | hop <;> rw [hop] <;> decide
  rcases hop with hop | hop <;> rw [mayUseFunction, hop] <;> exact hmarks

theorem mem_idOperands_of_decorate {x : Instruction} {id : Id}
    (hop : x.opcode = .decorateId ∨ x.opcode = .decorateString) (hid : x.operand 0 = some id) :
    (0, id) ∈ x.idOperands := by
  obtain ⟨hlt, -⟩ := List.getElem?_eq_some_iff.mp hid
  rw [Instruction.mem_idOperands_iff, Opcode.isIdOperand, decide_eq_true hlt]
  refine ⟨hid, ?_⟩
  rcases hop with hop | hop <;> rw [hop, Opcode.operandIsId_of_ne (by decide)] <;> rfl

namespace Annotates

variable {v : Version} {a : AddressingModel} {is : List Instruction} {m m' : Module}
  {x : Instruction}

theorem isPassive (h : m.Annotates x) : x.opcode.isPassive = true := by
  rcases h.opcode with hop | hop | hop | hop <;> rw [hop] <;> rfl

theorem isSome_function? (h : m.Annotates x) (hbuild : build v a is = .ok m)
    (hbuild' : build v a (is ++ [x]) = .ok m') (id : Id) :
    (m.function? id).isSome = (m'.function? id).isSome := by
  obtain ⟨hresult, -, -, hmemory⟩ := Opcode.isPassive_iff.mp h.isPassive
  have hagree : Agree .standard (m.withPermissions m') m' :=
    (joins_append x is).agree_withPermissions hresult hmemory hbuild hbuild' nofun
  exact (hagree.toSameDefinitions.function? id).isSome

/-- A function of the module refers back to the annotation, which may not use it. -/
theorem function?_target (h : m.Annotates x) (hbuild : build v a is = .ok m)
    (haccepted : AcceptedWith v a is x) (hop : x.opcode = .decorateId ∨ x.opcode = .decorateString)
    {id : Id} (hid : x.operand 0 = some id) : m.function? id = none := by
  obtain ⟨m', hbuild', hvalid⟩ := haccepted
  have hm' := indexed_of_build hbuild'
  let last := finish (place (is ++ [x])) { x with position := is.length, uses := [] }
  have hkeeps := finish_keepsCode (place (is ++ [x]))
  have hlast : last ∈ m'.instructions := by
    apply List.mem_of_getElem? (i := is.length)
    rw [build_getElem? hbuild', List.getElem?_concat_length]
    rfl
  have htarget : (0, id) ∈ last.idOperands := by
    rw [hkeeps.idOperands]
    exact mem_idOperands_of_decorate hop hid
  have hforbidden : m'.mayUseFunction last = false := by
    apply mayUseFunction_eq_false_of_decorate
    rwa [hkeeps.opcode]
  rw [← Option.not_isSome_iff_eq_none, h.isSome_function? hbuild hbuild']
  intro hsome
  obtain ⟨f, hf⟩ := Option.isSome_iff_exists.mp hsome
  have hmay := mayUseFunction_of_mem_idOperands hm' rfl hvalid hlast htarget hf
  rw [hforbidden] at hmay
  contradiction

theorem refers (h : m.Annotates x)
    (htarget : x.opcode = .decorateId ∨ x.opcode = .decorateString →
      ∀ id, x.operand 0 = some id → m.function? id = none) (placed : List Instruction) :
    (∀ o ∈ x.idOperands, m.function? o.2 = none) ∨
      m'.mayUseFunction (finish placed x) = true := by
  by_cases hop : x.opcode = .decorateId ∨ x.opcode = .decorateString
  · left
    rintro ⟨k, id⟩ hid
    cases hk : x.opcode.isTarget k with
    | false => exact h.others k id hid hk
    | true =>
      have hzero : k = 0 := by rcases hop with hop | hop <;> rw [hop] at hk <;> exact eq_of_beq hk
      subst hzero
      exact htarget hop id ((x.mem_idOperands_iff 0 id).mp hid).1
  · right
    apply mayUseFunction_of_decorate
    rw [(finish_keepsCode placed).opcode]
    rcases h.opcode with hplain | hids | hstring | hgroup
    · exact Or.inl hplain
    · exact absurd (Or.inl hids) hop
    · exact absurd (Or.inr hstring) hop
    · exact Or.inr hgroup

end Annotates

/-- Of the annotations at the end of an accepted module, exactly a decoration by ids or by a string
that is put on a function makes it refused. -/
theorem annotated_accepted_iff {v : Version} {a : AddressingModel} {is : List Instruction}
    {m : Module} (hbuild : build v a is = .ok m) (h : m.validate .standard = .ok ())
    {x : Instruction} (hx : m.Annotates x) :
    AcceptedWith v a is x ↔
      (x.opcode = .decorateId ∨ x.opcode = .decorateString →
        ∀ id, x.operand 0 = some id → m.function? id = none) := by
  refine ⟨fun haccepted hop id => hx.function?_target hbuild haccepted hop, fun htarget => ?_⟩
  have hjoins := joins_append x is
  have hplaced : m.Annotates { x with position := is.length, uses := [] } :=
    ⟨hx.opcode, hx.others⟩
  have hresult := (Opcode.isPassive_iff.mp hx.isPassive).1
  obtain ⟨m', hbuild'⟩ := hjoins.exists_build hresult hbuild
  have hmirrors : Mirrors .standard (Equiv.refl Nat) m m' :=
    hjoins.mirrors_of_refers hx.isPassive hbuild hbuild' nofun (hplaced.refers htarget _)
  exact ⟨m', hbuild', (hjoins.validate_iff hx.isPassive hbuild hbuild' hmirrors).mp h⟩

open Engine in
theorem groupOnFunction_acceptedWith :
    let is := withTypes (callee ++ [.ofOpcode .decorationGroup [9]])
    let x : Instruction := .ofOpcode .groupDecorate [9, 4]
    ∃ m, build .v1_6 .logical is = .ok m ∧ m.validate .standard = .ok () ∧ m.Annotates x ∧
      (m.function? 4).isSome ∧ AcceptedWith .v1_6 .logical is x := by
  intro is x
  let m := assemble .v1_6 .logical (place is)
  have hbuild : build .v1_6 .logical is = .ok m := rfl
  have hvalid : m.validate .standard = .ok () := rfl
  have hx : m.Annotates x := by
    refine ⟨by decide, fun k id hid hk => ?_⟩
    have hoperands : (k, id) ∈ [(0, 9), (1, 4)] := hid
    obtain ⟨rfl, rfl⟩ | ⟨rfl, rfl⟩ : k = 0 ∧ id = 9 ∨ k = 1 ∧ id = 4 := by simpa using hoperands
    · rfl
    · contradiction
  refine ⟨m, hbuild, hvalid, hx, rfl, (annotated_accepted_iff hbuild hvalid hx).mpr fun hop => ?_⟩
  obtain hop | hop := hop <;> contradiction

open Engine in
theorem stringOnFunction_not_acceptedWith :
    let is := withTypes callee
    let x : Instruction := .ofOpcode .decorateString [4, 5635, 0x66]
    ∃ m, build .v1_6 .logical is = .ok m ∧ m.validate .standard = .ok () ∧ m.Annotates x ∧
      ¬ AcceptedWith .v1_6 .logical is x := by
  intro is x
  have hx : (assemble .v1_6 .logical (place is)).Annotates x := by
    refine ⟨by decide, fun k id hid hk => ?_⟩
    have hoperands : (k, id) ∈ [(0, 4)] := hid
    obtain ⟨rfl, rfl⟩ : k = 0 ∧ id = 4 := by simpa using hoperands
    contradiction
  refine ⟨_, rfl, rfl, hx, ?_⟩
  rintro ⟨m', hbuild', hvalid⟩
  obtain ⟨-, rfl⟩ := (build_eq_ok_iff _ _ _ m').mp hbuild'
  contradiction

end Module
end Spirv
