import Spirv.Proofs.Engine.Order
import Spirv.Proofs.Function.Rules

set_option autoImplicit false

/-!
# Where diagnostics point

A diagnostic points at an instruction of the module, and names that instruction's result first. It
is the instruction that fails, or else one that refers to a failing function, which is named then.
-/
namespace Spirv

namespace Diagnostic

variable {d : Diagnostic}

theorem withIds_cons (d : Diagnostic) (id : Id) (ids : List Id) :
    d.withIds (id :: ids) = (d.withIds [id]).withIds ids := rfl

theorem withIds_singleton (d : Diagnostic) (id : Id) :
    (d.withIds [id]).ids = if id ∈ d.ids then d.ids else d.ids ++ [id] := rfl

theorem ids_prefix_withIds (d : Diagnostic) (ids : List Id) : d.ids <+: (d.withIds ids).ids := by
  induction ids generalizing d with
  | nil => exact List.prefix_refl _
  | cons id ids ih =>
    have hfirst : d.ids <+: (d.withIds [id]).ids := by
      rw [withIds_singleton]
      split
      · exact List.prefix_refl _
      · exact List.prefix_append _ _
    rw [withIds_cons]
    exact hfirst.trans (ih _)

theorem nodup_withIds (h : d.ids.Nodup) (ids : List Id) : (d.withIds ids).ids.Nodup := by
  induction ids generalizing d with
  | nil => exact h
  | cons id ids ih =>
    rw [withIds_cons]
    refine ih ?_
    rw [withIds_singleton]
    split
    · exact h
    · rename_i hnew
      refine List.nodup_append.mpr ⟨h, List.pairwise_singleton _ id, ?_⟩
      rintro a ha b hb rfl
      exact hnew (List.mem_singleton.mp hb ▸ ha)

theorem mem_withIds_of_mem {id : Id} {ids : List Id} (h : id ∈ ids) : id ∈ (d.withIds ids).ids := by
  induction ids generalizing d with
  | nil => contradiction
  | cons a ids ih =>
    rw [withIds_cons]
    obtain rfl | h := List.mem_cons.mp h
    · refine (ids_prefix_withIds _ ids).subset ?_
      rw [withIds_singleton]
      split
      · assumption
      · exact List.mem_append_right _ List.mem_cons_self
    · exact ih h

theorem nodup_about (i : Instruction) (kind : Kind) (ids : List Id) (message : String) :
    (about i kind ids message).ids.Nodup :=
  nodup_withIds (nodup_withIds List.nodup_nil _) ids

theorem head?_about {i : Instruction} {id : Id} (h : i.resultId = some id) (kind : Kind)
    (ids : List Id) (message : String) : (about i kind ids message).ids.head? = some id := by
  obtain ⟨rest, hrest⟩ := ids_prefix_withIds
    (withIds { kind, message, position := i.position, opcode := i.opcode } i.resultId.toList) ids
  rw [about, ← hrest, h]
  rfl

/-- The diagnostic points at the instruction and names each id once, the result of the instruction
first. -/
structure Cites (m : Module) (d : Diagnostic) (site : Instruction) : Prop where
  position_lt : d.position < m.instructions.length
  found : m.instructions[d.position]? = some site
  opcode : d.opcode = site.opcode
  nodup : d.ids.Nodup
  head : ∀ id, site.resultId = some id → d.ids.head? = some id

end Diagnostic

theorem Violation.cites {m : Module} (hm : m.Indexed) {v : Violation} (hv : v.site ∈ m.instructions)
    (name : Id → String) : (v.diagnostic name).Cites m v.site where
  position_lt := hm.position_lt hv
  found := hm.instruction?_position hv
  opcode := rfl
  nodup := Diagnostic.nodup_about _ _ _ _
  head _ hid := Diagnostic.head?_about hid _ _ _

/-- A misused function is named, and the instruction that is reported refers to it. -/
theorem Module.Misused.names {m : Module} {config : Config} (hm : m.Indexed) {f : Instruction}
    {v : Violation} (hmisused : m.Misused config f v.site) (hv : m.check config f = .error v)
    (name : Id → String) :
    ∃ id k, f.resultId = some id ∧ (k, id) ∈ v.site.idOperands ∧ id ∈ (v.diagnostic name).ids := by
  obtain ⟨id, hid⟩ := hm.exists_resultId hmisused.mem (by rw [hmisused.opcode]; rfl)
  have huser := hmisused.user
  rw [hm.forbiddenUser?_eq hmisused.mem hid] at huser
  obtain ⟨hrefers, -⟩ := (Bool.and_eq_true _ _).mp (List.find?_some huser :)
  obtain ⟨⟨k, id'⟩, hk, heq⟩ := List.any_eq_true.mp hrefers
  obtain rfl : id' = id := eq_of_beq heq
  refine ⟨id', k, hid, hk, Diagnostic.mem_withIds_of_mem ?_⟩
  have hfault := congrArg Violation.fault (Except.error.inj (hmisused.check_eq.symm.trans hv))
  rw [← hfault, hid]
  exact List.mem_singleton.mpr rfl

/-- Whenever an instruction of a module fails, the diagnostic points at an instruction of the module:
the one that fails, or one that refers to it where that is a function. -/
theorem Engine.failure_cites {v : Version} {a : AddressingModel} {is : List Instruction} {e : Engine}
    (hbuild : Module.build v a is = .ok e.module) {i : Instruction}
    (hi : i ∈ e.module.instructions) {failure : Error}
    (h : e.validateInstruction i = .error failure) :
    ∃ d site, failure = .validation d ∧ d.Cites e.module site ∧
      (d.position = i.position ∨
        i.opcode = .function ∧
          ∃ id k, i.resultId = some id ∧ (k, id) ∈ site.idOperands ∧ id ∈ d.ids) := by
  have hm := Module.indexed_of_build hbuild
  obtain ⟨v, hv, rfl⟩ := mapError_eq_error_iff.mp h
  refine ⟨_, v.site, rfl, Violation.cites hm (Module.site_mem hi hv) _, ?_⟩
  obtain hsite | hmisused := Module.site_of_check hi hv
  · left
    rw [← hsite]
    rfl
  · exact Or.inr ⟨hmisused.opcode, hmisused.names hm hv _⟩

/-- The function `4` stands at position 3 and fails, and the instruction that copies it is cited. -/
theorem Engine.calleeFirst_failure_cites :
    Module.build .v1_6 .logical (withTypes (callee ++ copier)) = .ok calleeFirst.module ∧
      ∃ f ∈ calleeFirst.module.instructions, f.position = 3 ∧
        ∃ failure, calleeFirst.validateInstruction f = .error failure ∧
          ∃ d site, failure = .validation d ∧ d.Cites calleeFirst.module site ∧
            (d.position = f.position ∨
              f.opcode = .function ∧
                ∃ id k, f.resultId = some id ∧ (k, id) ∈ site.idOperands ∧ id ∈ d.ids) ∧
            d.position = 9 ∧ d.ids = [8, 4] := by
  have hbuild : Module.build .v1_6 .logical (withTypes (callee ++ copier)) =
      .ok calleeFirst.module := rfl
  have hf : calleeFirst.module.instructions[3] ∈ calleeFirst.module.instructions :=
    List.getElem_mem _
  have hfails : calleeFirst.validateInstruction calleeFirst.module.instructions[3] =
      .error (calleeFirst.report
        ⟨calleeFirst.module.instructions[9], .function (.invalidUse 4)⟩) := rfl
  obtain ⟨d, site, hd, hcites, hposition⟩ := failure_cites hbuild hf hfails
  obtain rfl := Error.validation.inj hd
  exact ⟨hbuild, _, hf, rfl, _, hfails, _, site, rfl, hcites, hposition, rfl, rfl⟩

end Spirv
