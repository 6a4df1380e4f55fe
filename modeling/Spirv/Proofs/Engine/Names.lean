import Spirv.Proofs.Engine.Inert

set_option autoImplicit false

/-!
# Names without effect

How ids are rendered shows in messages only, and a debug name refers to its target without any rule
taking offence. So neither of them has a part in what is reported apart from the messages.
-/
namespace Spirv

namespace Diagnostic

def facts (d : Diagnostic) : Kind × Nat × Opcode × List Id := (d.kind, d.position, d.opcode, d.ids)

theorem MovedTo.facts_eq {d d' : Diagnostic} (h : d.MovedTo (Equiv.refl Nat) d') :
    d.facts = d'.facts := by
  rw [facts, facts, h.kind, h.opcode, h.ids, h.position]
  rfl

theorem map_facts_eq {ds ds' : List Diagnostic}
    (h : List.Forall₂ (MovedTo (Equiv.refl Nat)) ds ds') : ds.map facts = ds'.map facts := by
  rw [← List.forall₂_eq_eq_eq, List.forall₂_map_left_iff, List.forall₂_map_right_iff]
  exact h.imp fun _ _ => MovedTo.facts_eq

end Diagnostic

theorem SameReport.refl (r : Except Violation Unit) : SameReport (Equiv.refl Nat) r r := by
  cases r with
  | ok _ => exact .ok
  | error v => exact .error ⟨.refl v.site, rfl⟩ rfl fun _ => rfl

namespace Engine

theorem map_facts_collect (m : Module) (config : Config) (names names' : NameResolver) :
    (collect ⟨m, config, names⟩).map Diagnostic.facts =
      (collect ⟨m, config, names'⟩).map Diagnostic.facts := by
  have hsame : List.Forall₂ Eq m.instructions m.instructions := List.forall₂_refl _
  apply Diagnostic.map_facts_eq
  refine forall₂_collect rfl (List.rel_filterMap ?_ hsame)
  rintro i _ rfl
  exact diagnostic?_movedTo (.refl _)

theorem validate_eq_ok_iff (e : Engine) :
    e.validate = .ok () ↔ e.collect.map Diagnostic.facts = [] := by
  rw [validate_eq_head?, List.map_eq_nil_iff, ← List.head?_eq_none_iff]
  cases e.collect.head? <;> simp

end Engine

namespace Module

variable {v : Version} {a : AddressingModel} {is : List Instruction} {m m' : Module}

/-- A name may refer to a function, so it is no offence that its target is one. -/
theorem map_facts_collect_append_name (hm : build v a is = .ok m) {x : Instruction}
    (hx : x.opcode = .name) (hm' : build v a (is ++ [x]) = .ok m') (config : Config)
    (names names' : NameResolver) :
    (Engine.collect ⟨m, config, names⟩).map Diagnostic.facts =
      (Engine.collect ⟨m', config, names'⟩).map Diagnostic.facts := by
  have hjoins := joins_append x is
  have hpassive : x.opcode.isPassive = true := by rw [hx]; rfl
  have hdecorates : x.opcode.decorates = false := by rw [hx]; rfl
  have hrefers : m'.mayUseFunction (finish (place (is ++ [x]))
      { x with position := is.length, uses := [] }) = true := by
    rw [mayUseFunction, (finish_keepsCode _).opcode]
    simp only [hx]
  have hmirrors : Mirrors config (Equiv.refl Nat) m m' :=
    hjoins.mirrors hpassive hm hm' (fun _ => hdecorates) (Or.inr hrefers)
  exact Diagnostic.map_facts_eq (hjoins.forall₂_collect hpassive hm hm' hmirrors names names')

/-- What is reported, apart from the messages, and whether a module is accepted do not depend on how
ids are rendered, nor on a name that is declared at the end. -/
theorem names_inert (hm : build v a is = .ok m) (config : Config) (names names' : NameResolver) :
    ((Engine.collect ⟨m, config, names⟩).map Diagnostic.facts =
        (Engine.collect ⟨m, config, names'⟩).map Diagnostic.facts ∧
      (Engine.validate ⟨m, config, names⟩ = .ok () ↔
        Engine.validate ⟨m, config, names'⟩ = .ok ())) ∧
    ∀ x : Instruction, x.opcode = .name →
      ∃ m', build v a (is ++ [x]) = .ok m' ∧
        (Engine.collect ⟨m, config, names⟩).map Diagnostic.facts =
          (Engine.collect ⟨m', config, names'⟩).map Diagnostic.facts ∧
        (Engine.validate ⟨m, config, names⟩ = .ok () ↔
          Engine.validate ⟨m', config, names'⟩ = .ok ()) := by
  have hverdict {m' : Module} (h : (Engine.collect ⟨m, config, names⟩).map Diagnostic.facts =
      (Engine.collect ⟨m', config, names'⟩).map Diagnostic.facts) :
      Engine.validate ⟨m, config, names⟩ = .ok () ↔
        Engine.validate ⟨m', config, names'⟩ = .ok () := by
    rw [Engine.validate_eq_ok_iff, Engine.validate_eq_ok_iff, h]
  have hrendered := Engine.map_facts_collect m config names names'
  refine ⟨⟨hrendered, hverdict hrendered⟩, fun x hx => ?_⟩
  obtain ⟨m', hm'⟩ := (joins_append x is).exists_build (by rw [hx]; rfl) hm
  have hnamed := map_facts_collect_append_name hm hx hm' config names names'
  exact ⟨m', hm', hnamed, hverdict hnamed⟩

/-- The name of a function that is copied as if it were a value shows in a message only. -/
theorem copied_function_named :
    let is := Engine.withTypes (Engine.copier ++ Engine.callee)
    ∃ m m', build .v1_6 .logical is = .ok m ∧
      build .v1_6 .logical (is ++ [.ofOpcode .name [4, 0x66]]) = .ok m' ∧
      (Engine.collect ⟨m, .exhaustive, fun _ _ => "?"⟩).map Diagnostic.facts =
        (Engine.collect ⟨m', .exhaustive, friendlyName⟩).map Diagnostic.facts ∧
      (Engine.collect ⟨m', .exhaustive, friendlyName⟩).length = 2 ∧
      (Engine.collect ⟨m, .exhaustive, fun _ _ => "?"⟩).map (·.message) ≠
        (Engine.collect ⟨m', .exhaustive, friendlyName⟩).map (·.message) := by
  intro is
  let m := assemble .v1_6 .logical (place is)
  let named := is ++ [.ofOpcode .name [4, 0x66]]
  have hm : build .v1_6 .logical is = .ok m := rfl
  obtain ⟨-, happended⟩ := names_inert hm .exhaustive (fun _ _ => "?") friendlyName
  obtain ⟨m', hm', hnamed, -⟩ := happended (.ofOpcode .name [4, 0x66]) rfl
  obtain rfl : m' = assemble .v1_6 .logical (place named) :=
    (((build_eq_ok_iff _ _ _ m').mp hm').2).symm
  exact ⟨m, _, hm, hm', hnamed, rfl, by decide⟩

end Module
end Spirv
