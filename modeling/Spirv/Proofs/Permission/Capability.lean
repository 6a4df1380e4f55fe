import Spirv.Proofs.Agreement.Inserted
import Spirv.Proofs.Permission.Rules

set_option autoImplicit false

/-!
# One more capability

A module has the capabilities that its instructions declare and those that follow from them, so
declaring one more leaves it all it had. Apart from `Shader`, this only permits more.
-/
namespace Spirv.Module

variable {v : Version} {a : AddressingModel} {is : List Instruction} {m : Module}

theorem declaredCapability?_of_operand {x : Instruction} {c : Capability}
    (hx : x.opcode = .capability) (hc : x.operand 0 = some (UInt32.ofNat c.value)) :
    declaredCapability? x = some c := by
  rw [declaredCapability?, hx, hc]
  cases c <;> rfl

theorem hasCapability_iff_of_build (hm : build v a is = .ok m) (c : Capability) :
    m.hasCapability c = true ↔
      ∃ i ∈ is, ∃ d, declaredCapability? i = some d ∧
        Relation.ReflTransGen Capability.Implies d c := by
  obtain ⟨-, rfl⟩ := (build_eq_ok_iff v a is m).mp hm
  have hdeclared : (place is).filterMap declaredCapability? = is.filterMap declaredCapability? :=
    filterMap_place is fun _ _ => rfl
  simp only [hasCapability, assemble, hdeclared, CapabilitySet.contains_ofList_iff,
    List.mem_filterMap]
  constructor
  · rintro ⟨d, ⟨i, hi, hd⟩, hreaches⟩
    exact ⟨i, hi, d, hd, hreaches⟩
  · rintro ⟨i, hi, d, hd, hreaches⟩
    exact ⟨d, ⟨i, hi, hd⟩, hreaches⟩

theorem hasCapability_iff_of_declared {before after : List Instruction} {x : Instruction}
    {m' : Module} (hm : build v a (before ++ after) = .ok m)
    (hm' : build v a (before ++ x :: after) = .ok m') {c : Capability}
    (hx : declaredCapability? x = some c) (d : Capability) :
    m'.hasCapability d = true ↔
      m.hasCapability d = true ∨ Relation.ReflTransGen Capability.Implies c d := by
  simp only [hasCapability_iff_of_build hm', hasCapability_iff_of_build hm, List.mem_append,
    List.mem_cons, or_and_right, exists_or, exists_eq_left, hx, Option.some.injEq, exists_eq_left']
  exact (or_congr_right or_comm).trans or_assoc.symm

theorem variablePointers_of_build (hm : build v a is = .ok m) :
    m.features.variablePointers =
      (m.hasCapability .variablePointers || m.hasCapability .variablePointersStorageBuffer) := by
  obtain ⟨-, rfl⟩ := (build_eq_ok_iff v a is m).mp hm
  rfl

namespace Joins

variable {σ : Equiv.Perm Nat} {x : Instruction} {js : List Instruction} {m' : Module}

/-- Only the capabilities of a module depend on the instruction that declares one. -/
theorem permitsMore (h : Joins σ x (place is) (place js)) (hx : x.opcode = .capability)
    (hm : build v a is = .ok m) (hm' : build v a js = .ok m')
    (hkept : ∀ c, m.hasCapability c = true → m'.hasCapability c = true)
    (hshader : m'.hasCapability .shader = true → m.hasCapability .shader = true) :
    m.PermitsMore (m.withPermissions m') where
  instructions := rfl
  decorations := rfl
  parameters := rfl
  addressing := rfl
  hasCapability := hkept
  shader := hshader
  uConvertSpecConstantOp := by
    obtain ⟨-, rfl⟩ := (build_eq_ok_iff v a is m).mp hm
    obtain ⟨-, rfl⟩ := (build_eq_ok_iff v a js m').mp hm'
    have hextensions : (place is).filterMap declaredExtension? =
        (place js).filterMap declaredExtension? := by
      refine h.filterMap_eq ?_ fun _ => rfl
      rw [declaredExtension?, hx]
      rfl
    simp only [withPermissions, assemble, Features.derive, hextensions, imp_self]
  variablePointers := by
    have hmore := variablePointers_of_build hm'
    rw [variablePointers_of_build hm, show (m.withPermissions m').features = m'.features from rfl,
      hmore, Bool.or_eq_true, Bool.or_eq_true]
    exact Or.imp (hkept _) (hkept _)

theorem validate_of_permitsMore (h : Joins σ x (place is) (place js))
    (hx : x.opcode = .capability) (hm : build v a is = .ok m) (hm' : build v a js = .ok m')
    (hmore : m.PermitsMore (m.withPermissions m')) {config : Config}
    (hvalid : m.validate config = .ok ()) : m'.validate config = .ok () := by
  have hresult : x.opcode.hasResultId = false := by rw [hx]; rfl
  have hdecorates : x.opcode.decorates = false := by rw [hx]; rfl
  have hids : x.idOperands = [] := by
    apply Instruction.idOperands_eq_nil_of_operandIsId
    intro k
    rw [hx, Opcode.operandIsId_of_ne (by decide)]
    rfl
  have hmirrors : Mirrors config σ (m.withPermissions m') m' :=
    h.mirrors_withPermissions hresult (by rw [hx]; decide) hm hm' (fun _ => hdecorates)
      (Or.inl (hids ▸ List.forall_mem_nil _))
  have hinserted := h.instructions hresult hm hm'
  have hindexed := (indexed_of_build hm).withPermissions m'
  exact (hmirrors.validate_iff hindexed hinserted hresult).mp (hmore.validate (.refl config) hvalid)

end Joins

/-- An accepted module is still accepted with one more capability and all that it grants, wherever
it is declared, unless that is what gives it `Shader`. -/
theorem accepted_of_capability_declared {before after : List Instruction} {config : Config}
    (hm : build v a (before ++ after) = .ok m) (hvalid : m.validate config = .ok ())
    {x : Instruction} {c : Capability} (hx : x.opcode = .capability)
    (hc : x.operand 0 = some (UInt32.ofNat c.value))
    (hshader : m.hasCapability .shader = true ∨
      ¬ Relation.ReflTransGen Capability.Implies c .shader) :
    ∃ m', build v a (before ++ x :: after) = .ok m' ∧
      (∀ d, m'.hasCapability d = true ↔
        m.hasCapability d = true ∨ Relation.ReflTransGen Capability.Implies c d) ∧
      m'.validate config = .ok () := by
  have hjoins := joins_place x before after
  obtain ⟨m', hm'⟩ := hjoins.exists_build (by rw [hx]; rfl) hm
  have hdeclared := hasCapability_iff_of_declared hm hm' (declaredCapability?_of_operand hx hc)
  have hkept (d : Capability) (hd : m.hasCapability d = true) : m'.hasCapability d = true :=
    (hdeclared d).mpr (Or.inl hd)
  have hold (hhas : m'.hasCapability .shader = true) : m.hasCapability .shader = true := by
    obtain hbefore | hgained := (hdeclared .shader).mp hhas
    · exact hbefore
    · exact hshader.resolve_right fun hnone => hnone hgained
  have hmore := hjoins.permitsMore hx hm hm' hkept hold
  exact ⟨m', hm', hdeclared, hjoins.validate_of_permitsMore hx hm hm' hmore hvalid⟩

theorem shaderCall_accepted_with_variablePointers :
    let is := .ofOpcode .capability [1] :: pointerCall (.ofOpcode .var [3, 11, 7])
    ∃ m m', build .v1_6 .logical is = .ok m ∧ m.validate .standard = .ok () ∧
      m.hasCapability .shader = true ∧ m.hasCapability .variablePointersStorageBuffer = false ∧
      build .v1_6 .logical (is ++ [.ofOpcode .capability [4442]]) = .ok m' ∧
      m'.hasCapability .variablePointersStorageBuffer = true ∧
      m'.validate .standard = .ok () := by
  intro is
  let m := assemble .v1_6 .logical (place is)
  have hm : build .v1_6 .logical (is ++ []) = .ok m := rfl
  have hvalid : m.validate .standard = .ok () := rfl
  have hshader : m.hasCapability .shader = true := rfl
  have hoperand : (Instruction.ofOpcode .capability [4442]).operand 0 =
      some (UInt32.ofNat Capability.variablePointers.value) := rfl
  have himplies : Capability.variablePointers.Implies .variablePointersStorageBuffer :=
    List.mem_singleton_self _
  obtain ⟨m', hm', hdeclared, hvalid'⟩ :=
    accepted_of_capability_declared hm hvalid rfl hoperand (Or.inl hshader)
  exact ⟨m, m', hm, hvalid, hshader, rfl, hm', (hdeclared _).mpr (Or.inr (.single himplies)),
    hvalid'⟩

/-- A constant of 16 bits is refused as soon as `Shader` is declared. -/
example :
    let is : List Instruction := [.ofOpcode .typeFloat [1, 16], .ofOpcode .constantNull [1, 2]]
    let declared := is ++ [.ofOpcode .capability [1]]
    (assemble .v1_6 .logical (place is)).validate .standard = .ok () ∧
      ∃ v, (assemble .v1_6 .logical (place declared)).validate .standard = .error v :=
  ⟨rfl, _, rfl⟩

end Spirv.Module
