import Spirv.Proofs.Agreement.Rules
import Spirv.Proofs.Function.Rules
import Spirv.Proofs.Module.Accepted
import Spirv.Proofs.Module.Rearranged

set_option autoImplicit false

/-!
# Verdicts on rearranged modules

A module and a rearranged one agree on definitions, their parameters have the same functions, and a
function has the same references. So each instruction passes its rule in both modules or in neither.
-/
namespace Spirv.Module

namespace Rearranges

variable {σ : Equiv.Perm Nat} {is js : List Instruction} {v : Version} {a : AddressingModel}
  {m m' : Module}

theorem instruction? (h : Rearranges σ is js) (hm : build v a is = .ok m)
    (hm' : build v a js = .ok m') (k : Nat) :
    SameFind (m.instruction? k) (m'.instruction? (σ k)) := by
  obtain ⟨hresults, -⟩ := (build_eq_ok_iff v a is m).mp hm
  obtain ⟨-, hdistinct, -⟩ := (checkResults_eq_ok_iff [] _).mp hresults
  rw [Module.instruction?, Module.instruction?, build_getElem? hm, build_getElem? hm', h.moved]
  cases is[k]? with
  | none => exact .none
  | some i => exact .some (finish_sameCode (h.importedSet?_place hdistinct) ⟨rfl, rfl, rfl, rfl⟩)

theorem exists_at (h : Rearranges σ is js) (hm : build v a is = .ok m)
    (hm' : build v a js = .ok m') {k : Nat} {i : Instruction} (hi : m.instructions[k]? = some i) :
    ∃ j, m'.instructions[σ k]? = some j ∧ i.SameCode j := by
  obtain ⟨hnone, -⟩ | ⟨i', j, hi', hj, hij⟩ := (h.instruction? hm hm' k).none_or_some
  · rw [Module.instruction?, hi] at hnone
    contradiction
  · obtain rfl : i = i' := Option.some.inj (hi.symm.trans hi')
    exact ⟨j, hj, hij⟩

theorem exists_image (h : Rearranges σ is js) (hm : build v a is = .ok m)
    (hm' : build v a js = .ok m') {i : Instruction} (hi : i ∈ m.instructions) :
    ∃ j ∈ m'.instructions, i.SameCode j := by
  obtain ⟨k, hk⟩ := List.mem_iff_getElem?.mp hi
  obtain ⟨j, hj, hij⟩ := h.exists_at hm hm' hk
  exact ⟨j, List.mem_of_getElem? hj, hij⟩

theorem exists_origin (h : Rearranges σ is js) (hm : build v a is = .ok m)
    (hm' : build v a js = .ok m') {j : Instruction} (hj : j ∈ m'.instructions) :
    ∃ i ∈ m.instructions, i.SameCode j := by
  obtain ⟨i, hi, hji⟩ := h.symm.exists_image hm' hm hj
  exact ⟨i, hi, hji.symm⟩

theorem hasCapability (h : Rearranges σ is js) (hm : build v a is = .ok m)
    (hm' : build v a js = .ok m') (c : Capability) : m.hasCapability c = m'.hasCapability c := by
  obtain ⟨-, rfl⟩ := (build_eq_ok_iff v a is m).mp hm
  obtain ⟨-, rfl⟩ := (build_eq_ok_iff v a js m').mp hm'
  have hdeclared : ((place js).filterMap declaredCapability?).Perm
      ((place is).filterMap declaredCapability?) := h.declared_perm fun _ => rfl
  simp only [Module.hasCapability, assemble, CapabilitySet.contains_ofList, hdeclared.any_eq]

theorem features (h : Rearranges σ is js) (hm : build v a is = .ok m)
    (hm' : build v a js = .ok m') : m.features = m'.features := by
  have hcapability := h.hasCapability hm hm'
  obtain ⟨-, rfl⟩ := (build_eq_ok_iff v a is m).mp hm
  obtain ⟨-, rfl⟩ := (build_eq_ok_iff v a js m').mp hm'
  have hdeclared : ((place js).filterMap declaredExtension?).Perm
      ((place is).filterMap declaredExtension?) := h.declared_perm fun _ => rfl
  simp only [Module.hasCapability, assemble] at hcapability
  simp only [assemble, Features.derive, hcapability, hdeclared.contains_eq]

theorem agree (h : Rearranges σ is js) (hm : build v a is = .ok m) (hm' : build v a js = .ok m')
    (config : Config) : Agree config m m' where
  definition? id := by
    refine SameFind.find? (fun _ => h.exists_image hm hm') (fun _ => h.exists_origin hm hm')
      ?_ ?_
    · intro i j hij
      rw [hij.resultId]
    · intro i hi j hj hid hjd
      exact (indexed_of_build hm).resultId_injective hi hj (eq_of_beq hid) (eq_of_beq hjd)
  hasCapability := h.hasCapability hm hm'
  features := h.features hm hm'
  addressing := by
    obtain ⟨-, rfl⟩ := (build_eq_ok_iff v a is m).mp hm
    obtain ⟨-, rfl⟩ := (build_eq_ok_iff v a js m').mp hm'
    exact h.foldl_nextAddressing a
  decorationsOf := by
    intro _ id
    obtain ⟨-, rfl⟩ := (build_eq_ok_iff v a is m).mp hm
    obtain ⟨-, rfl⟩ := (build_eq_ok_iff v a js m').mp hm'
    simp only [Module.decorationsOf, assemble, h.decorationTable]

theorem parameterSlot? (h : Rearranges σ is js) (hm : build v a is = .ok m)
    (hm' : build v a js = .ok m') (k : Nat) :
    (m'.parameterSlot? (σ k)).bind ParameterSlot.enclosing? =
      ParameterTable.moveEnclosing σ ((m.parameterSlot? k).bind ParameterSlot.enclosing?) := by
  obtain ⟨-, rfl⟩ := (build_eq_ok_iff v a is m).mp hm
  obtain ⟨-, rfl⟩ := (build_eq_ok_iff v a js m').mp hm'
  exact lookup_parameterTable_of_filter (h.filter_place h.functions) (pairwise_place is)
    (pairwise_place js) k

end Rearranges

theorem checkParameter_eq_ok_iff (m : Module) (i : Instruction) :
    m.checkParameter i = .ok () ↔
      ∃ function index, (m.parameterSlot? i.position).bind ParameterSlot.enclosing? =
        some (function, index) ∧ m.checkParameterOf i function index = .ok () := by
  rw [checkParameter]
  cases m.parameterSlot? i.position with
  | none => simp
  | some slot => cases slot <;> simp [ParameterSlot.enclosing?]

/-- A function's references are found by going through the module as well as in its use list. -/
theorem Indexed.forall_uses_iff {m : Module} (hm : m.Indexed) {f : Instruction} {id : Id}
    (hf : f ∈ m.instructions) (hid : f.resultId = some id) :
    (∀ u ∈ f.uses, ∀ user, m.instruction? u.user = some user → m.mayUseFunction user = true) ↔
      ∀ user ∈ m.instructions, ∀ k, (k, id) ∈ user.idOperands → m.mayUseFunction user = true := by
  rw [← forbiddenUser?_eq_none_iff, hm.forbiddenUser?_eq hf hid, List.find?_eq_none]
  refine forall₂_congr fun user _ => ?_
  simp only [Bool.and_eq_true, List.any_eq_true, beq_iff_eq, Prod.exists, exists_eq_right,
    Bool.not_eq_true', not_and, Bool.not_eq_false, forall_exists_index]

namespace Rearranges

variable {σ : Equiv.Perm Nat} {is js : List Instruction} {v : Version} {a : AddressingModel}
  {m m' : Module} {i j : Instruction}

theorem checkFunction_iff (h : Rearranges σ is js) (hm : build v a is = .ok m)
    (hm' : build v a js = .ok m') (hi : i ∈ m.instructions) (hj : j ∈ m'.instructions)
    (hij : i.SameCode j) (hop : i.opcode = .function) :
    m.checkFunction i = .ok () ↔ m'.checkFunction j = .ok () := by
  have hagree := h.agree hm hm' .standard
  obtain ⟨id, hres⟩ := (indexed_of_build hm).exists_resultId hi (by rw [hop]; rfl)
  have hres' : j.resultId = some id := hij.resultId ▸ hres
  rw [checkFunction_eq_ok_iff, checkFunction_eq_ok_iff, ← checkSignature_eq_ok_iff,
    ← checkSignature_eq_ok_iff, hagree.checkSignature hij,
    (indexed_of_build hm).forall_uses_iff hi hres, (indexed_of_build hm').forall_uses_iff hj hres']
  refine and_congr_right fun _ => ⟨fun hall user huser k hk => ?_, fun hall user huser k hk => ?_⟩
  · obtain ⟨user', huser', hsame⟩ := h.exists_origin hm hm' huser
    rw [← hagree.mayUseFunction hsame]
    exact hall user' huser' k (hsame.idOperands ▸ hk)
  · obtain ⟨user', huser', hsame⟩ := h.exists_image hm hm' huser
    rw [hagree.mayUseFunction hsame]
    exact hall user' huser' k (hsame.idOperands ▸ hk)

theorem checkParameterOf (h : Rearranges σ is js) (hm : build v a is = .ok m)
    (hm' : build v a js = .ok m') (hij : i.SameCode j) (function index : Nat) :
    m.checkParameterOf i function index = m'.checkParameterOf j (σ function) index :=
  (h.agree hm hm' .standard).checkParameterOf hij (h.instruction? hm hm' function) index

theorem checkParameter_iff (h : Rearranges σ is js) (hm : build v a is = .ok m)
    (hm' : build v a js = .ok m') (hij : i.SameCode j) (hposition : j.position = σ i.position) :
    m.checkParameter i = .ok () ↔ m'.checkParameter j = .ok () := by
  rw [checkParameter_eq_ok_iff, checkParameter_eq_ok_iff, hposition, h.parameterSlot? hm hm']
  constructor
  · rintro ⟨function, index, hslot, hcheck⟩
    refine ⟨σ function, index, by rw [hslot]; rfl, ?_⟩
    rw [← h.checkParameterOf hm hm' hij, hcheck]
  · rintro ⟨moved, index, hslot, hcheck⟩
    obtain ⟨⟨function, _⟩, henclosing, heq⟩ := Option.map_eq_some_iff.mp hslot
    obtain ⟨rfl, rfl⟩ := Prod.mk.inj heq
    refine ⟨function, _, henclosing, ?_⟩
    rw [h.checkParameterOf hm hm' hij, hcheck]

theorem check_iff (h : Rearranges σ is js) (hm : build v a is = .ok m)
    (hm' : build v a js = .ok m') (config : Config) {k : Nat} (hi : m.instructions[k]? = some i) :
    ∃ j, m'.instructions[σ k]? = some j ∧ i.SameCode j ∧
      (m.check config i = .ok () ↔ m'.check config j = .ok ()) := by
  obtain ⟨j, hj, hij⟩ := h.exists_at hm hm' hi
  refine ⟨j, hj, hij, ?_⟩
  have hagree := h.agree hm hm' config
  rw [check, check, ← hij.opcode]
  cases i.opcode.family with
  | other => rfl
  | constant =>
    simp only [checkConstantPass]
    split
    · rw [mapError_eq_ok_iff, mapError_eq_ok_iff, hagree.checkConstant hij]
    · rfl
  | function =>
    simp only [checkFunctionPass, ← hij.opcode]
    split
    · split
      case h_1 hop =>
        have hmem := List.mem_of_getElem? hi
        have hmem' := List.mem_of_getElem? hj
        exact h.checkFunction_iff hm hm' hmem hmem' hij hop
      case h_2 =>
        have hposition : j.position = σ i.position := by
          rw [(indexed_of_build hm).position k i hi, (indexed_of_build hm').position _ j hj]
        rw [mapError_eq_ok_iff, mapError_eq_ok_iff, h.checkParameter_iff hm hm' hij hposition]
      case h_3 => rw [mapError_eq_ok_iff, mapError_eq_ok_iff, hagree.checkCall hij]
      case h_4 => rw [mapError_eq_ok_iff, mapError_eq_ok_iff, hagree.checkPerElement hij]
      case h_5 => rfl
    · rfl

theorem validate_eq_ok (h : Rearranges σ is js) (hm : build v a is = .ok m)
    (hm' : build v a js = .ok m') {config : Config} (hvalid : m'.validate config = .ok ()) :
    m.validate config = .ok () := by
  rw [validate_eq_ok_iff] at hvalid ⊢
  intro i hi
  obtain ⟨k, hk⟩ := List.mem_iff_getElem?.mp hi
  obtain ⟨j, hj, -, hcheck⟩ := h.check_iff hm hm' config hk
  exact hcheck.mpr (hvalid j (List.mem_of_getElem? hj))

end Rearranges

/-- Where instructions stand makes no difference to whether they make up a module, to whether the
module is accepted, and to which instructions fail. -/
theorem rearranged_iff {σ : Equiv.Perm Nat} {is js : List Instruction} (h : Rearranges σ is js)
    (v : Version) (a : AddressingModel) :
    ((∃ m, build v a is = .ok m) ↔ ∃ m', build v a js = .ok m') ∧
      ∀ m m', build v a is = .ok m → build v a js = .ok m' →
        ∀ (config : Config) (names : NameResolver),
          (m.validate config = .ok () ↔ m'.validate config = .ok ()) ∧
          ∀ (k : Nat) (i : Instruction), m.instructions[k]? = some i →
            ∃ j, m'.instructions[σ k]? = some j ∧ j.opcode = i.opcode ∧ j.words = i.words ∧
              (Engine.validateInstruction ⟨m, config, names⟩ i = .ok () ↔
                Engine.validateInstruction ⟨m', config, names⟩ j = .ok ()) := by
  refine ⟨h.exists_build_iff v a, fun m m' hm hm' config names => ⟨⟨?_, ?_⟩, fun k i hi => ?_⟩⟩
  · exact h.symm.validate_eq_ok hm' hm
  · exact h.validate_eq_ok hm hm'
  · obtain ⟨j, hj, hij, hcheck⟩ := h.check_iff hm hm' config hi
    refine ⟨j, hj, hij.opcode.symm, hij.words.symm, ?_⟩
    rw [Engine.validateInstruction, Engine.validateInstruction, mapError_eq_ok_iff,
      mapError_eq_ok_iff]
    exact hcheck

def recursion (first last : Instruction) : List Instruction :=
  [first, .ofOpcode .function [1, 3, 0, 2], .ofOpcode .functionParameter [1, 4],
    .ofOpcode .label [5], .ofOpcode .functionCall [1, 6, 3, 4], .ofOpcode .returnValue [6],
    .ofOpcode .functionEnd [], last]

def typesSwapped : List Instruction :=
  recursion (.ofOpcode .typeFunction [2, 1, 1]) (.ofOpcode .typeInt [1, 32, 0])

def typesInOrder : List Instruction :=
  recursion (.ofOpcode .typeInt [1, 32, 0]) (.ofOpcode .typeFunction [2, 1, 1])

theorem typesSwapped_accepted :
    Rearranges (Equiv.swap 0 7) typesSwapped typesInOrder ∧
      build .v1_6 .logical typesSwapped = .ok (assemble .v1_6 .logical (place typesSwapped)) ∧
      (assemble .v1_6 .logical (place typesSwapped)).validate .standard = .ok () := by
  have hmoved (k : Nat) : typesInOrder[Equiv.swap 0 7 k]? = typesSwapped[k]? := by
    by_cases hk : k < 8
    · revert k
      decide
    · rw [Equiv.swap_apply_of_ne_of_ne (by omega) (by omega)]
      have hlength : typesInOrder.length = 8 ∧ typesSwapped.length = 8 := ⟨rfl, rfl⟩
      rw [List.getElem?_eq_none (by omega), List.getElem?_eq_none (by omega)]
  have hrearranges : Rearranges (Equiv.swap 0 7) typesSwapped typesInOrder := by
    refine ⟨hmoved, ?_, ?_, ?_⟩ <;>
    · unfold KeepsOrder
      decide
  have hswapped : build .v1_6 .logical typesSwapped =
      .ok (assemble .v1_6 .logical (place typesSwapped)) := rfl
  obtain ⟨hbuild, hverdict⟩ := rearranged_iff hrearranges .v1_6 .logical
  obtain ⟨m, hm⟩ := hbuild.mp ⟨_, hswapped⟩
  obtain ⟨-, rfl⟩ := (build_eq_ok_iff _ _ _ m).mp hm
  refine ⟨hrearranges, hswapped, ?_⟩
  exact (hverdict _ _ hswapped hm .standard friendlyName).1.mpr rfl

end Spirv.Module
