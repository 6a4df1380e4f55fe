import Spirv.Proofs.Agreement.Mirrored
import Spirv.Proofs.Function.Rules
import Spirv.Proofs.Module.Accepted
import Spirv.Proofs.Module.Inserted

set_option autoImplicit false

/-!
# Modules with an instruction put in

A module with an instruction put in that has no result mirrors the one without it, up to the
permissions that the instruction grants, if it may refer to functions or refers to none. A passive
instruction grants no permissions.
-/
namespace Spirv

namespace Opcode

variable {op : Opcode}

theorem ne_of_not_hasResultId {result : Opcode} (h : op.hasResultId = false)
    (hresult : result.hasResultId = true) : op ≠ result := by
  rintro rfl
  rw [h] at hresult
  contradiction

theorem delimitsParameters_of_not_hasResultId (h : op.hasResultId = false) :
    op.delimitsParameters = false := by
  unfold delimitsParameters
  split
  · contradiction
  · contradiction
  · rfl

theorem family_of_not_hasResultId (h : op.hasResultId = false) : op.family = .other := by
  have hplain : op.isPlainConstant = false := by
    unfold isPlainConstant
    split <;> first | contradiction | rfl
  have hspec : op.isSpecConstant = false := by
    unfold isSpecConstant
    split <;> first | contradiction | rfl
  unfold family
  rw [isConstant, hplain, hspec, Bool.or_false, if_neg Bool.false_ne_true]
  split <;> first | contradiction | rfl

end Opcode

namespace Module

def withPermissions (m permitted : Module) : Module :=
  { m with capabilities := permitted.capabilities, features := permitted.features }

theorem Indexed.withPermissions {m : Module} (hm : m.Indexed) (permitted : Module) :
    (m.withPermissions permitted).Indexed :=
  ⟨hm.position, hm.result, hm.distinct, hm.uses, hm.parameters⟩

/-- No rule is about an instruction without a result. -/
theorem check_finish_eq_ok {m : Module} {config : Config} {placed : List Instruction}
    {x : Instruction} (hx : x.opcode.hasResultId = false) :
    m.check config (finish placed x) = .ok () := by
  rw [check, (finish_keepsCode _).opcode, Opcode.family_of_not_hasResultId hx]

namespace Mirrors

variable {config : Config} {σ : Equiv.Perm Nat} {m m' : Module} {x : Instruction}
  {placed : List Instruction}

theorem reports (h : Mirrors config σ m m') (hm : m.Indexed)
    (hinserted : Inserted (Instruction.MovedTo σ) (finish placed x) m.instructions
      m'.instructions) :
    Inserted (fun i j => SameReport σ (m.check config i) (m'.check config j)) (finish placed x)
      m.instructions m'.instructions :=
  hinserted.imp_of_mem fun _ hi _ hj hij => h.check hm hi hj hij

theorem validate_iff (h : Mirrors config σ m m') (hm : m.Indexed)
    (hinserted : Inserted (Instruction.MovedTo σ) (finish placed x) m.instructions
      m'.instructions)
    (hx : x.opcode.hasResultId = false) :
    m.validate config = .ok () ↔ m'.validate config = .ok () := by
  rw [validate_eq_ok_iff, validate_eq_ok_iff]
  exact (h.reports hm hinserted).forall_iff (check_finish_eq_ok hx) fun _ _ => (·.eq_ok_iff)

end Mirrors

namespace Joins

variable {σ : Equiv.Perm Nat} {x : Instruction} {is js : List Instruction} {v : Version}
  {a : AddressingModel} {m m' : Module}

theorem instructions (h : Joins σ x (place is) (place js)) (hx : x.opcode.hasResultId = false)
    (hm : build v a is = .ok m) (hm' : build v a js = .ok m') :
    Inserted (Instruction.MovedTo σ) (finish (place js) x) m.instructions m'.instructions := by
  obtain ⟨-, rfl⟩ := (build_eq_ok_iff v a is m).mp hm
  obtain ⟨-, rfl⟩ := (build_eq_ok_iff v a js m').mp hm'
  rw [assemble_instructions, assemble_instructions]
  have hsets := h.importedSet?_eq (Opcode.ne_of_not_hasResultId hx rfl)
  refine h.map ?_
  rintro i _ rfl
  refine ⟨finish_sameCode hsets (i.sameCode_movedBy σ), ?_⟩
  rw [(finish_keepsCode _).position, (finish_keepsCode _).position]
  rfl

theorem definition? (h : Joins σ x (place is) (place js)) (hx : x.opcode.hasResultId = false)
    (hm : build v a is = .ok m) (hm' : build v a js = .ok m') (id : Id) :
    SameFind (m.definition? id) (m'.definition? id) := by
  have hcode : Inserted Instruction.SameCode (finish (place js) x) m.instructions m'.instructions :=
    (h.instructions hx hm hm').imp_of_mem fun _ _ _ _ hij => hij.toSameCode
  refine hcode.find? ?_ fun i j hij => by rw [hij.resultId]
  rw [(finish_keepsCode _).resultId, Instruction.resultId, Opcode.resultIdIndex, hx]
  rfl

theorem agree_withPermissions (h : Joins σ x (place is) (place js))
    (hresult : x.opcode.hasResultId = false) (hmemory : x.opcode ≠ .memoryModel)
    (hm : build v a is = .ok m) (hm' : build v a js = .ok m') {config : Config}
    (hdecorates : config.beforeLegalization = true → x.opcode.decorates = false) :
    Agree config (m.withPermissions m') m' where
  definition? id := show SameFind (m.definition? id) _ from h.definition? hresult hm hm' id
  decorationsOf := by
    intro hc id
    obtain ⟨-, rfl⟩ := (build_eq_ok_iff v a is m).mp hm
    obtain ⟨-, rfl⟩ := (build_eq_ok_iff v a js m').mp hm'
    simp only [withPermissions, Module.decorationsOf, assemble,
      decorationTable_eq_of_filter (h.filter_eq Opcode.decorates (hdecorates hc))]
  hasCapability _ := rfl
  features := rfl
  addressing := by
    obtain ⟨-, rfl⟩ := (build_eq_ok_iff v a is m).mp hm
    obtain ⟨-, rfl⟩ := (build_eq_ok_iff v a js m').mp hm'
    exact foldl_nextAddressing_eq_of_filter
      (h.filter_eq (· == .memoryModel) (beq_eq_false_iff_ne.mpr hmemory)) a

theorem mirrors_withPermissions (h : Joins σ x (place is) (place js))
    (hresult : x.opcode.hasResultId = false) (hmemory : x.opcode ≠ .memoryModel)
    (hm : build v a is = .ok m) (hm' : build v a js = .ok m') {config : Config}
    (hdecorates : config.beforeLegalization = true → x.opcode.decorates = false)
    (hrefers : (∀ o ∈ x.idOperands, m.function? o.2 = none) ∨
      m'.mayUseFunction (finish (place js) x) = true) :
    Mirrors config σ (m.withPermissions m') m' where
  toAgree := h.agree_withPermissions hresult hmemory hm hm' hdecorates
  image i hi := by
    obtain ⟨j, hj, hij⟩ := (h.instructions hresult hm hm').exists_image hi
    refine ⟨j, ?_, hij⟩
    rw [← hij.position]
    exact (indexed_of_build hm').instruction?_position hj
  enclosing n := by
    have hdelimits := Opcode.delimitsParameters_of_not_hasResultId hresult
    obtain ⟨-, rfl⟩ := (build_eq_ok_iff v a is m).mp hm
    obtain ⟨-, rfl⟩ := (build_eq_ok_iff v a js m').mp hm'
    exact lookup_parameterTable_of_filter (h.filter_eq _ hdelimits) (pairwise_place is)
      (pairwise_place js) n
  forbiddenUser? i hi j hj hij hop := by
    have hagree := h.agree_withPermissions hresult hmemory hm hm' hdecorates
    have hindexed := (indexed_of_build hm).withPermissions m'
    obtain ⟨id, hres⟩ := hindexed.exists_resultId hi (by rw [hop]; rfl)
    rw [hindexed.forbiddenUser?_eq hi hres,
      (indexed_of_build hm').forbiddenUser?_eq hj (hij.resultId ▸ hres)]
    refine (h.instructions hresult hm hm').find? ?_ fun u w huw => ?_
    · rw [(finish_keepsCode _).idOperands]
      obtain hapart | hmay := hrefers
      · have hdef := (indexed_of_build hm).definition?_eq_some_iff.mpr ⟨hi, hres⟩
        have hfunction := (function?_eq_some_iff m id i).mpr ⟨hdef, hop⟩
        have hnone : x.idOperands.any (·.2 == id) = false := by
          refine List.any_eq_false.mpr fun o ho heq => ?_
          rw [← eq_of_beq heq, hapart o ho] at hfunction
          contradiction
        rw [hnone]
        rfl
      · rw [hmay]
        exact Bool.and_false _
    · rw [huw.idOperands, hagree.mayUseFunction huw.toSameCode]

/-- A passive instruction leaves the permissions as they are. -/
theorem withPermissions_eq (h : Joins σ x (place is) (place js)) (hx : x.opcode.isPassive = true)
    (hm : build v a is = .ok m) (hm' : build v a js = .ok m') : m.withPermissions m' = m := by
  obtain ⟨-, hcapability, hextension, -⟩ := Opcode.isPassive_iff.mp hx
  obtain ⟨-, rfl⟩ := (build_eq_ok_iff v a is m).mp hm
  obtain ⟨-, rfl⟩ := (build_eq_ok_iff v a js m').mp hm'
  have hcapabilities : (place is).filterMap declaredCapability? =
      (place js).filterMap declaredCapability? := by
    refine h.filterMap_eq ?_ fun _ => rfl
    rw [declaredCapability?, beq_eq_false_iff_ne.mpr hcapability]
    rfl
  have hextensions : (place is).filterMap declaredExtension? =
      (place js).filterMap declaredExtension? := by
    refine h.filterMap_eq ?_ fun _ => rfl
    rw [declaredExtension?, beq_eq_false_iff_ne.mpr hextension]
    rfl
  simp only [withPermissions, assemble, hcapabilities, hextensions]

theorem mirrors_of_refers (h : Joins σ x (place is) (place js)) (hx : x.opcode.isPassive = true)
    (hm : build v a is = .ok m) (hm' : build v a js = .ok m') {config : Config}
    (hdecorates : config.beforeLegalization = true → x.opcode.decorates = false)
    (hrefers : (∀ o ∈ x.idOperands, m.function? o.2 = none) ∨
      m'.mayUseFunction (finish (place js) x) = true) :
    Mirrors config σ m m' := by
  obtain ⟨hresult, -, -, hmemory⟩ := Opcode.isPassive_iff.mp hx
  have hmirrors := h.mirrors_withPermissions hresult hmemory hm hm' hdecorates hrefers
  rwa [h.withPermissions_eq hx hm hm'] at hmirrors

theorem mirrors (h : Joins σ x (place is) (place js)) (hx : x.opcode.isPassive = true)
    (hm : build v a is = .ok m) (hm' : build v a js = .ok m') {config : Config}
    (hdecorates : config.beforeLegalization = true → x.opcode.decorates = false)
    (hrefers : x.idOperands = [] ∨ m'.mayUseFunction (finish (place js) x) = true) :
    Mirrors config σ m m' := by
  refine h.mirrors_of_refers hx hm hm' hdecorates (hrefers.imp_left fun hnone => ?_)
  rw [hnone]
  exact List.forall_mem_nil _

end Joins
end Module
end Spirv
