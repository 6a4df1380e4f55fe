import Spirv.Rule.Basic
import Spirv.Validate

set_option autoImplicit false

/-!
# Accepted modules

In an accepted module each instruction passes the rule for its opcode, unless the configuration
switches the rules of its family off.
-/
namespace Spirv.Module

theorem validate_eq_ok_iff (m : Module) (config : Config) :
    m.validate config = .ok () ↔ ∀ i ∈ m.instructions, m.check config i = .ok () :=
  requireEach_eq_ok_iff

theorem checkConstant_of_validate {m : Module} {config : Config} (hc : config.checkConstants = true)
    (h : m.validate config = .ok ()) {i : Instruction} (hi : i ∈ m.instructions)
    (hop : i.opcode.family = .constant) : m.checkConstant config i = .ok () := by
  have hcheck := (validate_eq_ok_iff m config).mp h i hi
  rw [check, hop] at hcheck
  simp only [hc, ↓reduceIte] at hcheck
  exact mapError_eq_ok_iff.mp hcheck

theorem checkConstantKind_of_validate {m : Module} {config : Config}
    (hc : config.checkConstants = true) (h : m.validate config = .ok ()) {i : Instruction}
    (hi : i ∈ m.instructions) (hop : i.opcode.family = .constant) :
    m.checkConstantKind config i = .ok () := by
  have hpass := checkConstant_of_validate hc h hi hop
  rw [checkConstant] at hpass
  exact (then_eq_ok_iff.mp hpass).1

theorem checkComposite_of_validate {m : Module} {config : Config}
    (hc : config.checkConstants = true) (h : m.validate config = .ok ()) {i : Instruction}
    (hi : i ∈ m.instructions)
    (hop : i.opcode = .constantComposite ∨ i.opcode = .specConstantComposite) :
    m.checkComposite i = .ok () := by
  have hfamily : i.opcode.family = .constant := by rcases hop with hop | hop <;> rw [hop] <;> rfl
  have hkind : m.checkConstantKind config i = m.checkComposite i := by
    rcases hop with hop | hop <;> rw [checkConstantKind, hop]
  rw [← hkind]
  exact checkConstantKind_of_validate hc h hi hfamily

theorem check_eq_checkFunctionPass {m : Module} {config : Config}
    (hc : config.checkFunctions = true) {i : Instruction} (hop : i.opcode.family = .function) :
    m.check config i = m.checkFunctionPass config i := by
  rw [check, hop]
  simp only [hc, ↓reduceIte]

theorem checkFunctionPass_of_validate {m : Module} {config : Config}
    (hc : config.checkFunctions = true) (h : m.validate config = .ok ()) {i : Instruction}
    (hi : i ∈ m.instructions) (hop : i.opcode.family = .function) :
    m.checkFunctionPass config i = .ok () := by
  rw [← check_eq_checkFunctionPass hc hop]
  exact (validate_eq_ok_iff m config).mp h i hi

theorem checkFunction_of_validate {m : Module} {config : Config}
    (hc : config.checkFunctions = true) (h : m.validate config = .ok ()) {i : Instruction}
    (hi : i ∈ m.instructions) (hop : i.opcode = .function) : m.checkFunction i = .ok () := by
  have hpass := checkFunctionPass_of_validate hc h hi (by rw [hop]; rfl)
  rwa [checkFunctionPass, hop] at hpass

theorem checkParameter_of_validate {m : Module} {config : Config}
    (hc : config.checkFunctions = true) (h : m.validate config = .ok ()) {i : Instruction}
    (hi : i ∈ m.instructions) (hop : i.opcode = .functionParameter) :
    m.checkParameter i = .ok () := by
  have hpass := checkFunctionPass_of_validate hc h hi (by rw [hop]; rfl)
  rw [checkFunctionPass, hop] at hpass
  exact mapError_eq_ok_iff.mp hpass

theorem checkCall_of_validate {m : Module} {config : Config}
    (hc : config.checkFunctions = true) (h : m.validate config = .ok ()) {i : Instruction}
    (hi : i ∈ m.instructions) (hop : i.opcode = .functionCall) :
    m.checkCall config i = .ok () := by
  have hpass := checkFunctionPass_of_validate hc h hi (by rw [hop]; rfl)
  rw [checkFunctionPass, hop] at hpass
  exact mapError_eq_ok_iff.mp hpass

theorem checkPerElement_of_validate {m : Module} {config : Config}
    (hc : config.checkFunctions = true) (h : m.validate config = .ok ()) {i : Instruction}
    (hi : i ∈ m.instructions) (hop : i.opcode = .cooperativeMatrixPerElementOpNV) :
    m.checkPerElement i = .ok () := by
  have hpass := checkFunctionPass_of_validate hc h hi (by rw [hop]; rfl)
  rw [checkFunctionPass, hop] at hpass
  exact mapError_eq_ok_iff.mp hpass

end Spirv.Module
