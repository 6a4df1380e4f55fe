import Spirv.Module.Build
import Spirv.Rule.Constant
import Spirv.Rule.PerElement

set_option autoImplicit false

/-!
# Validation

`Module.check` applies the rule for one instruction, and an `Engine` reports what breaks a rule:
`Engine.validate` stops at the first instruction that fails, and `Engine.collect` goes on after it
when the configuration says so.
-/
namespace Spirv

namespace Module

def checkConstantPass (m : Module) (config : Config) (i : Instruction) : Except Violation Unit :=
  (m.checkConstant config i).mapError fun fault => ⟨i, .constant fault⟩

def checkFunctionPass (m : Module) (config : Config) (i : Instruction) : Except Violation Unit :=
  let own := fun (result : Except FunctionFault Unit) =>
    result.mapError fun fault => (⟨i, .function fault⟩ : Violation)
  match i.opcode with
  | .function => m.checkFunction i
  | .functionParameter => own (m.checkParameter i)
  | .functionCall => own (m.checkCall config i)
  | .cooperativeMatrixPerElementOpNV => own (m.checkPerElement i)
  | _ => .ok ()

def check (m : Module) (config : Config) (i : Instruction) : Except Violation Unit :=
  match i.opcode.family with
  | .constant => if config.checkConstants then m.checkConstantPass config i else .ok ()
  | .function => if config.checkFunctions then m.checkFunctionPass config i else .ok ()
  | .other => .ok ()

def validate (m : Module) (config : Config) : Except Violation Unit :=
  requireEach (m.check config) m.instructions

def validateEach (config : Config) (ms : List Module) : List (Except Violation Unit) :=
  ms.map fun m => m.validate config

end Module

/-- Every way to fail: a sequence is no module, or an instruction breaks a rule. -/
inductive Error where
  | build (fault : BuildError)
  | validation (diagnostic : Diagnostic)
  deriving DecidableEq, Repr

def Error.diagnostic? : Error → Option Diagnostic
  | .build _ => none
  | .validation diagnostic => some diagnostic

structure Engine where
  module : Module
  config : Config
  names : NameResolver

namespace Engine

def report (e : Engine) (v : Violation) : Error := .validation (v.diagnostic (e.names e.module))

def validateInstruction (e : Engine) (i : Instruction) : Except Error Unit :=
  (e.module.check e.config i).mapError e.report

def validate (e : Engine) : Except Error Unit :=
  requireEach e.validateInstruction e.module.instructions

/-- The diagnostics of the instructions that fail, up to the first failure unless `keepGoing`. A
failure without a diagnostic adds none. -/
def collectFrom (validate : Instruction → Except Error Unit) (keepGoing : Bool) :
    List Instruction → List Diagnostic
  | [] => []
  | i :: rest =>
    match validate i with
    | .ok () => collectFrom validate keepGoing rest
    | .error failure =>
      failure.diagnostic?.toList ++ if keepGoing then collectFrom validate keepGoing rest else []

def collect (e : Engine) : List Diagnostic :=
  collectFrom e.validateInstruction e.config.continueAfterError e.module.instructions

end Engine

def Module.diagnostics (m : Module) (config : Config) (names : NameResolver) : List Diagnostic :=
  Engine.collect ⟨m, config, names⟩

end Spirv
