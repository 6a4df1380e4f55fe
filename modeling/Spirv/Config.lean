set_option autoImplicit false

/-!
# Configuration

How strictly a module is judged, which families of rules are applied, and whether checking goes on
after the first fault.
-/
namespace Spirv

structure Config where
  /-- Skips the rules for pointer arguments under logical addressing. -/
  relaxLogicalPointer : Bool := false
  /-- Judges calls as before legalization: the pointees of argument and parameter need only match
  in structure, and pointer arguments need not be declarations. -/
  beforeLegalization : Bool := false
  checkConstants : Bool := true
  checkFunctions : Bool := true
  continueAfterError : Bool := false
  /-- The number of nested types that a walk over a type passes through. -/
  maxTypeDepth : Nat := 64
  deriving DecidableEq, Repr

namespace Config

def standard : Config := {}

def disabled : Config := { checkConstants := false, checkFunctions := false, maxTypeDepth := 0 }

def legalizing : Config := { beforeLegalization := true }

def relaxed : Config := { relaxLogicalPointer := true }

def exhaustive : Config := { continueAfterError := true }

end Config
end Spirv
