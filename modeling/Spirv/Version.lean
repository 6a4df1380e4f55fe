import Spirv.Word

set_option autoImplicit false

/-!
# Module versions

The version that a module's header declares, as the word `0x00MMmm00`.
-/
namespace Spirv

/-- Versions are ordered by the major number, then by the minor one. -/
structure Version where
  major : UInt8
  minor : UInt8
  deriving DecidableEq, Repr, Ord

namespace Version

def v1_4 : Version := ⟨1, 4⟩

def v1_6 : Version := ⟨1, 6⟩

def ofWord (w : Word) : Version := ⟨(w >>> 16).toUInt8, (w >>> 8).toUInt8⟩

def toWord (v : Version) : Word := Word.ofBytes 0 v.minor v.major 0

def text (v : Version) : String := toString v.major.toNat ++ "." ++ toString v.minor.toNat

def atLeast (v w : Version) : Bool := (compare v w).isGE

end Version
end Spirv
