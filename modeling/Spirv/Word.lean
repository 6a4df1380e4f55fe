set_option autoImplicit false

/-!
# Words

An instruction is a sequence of 32-bit words, and an id is a word that names a definition. A word
holds four bytes, the least significant one first.
-/
namespace Spirv

abbrev Word := UInt32

abbrev Id := Word

namespace Word

def bytes (w : Word) : List UInt8 :=
  [w.toUInt8, (w >>> 8).toUInt8, (w >>> 16).toUInt8, (w >>> 24).toUInt8]

def ofBytes (a b c d : UInt8) : Word :=
  a.toUInt32 ||| b.toUInt32 <<< 8 ||| c.toUInt32 <<< 16 ||| d.toUInt32 <<< 24

end Word
end Spirv
