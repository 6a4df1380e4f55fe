import Spirv.Word
import Spirv.Text.Utf8

set_option autoImplicit false

/-!
# Literal strings

A literal string is packed into words as UTF-8 and ends at a zero byte, which `encode` follows
with zero bytes up to the end of the word.
-/
namespace Spirv.Literal

/-- The number of words of the string at the start of `words`. A string without an end takes all
of them. -/
def wordCount : List Word → Nat
  | [] => 0
  | w :: rest => if w.bytes.contains 0 then 1 else wordCount rest + 1

def decode (words : List Word) : String :=
  String.ofList (Utf8.decode ((words.flatMap Word.bytes).takeWhile (· != 0)))

/-- Packs bytes into words, with zero bytes after the last one. -/
def pack : List UInt8 → List Word
  | [] => []
  | [a] => [Word.ofBytes a 0 0 0]
  | [a, b] => [Word.ofBytes a b 0 0]
  | [a, b, c] => [Word.ofBytes a b c 0]
  | a :: b :: c :: d :: rest => Word.ofBytes a b c d :: pack rest

def encode (text : String) : List Word := pack (Utf8.encode text.toList ++ [0])

end Spirv.Literal
