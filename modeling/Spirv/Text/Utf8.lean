set_option autoImplicit false

/-!
# Lenient UTF-8

`decode` reads bytes as UTF-8. A longest run of bytes that begins a well-formed sequence but does
not complete it becomes one replacement character, and so does each byte that begins none.
-/
namespace Spirv.Utf8

def replacement : Char := '\uFFFD'

def isWithin (low high : Nat) (b : UInt8) : Bool := low ≤ b.toNat && b.toNat ≤ high

def isTail (b : UInt8) : Bool := isWithin 0x80 0xBF b

def tailLength (lead : UInt8) : Option Nat :=
  if lead.toNat ≤ 0x7F then some 0
  else if isWithin 0xC2 0xDF lead then some 1
  else if isWithin 0xE0 0xEF lead then some 2
  else if isWithin 0xF0 0xF4 lead then some 3
  else none

/-- The bytes that may follow a lead byte. The narrow ranges leave out overlong forms, surrogates
and numbers past the last code point. -/
def isSecond (lead b : UInt8) : Bool :=
  if lead.toNat = 0xE0 then isWithin 0xA0 0xBF b
  else if lead.toNat = 0xED then isWithin 0x80 0x9F b
  else if lead.toNat = 0xF0 then isWithin 0x90 0xBF b
  else if lead.toNat = 0xF4 then isWithin 0x80 0x8F b
  else isTail b

def tailCount : Nat → List UInt8 → Nat
  | n + 1, b :: rest => if isTail b then tailCount n rest + 1 else 0
  | _, _ => 0

/-- The number of bytes behind the lead byte, at most `n`, that belong to its sequence. -/
def accepted (lead : UInt8) : Nat → List UInt8 → Nat
  | n + 1, b :: rest => if isSecond lead b then tailCount n rest + 1 else 0
  | _, _ => 0

def leadBits (lead : UInt8) : Nat → Nat
  | 0 => lead.toNat
  | 1 => lead.toNat % 32
  | 2 => lead.toNat % 16
  | _ => lead.toNat % 8

def codePoint (start : Nat) (tail : List UInt8) : Nat :=
  tail.foldl (fun c b => c * 64 + b.toNat % 64) start

/-- The character at a lead byte, and how many of the bytes behind it belong to it. -/
def first (lead : UInt8) (rest : List UInt8) : Char × Nat :=
  match tailLength lead with
  | none => (replacement, 0)
  | some n =>
    let k := accepted lead n rest
    if k = n then (Char.ofNat (codePoint (leadBits lead n) (rest.take n)), n)
    else (replacement, k)

def decodeFrom : Nat → List UInt8 → List Char
  | _, [] => []
  | skip + 1, _ :: rest => decodeFrom skip rest
  | 0, b :: rest => (first b rest).1 :: decodeFrom (first b rest).2 rest

def decode (bytes : List UInt8) : List Char := decodeFrom 0 bytes

def encode (chars : List Char) : List UInt8 := chars.flatMap String.utf8EncodeChar

end Spirv.Utf8
