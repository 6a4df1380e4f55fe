import Mathlib.Data.List.Basic
import Mathlib.Tactic.SplitIfs
import Spirv.Text.Utf8

set_option autoImplicit false

/-!
# Well-formed UTF-8

The bytes of a character are read back as that character, whatever follows them. A zero byte stands
for the null character and for nothing else, in both directions.
-/
namespace Spirv.Utf8

theorem isWithin_iff {low high : Nat} {b : UInt8} :
    isWithin low high b = true ↔ low ≤ b.toNat ∧ b.toNat ≤ high := by
  rw [isWithin, Bool.and_eq_true, decide_eq_true_eq, decide_eq_true_eq]

theorem isTail_iff {b : UInt8} : isTail b = true ↔ 0x80 ≤ b.toNat ∧ b.toNat ≤ 0xBF :=
  isWithin_iff

theorem isSecond_iff {lead b : UInt8} : isSecond lead b = true ↔
    0x80 ≤ b.toNat ∧ b.toNat ≤ 0xBF ∧ (lead.toNat = 0xE0 → 0xA0 ≤ b.toNat) ∧
      (lead.toNat = 0xED → b.toNat ≤ 0x9F) ∧ (lead.toNat = 0xF0 → 0x90 ≤ b.toNat) ∧
      (lead.toNat = 0xF4 → b.toNat ≤ 0x8F) := by
  unfold isSecond
  split_ifs <;> simp only [isWithin_iff, isTail_iff] <;> omega

theorem tailLength_eq_some_iff {lead : UInt8} {n : Nat} : tailLength lead = some n ↔
    (lead.toNat ≤ 0x7F ∧ n = 0) ∨ (0xC2 ≤ lead.toNat ∧ lead.toNat ≤ 0xDF ∧ n = 1) ∨
      (0xE0 ≤ lead.toNat ∧ lead.toNat ≤ 0xEF ∧ n = 2) ∨
      (0xF0 ≤ lead.toNat ∧ lead.toNat ≤ 0xF4 ∧ n = 3) := by
  simp only [tailLength, isWithin_iff]
  split_ifs <;> simp <;> omega

/-! ### Sequences -/

structure IsSequence (lead : UInt8) (tail : List UInt8) : Prop where
  length : tailLength lead = some tail.length
  second : ∀ b ∈ tail.head?, isSecond lead b = true
  others : ∀ b ∈ tail.tail, isTail b = true

def value (lead : UInt8) (tail : List UInt8) : Nat :=
  codePoint (leadBits lead tail.length) tail

theorem value_one (lead : UInt8) : value lead [] = lead.toNat := rfl

theorem value_two (lead b : UInt8) : value lead [b] = lead.toNat % 32 * 64 + b.toNat % 64 := rfl

theorem value_three (lead b c : UInt8) :
    value lead [b, c] = (lead.toNat % 16 * 64 + b.toNat % 64) * 64 + c.toNat % 64 := rfl

theorem value_four (lead b c d : UInt8) : value lead [b, c, d] =
    ((lead.toNat % 8 * 64 + b.toNat % 64) * 64 + c.toNat % 64) * 64 + d.toNat % 64 := rfl

theorem tailCount_append {tail : List UInt8} (h : ∀ b ∈ tail, isTail b = true)
    (rest : List UInt8) : tailCount tail.length (tail ++ rest) = tail.length := by
  induction tail with
  | nil => rfl
  | cons b tail ih =>
    rw [List.cons_append, List.length_cons, tailCount, if_pos (h b List.mem_cons_self),
      ih fun c hc => h c (List.mem_cons_of_mem _ hc)]

theorem isTail_of_tailCount_eq {n : Nat} {bytes : List UInt8} (h : tailCount n bytes = n) :
    (bytes.take n).length = n ∧ ∀ b ∈ bytes.take n, isTail b = true := by
  induction n generalizing bytes with
  | zero => exact ⟨rfl, fun b hb => absurd hb List.not_mem_nil⟩
  | succ n ih =>
    cases bytes with
    | nil => contradiction
    | cons b rest =>
      rw [tailCount] at h
      split at h
      case isFalse => contradiction
      case isTrue hb =>
        obtain ⟨hlength, htail⟩ := ih (Nat.succ.inj h)
        rw [List.take_succ_cons, List.length_cons, hlength]
        exact ⟨rfl, List.forall_mem_cons.mpr ⟨hb, htail⟩⟩

theorem isSequence_of_accepted {lead : UInt8} {n : Nat} {rest : List UInt8}
    (hlead : tailLength lead = some n) (h : accepted lead n rest = n) :
    (rest.take n).length = n ∧ IsSequence lead (rest.take n) := by
  cases n with
  | zero => exact ⟨rfl, hlead, by simp, by simp⟩
  | succ n =>
    cases rest with
    | nil => contradiction
    | cons b rest =>
      rw [accepted] at h
      split at h
      case isFalse => contradiction
      case isTrue hb =>
        obtain ⟨hlength, htail⟩ := isTail_of_tailCount_eq (Nat.succ.inj h)
        have hall : ((b :: rest).take (n + 1)).length = n + 1 := by
          rw [List.take_succ_cons, List.length_cons, hlength]
        refine ⟨hall, by rw [hall, hlead], ?_, htail⟩
        rintro c hc
        obtain rfl := Option.some.inj hc
        exact hb

namespace IsSequence

variable {lead : UInt8} {tail : List UInt8}

theorem first_append (h : IsSequence lead tail) (rest : List UInt8) :
    first lead (tail ++ rest) = (Char.ofNat (value lead tail), tail.length) := by
  have haccepted : accepted lead tail.length (tail ++ rest) = tail.length := by
    cases tail with
    | nil => rfl
    | cons b tail =>
      have hothers : ∀ c ∈ tail, isTail c = true := h.others
      rw [List.cons_append, List.length_cons, accepted, if_pos (h.second b rfl),
        tailCount_append hothers]
  simp only [first, h.length, haccepted, if_pos, List.take_left, value]

theorem le_of_mem_tail {b : UInt8} (h : IsSequence lead tail) (hb : b ∈ tail) :
    0x80 ≤ b.toNat := by
  cases tail with
  | nil => contradiction
  | cons c tail =>
    obtain rfl | hb := List.mem_cons.mp hb
    · exact (isSecond_iff.mp (h.second b rfl)).1
    · exact (isTail_iff.mp (h.others b hb)).1

/-- A sequence stands for a character, and for the null character only if it is a zero byte. -/
theorem isValidChar (h : IsSequence lead tail) :
    (value lead tail).isValidChar ∧ (value lead tail = 0 ↔ lead = 0) := by
  have hzero : lead = 0 ↔ lead.toNat = 0 := UInt8.toNat_inj.symm
  rw [hzero, Nat.isValidChar]
  -- the narrow ranges of the second byte keep the code point out of the gap and below the end
  rcases tailLength_eq_some_iff.mp h.length with
    ⟨hle, hlen⟩ | ⟨hge, hle, hlen⟩ | ⟨hge, hle, hlen⟩ | ⟨hge, hle, hlen⟩
  · obtain rfl := List.length_eq_zero_iff.mp hlen
    rw [value_one]
    omega
  · obtain ⟨b, rfl⟩ := List.length_eq_one_iff.mp hlen
    have hb := isSecond_iff.mp (h.second b rfl)
    rw [value_two]
    omega
  · obtain ⟨b, c, rfl⟩ := List.length_eq_two.mp hlen
    have hb := isSecond_iff.mp (h.second b rfl)
    rw [value_three]
    omega
  · obtain ⟨b, c, d, rfl⟩ := List.length_eq_three.mp hlen
    have hb := isSecond_iff.mp (h.second b rfl)
    rw [value_four]
    omega

end IsSequence

/-! ### The sequence of a character -/

def tailByte (n : Nat) : UInt8 := .ofNat (n % 64 + 128)

theorem toNat_tailByte (n : Nat) : (tailByte n).toNat = n % 64 + 128 := by
  rw [tailByte, UInt8.toNat_ofNat']
  omega

theorem isTail_tailByte (n : Nat) : isTail (tailByte n) = true := by
  rw [isTail_iff, toNat_tailByte]
  omega

theorem codePoint_tailByte (n : Nat) (tail : List UInt8) :
    codePoint (n / 64) (tailByte n :: tail) = codePoint n tail := by
  have hbits : n / 64 * 64 + (n % 64 + 128) % 64 = n := by omega
  rw [codePoint, List.foldl_cons, toNat_tailByte, hbits, codePoint]

theorem isSequence_one {n : Nat} (h : n ≤ 0x7F) :
    IsSequence (.ofNat n) [] ∧ value (.ofNat n) [] = n := by
  have hlead : (UInt8.ofNat n).toNat = n := by
    rw [UInt8.toNat_ofNat']
    omega
  refine ⟨⟨?_, by simp, by simp⟩, hlead⟩
  rw [tailLength_eq_some_iff, hlead]
  exact Or.inl ⟨h, rfl⟩

theorem isSequence_two {n : Nat} (hlow : 0x7F < n) (hhigh : n ≤ 0x7FF) :
    IsSequence (.ofNat (n / 64 % 32 + 192)) [tailByte n] ∧
      value (.ofNat (n / 64 % 32 + 192)) [tailByte n] = n := by
  have hlead : (UInt8.ofNat (n / 64 % 32 + 192)).toNat = n / 64 + 192 := by
    rw [UInt8.toNat_ofNat']
    omega
  have hbits : leadBits (.ofNat (n / 64 % 32 + 192)) 1 = n / 64 := by
    rw [leadBits, hlead]
    omega
  refine ⟨⟨?_, ?_, by simp⟩, ?_⟩
  · rw [tailLength_eq_some_iff, hlead]
    exact Or.inr (Or.inl ⟨by omega, by omega, rfl⟩)
  · rintro b hb
    obtain rfl := Option.some.inj hb
    rw [isSecond_iff, hlead, toNat_tailByte]
    omega
  · change codePoint (leadBits _ 1) _ = n
    rw [hbits, codePoint_tailByte]
    rfl

theorem isSequence_three {n : Nat} (hlow : 0x7FF < n) (hhigh : n ≤ 0xFFFF)
    (hgap : n < 0xD800 ∨ 0xDFFF < n) :
    IsSequence (.ofNat (n / 4096 % 16 + 224)) [tailByte (n / 64), tailByte n] ∧
      value (.ofNat (n / 4096 % 16 + 224)) [tailByte (n / 64), tailByte n] = n := by
  have hlead : (UInt8.ofNat (n / 4096 % 16 + 224)).toNat = n / 4096 + 224 := by
    rw [UInt8.toNat_ofNat']
    omega
  have hbits : leadBits (.ofNat (n / 4096 % 16 + 224)) 2 = n / 64 / 64 := by
    rw [leadBits, hlead]
    omega
  refine ⟨⟨?_, ?_, List.forall_mem_singleton.mpr (isTail_tailByte n)⟩, ?_⟩
  · rw [tailLength_eq_some_iff, hlead]
    exact Or.inr (Or.inr (Or.inl ⟨by omega, by omega, rfl⟩))
  · rintro b hb
    obtain rfl := Option.some.inj hb
    rw [isSecond_iff, hlead, toNat_tailByte]
    omega
  · change codePoint (leadBits _ 2) _ = n
    rw [hbits, codePoint_tailByte, codePoint_tailByte]
    rfl

theorem isSequence_four {n : Nat} (hlow : 0xFFFF < n) (hhigh : n < 0x110000) :
    IsSequence (.ofNat (n / 262144 % 8 + 240))
        [tailByte (n / 4096), tailByte (n / 64), tailByte n] ∧
      value (.ofNat (n / 262144 % 8 + 240))
        [tailByte (n / 4096), tailByte (n / 64), tailByte n] = n := by
  have hlead : (UInt8.ofNat (n / 262144 % 8 + 240)).toNat = n / 262144 + 240 := by
    rw [UInt8.toNat_ofNat']
    omega
  have hbits : leadBits (.ofNat (n / 262144 % 8 + 240)) 3 = n / 4096 / 64 := by
    rw [leadBits, hlead]
    · omega
    all_goals decide
  have hnext : n / 4096 = n / 64 / 64 := by omega
  have hothers : ∀ b ∈ [tailByte (n / 64), tailByte n], isTail b = true :=
    List.forall_mem_cons.mpr ⟨isTail_tailByte _, List.forall_mem_singleton.mpr (isTail_tailByte n)⟩
  refine ⟨⟨?_, ?_, hothers⟩, ?_⟩
  · rw [tailLength_eq_some_iff, hlead]
    exact Or.inr (Or.inr (Or.inr ⟨by omega, by omega, rfl⟩))
  · rintro b hb
    obtain rfl := Option.some.inj hb
    rw [isSecond_iff, hlead, toNat_tailByte]
    omega
  · change codePoint (leadBits _ 3) _ = n
    rw [hbits, codePoint_tailByte, hnext, codePoint_tailByte, codePoint_tailByte]
    rfl

/-- The bytes of a character are a sequence that stands for it. -/
theorem exists_isSequence (c : Char) : ∃ lead tail, String.utf8EncodeChar c = lead :: tail ∧
    IsSequence lead tail ∧ value lead tail = c.toNat := by
  have hvalid : c.toNat < 0xD800 ∨ 0xDFFF < c.toNat ∧ c.toNat < 0x110000 := c.valid
  have hhigh : c.toNat < 0x110000 := by omega
  unfold String.utf8EncodeChar
  change ∃ lead tail, (if c.toNat ≤ _ then _ else _) = _ ∧ _
  split_ifs with hone htwo hthree
  · exact ⟨_, _, rfl, isSequence_one hone⟩
  · exact ⟨_, _, rfl, isSequence_two (Nat.lt_of_not_le hone) htwo⟩
  · have hscalar : c.toNat < 0xD800 ∨ 0xDFFF < c.toNat := hvalid.imp_right And.left
    exact ⟨_, _, rfl, isSequence_three (Nat.lt_of_not_le htwo) hthree hscalar⟩
  · exact ⟨_, _, rfl, isSequence_four (Nat.lt_of_not_le hthree) hhigh⟩

theorem decodeFrom_length_append (tail rest : List UInt8) :
    decodeFrom tail.length (tail ++ rest) = decodeFrom 0 rest := by
  induction tail with
  | nil => rfl
  | cons b tail ih => rw [List.cons_append, List.length_cons, decodeFrom, ih]

theorem decode_encode (chars : List Char) : decode (encode chars) = chars := by
  induction chars with
  | nil => rfl
  | cons c chars ih =>
    obtain ⟨lead, tail, hbytes, hsequence, hvalue⟩ := exists_isSequence c
    have hencode : encode (c :: chars) = lead :: (tail ++ encode chars) := by
      rw [encode, List.flatMap_cons, hbytes]
      rfl
    rw [hencode, decode, decodeFrom, hsequence.first_append, hvalue, Char.ofNat_toNat,
      decodeFrom_length_append]
    exact congrArg (c :: ·) ih

/-! ### Zero bytes -/

theorem zero_mem_encodeChar_iff {c : Char} : 0 ∈ String.utf8EncodeChar c ↔ c = '\x00' := by
  obtain ⟨lead, tail, hbytes, hsequence, hvalue⟩ := exists_isSequence c
  have htail : (0 : UInt8) ∉ tail := fun hmem => absurd (hsequence.le_of_mem_tail hmem) (by decide)
  have hnull : c = '\x00' ↔ value lead tail = 0 := by
    rw [hvalue]
    exact Char.toNat_inj.symm
  rw [hbytes, List.mem_cons, hnull, hsequence.isValidChar.2, eq_comm]
  exact or_iff_left htail

theorem zero_mem_encode_iff {chars : List Char} : 0 ∈ encode chars ↔ '\x00' ∈ chars := by
  simp [encode, zero_mem_encodeChar_iff]

theorem first_ne_null {lead : UInt8} (hlead : lead ≠ 0) (rest : List UInt8) :
    (first lead rest).1 ≠ '\x00' := by
  rw [first]
  split
  case h_1 => decide
  case h_2 n hn =>
    dsimp only
    split
    case isFalse => exact (by decide : replacement ≠ '\x00')
    case isTrue haccepted =>
      obtain ⟨hlength, hsequence⟩ := isSequence_of_accepted hn haccepted
      obtain ⟨hvalid, hzero⟩ := hsequence.isValidChar
      have hvalue : codePoint (leadBits lead n) (rest.take n) = value lead (rest.take n) := by
        rw [value, hlength]
      intro hnull
      rw [hvalue, Char.ofNat, dif_pos hvalid] at hnull
      exact hlead (hzero.mp (congrArg Char.toNat hnull))

theorem null_not_mem_decodeFrom {bytes : List UInt8} (h : 0 ∉ bytes) (skip : Nat) :
    '\x00' ∉ decodeFrom skip bytes := by
  induction bytes generalizing skip with
  | nil => exact List.not_mem_nil
  | cons b rest ih =>
    obtain ⟨hb, hrest⟩ := not_or.mp fun hor => h (List.mem_cons.mpr hor)
    cases skip with
    | succ skip => exact ih hrest skip
    | zero =>
      rw [decodeFrom, List.mem_cons, not_or]
      exact ⟨(first_ne_null (Ne.symm hb) rest).symm, ih hrest _⟩

end Spirv.Utf8
