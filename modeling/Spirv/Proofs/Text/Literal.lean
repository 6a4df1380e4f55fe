import Mathlib.Data.List.TakeWhile
import Spirv.Proofs.Text.Utf8
import Spirv.Text.Literal

set_option autoImplicit false

/-!
# Texts in words

The encoder writes the bytes of a text, a zero byte and the zero bytes up to the end of the word. The
decoder and the count of words both go by the first zero byte, so they agree on where a text ends,
and reading and writing are inverse to each other on the words that are written in this way.
-/
namespace Spirv

namespace Word

theorem toNat_shiftLeft (b : UInt8) (k : Word) (hk : k.toNat ≤ 24) :
    (b.toUInt32 <<< k).toNat = b.toNat <<< k.toNat := by
  have hmod : k.toNat % 32 = k.toNat := Nat.mod_eq_of_lt (by omega)
  have hpow := Nat.pow_le_pow_right Nat.zero_lt_two hk
  have hlt := Nat.mul_lt_mul_of_lt_of_le b.toNat_lt hpow (by decide)
  rw [UInt32.toNat_shiftLeft, UInt8.toNat_toUInt32, hmod, Nat.shiftLeft_eq]
  exact Nat.mod_eq_of_lt hlt

theorem toNat_ofBytes (a b c d : UInt8) : (ofBytes a b c d).toNat =
    a.toNat + 256 * b.toNat + 65536 * c.toNat + 16777216 * d.toNat := by
  have ha := a.toNat_lt
  have hb := b.toNat_lt
  have hc := c.toNat_lt
  have hd := d.toNat_lt
  have hbshift : (b.toUInt32 <<< 8).toNat = b.toNat <<< 8 :=
    toNat_shiftLeft b 8 (by decide)
  have hcshift : (c.toUInt32 <<< 16).toNat = c.toNat <<< 16 :=
    toNat_shiftLeft c 16 (by decide)
  have hdshift : (d.toUInt32 <<< 24).toNat = d.toNat <<< 24 :=
    toNat_shiftLeft d 24 (by decide)
  -- each byte stands above all bits of the bytes in front of it
  have hab : a.toNat ||| b.toNat <<< 8 = a.toNat + 256 * b.toNat := by
    rw [Nat.or_comm, ← Nat.shiftLeft_add_eq_or_of_lt ha, Nat.shiftLeft_eq]
    omega
  have habc : (a.toNat + 256 * b.toNat) ||| c.toNat <<< 16 =
      a.toNat + 256 * b.toNat + 65536 * c.toNat := by
    rw [Nat.or_comm, ← Nat.shiftLeft_add_eq_or_of_lt (by omega), Nat.shiftLeft_eq]
    omega
  have habcd : (a.toNat + 256 * b.toNat + 65536 * c.toNat) ||| d.toNat <<< 24 =
      a.toNat + 256 * b.toNat + 65536 * c.toNat + 16777216 * d.toNat := by
    rw [Nat.or_comm, ← Nat.shiftLeft_add_eq_or_of_lt (by omega), Nat.shiftLeft_eq]
    omega
  rw [ofBytes, UInt32.toNat_or, UInt32.toNat_or, UInt32.toNat_or, UInt8.toNat_toUInt32, hbshift,
    hcshift, hdshift, hab, habc, habcd]

theorem bytes_ofBytes (a b c d : UInt8) : (ofBytes a b c d).bytes = [a, b, c, d] := by
  have ha := a.toNat_lt
  have hb := b.toNat_lt
  have hc := c.toNat_lt
  have hd := d.toNat_lt
  simp only [bytes, ← UInt8.toNat_inj, List.cons.injEq, UInt32.toNat_toUInt8,
    UInt32.toNat_shiftRight, toNat_ofBytes, Nat.shiftRight_eq_div_pow, UInt32.reduceToNat,
    Nat.reduceMod, Nat.reducePow]
  refine ⟨?_, ?_, ?_, ?_, trivial⟩
  · omega
  · omega
  · omega
  · omega

theorem ofBytes_bytes (w : Word) :
    ofBytes w.toUInt8 (w >>> 8).toUInt8 (w >>> 16).toUInt8 (w >>> 24).toUInt8 = w := by
  have hw := w.toNat_lt
  simp only [← UInt32.toNat_inj, toNat_ofBytes, UInt32.toNat_toUInt8, UInt32.toNat_shiftRight,
    Nat.shiftRight_eq_div_pow, UInt32.reduceToNat,
    Nat.reduceMod, Nat.reducePow]
  omega

end Word

namespace Literal

variable {ws : List Word}

theorem length_flatMap_bytes (ws : List Word) : (ws.flatMap Word.bytes).length = 4 * ws.length := by
  induction ws with
  | nil => rfl
  | cons w ws ih =>
    have hw : w.bytes.length = 4 := rfl
    rw [List.flatMap_cons, List.length_append, List.length_cons, ih, hw]
    omega

theorem flatMap_bytes_take (n : Nat) (ws : List Word) :
    (ws.take n).flatMap Word.bytes = (ws.flatMap Word.bytes).take (4 * n) := by
  induction ws generalizing n with
  | nil => simp
  | cons w ws ih =>
    cases n with
    | zero => rfl
    | succ n =>
      have hw : w.bytes.length = 4 := rfl
      have hindex : 4 * (n + 1) = w.bytes.length + 4 * n := by omega
      rw [List.take_succ_cons, List.flatMap_cons, List.flatMap_cons, ih, hindex,
        List.take_length_add_append]

/-! ### Packing -/

theorem pack_bytes_append (w : Word) (bs : List UInt8) : pack (w.bytes ++ bs) = w :: pack bs := by
  change Word.ofBytes w.toUInt8 (w >>> 8).toUInt8 (w >>> 16).toUInt8 (w >>> 24).toUInt8 :: pack bs = _
  rw [Word.ofBytes_bytes]

theorem pack_flatMap_bytes (ws : List Word) : pack (ws.flatMap Word.bytes) = ws := by
  induction ws with
  | nil => rfl
  | cons w ws ih => rw [List.flatMap_cons, pack_bytes_append, ih]

theorem eq_of_flatMap_bytes_eq {ws ws' : List Word}
    (h : ws.flatMap Word.bytes = ws'.flatMap Word.bytes) : ws = ws' := by
  rw [← pack_flatMap_bytes ws, h, pack_flatMap_bytes]

theorem flatMap_bytes_pack (bs : List UInt8) :
    (pack bs).flatMap Word.bytes = bs ++ List.replicate ((4 - bs.length % 4) % 4) 0 := by
  induction bs using pack.induct with
  | case1 => rfl
  | case2 a => rw [pack, List.flatMap_singleton, Word.bytes_ofBytes]; rfl
  | case3 a b => rw [pack, List.flatMap_singleton, Word.bytes_ofBytes]; rfl
  | case4 a b c => rw [pack, List.flatMap_singleton, Word.bytes_ofBytes]; rfl
  | case5 a b c d rest ih =>
    have hlength : (a :: b :: c :: d :: rest).length = rest.length + 4 := rfl
    rw [pack, List.flatMap_cons, Word.bytes_ofBytes, ih, hlength, Nat.add_mod_right]
    rfl

/-- The bytes of an encoded text are those of its characters, then zero bytes up to the end of the
word in which the characters end. -/
theorem flatMap_bytes_encode (text : String) : (encode text).flatMap Word.bytes =
    Utf8.encode text.toList ++ List.replicate (4 - (Utf8.encode text.toList).length % 4) 0 := by
  have hpadding (n : Nat) : 4 - n % 4 = (4 - (n + 1) % 4) % 4 + 1 := by omega
  rw [hpadding (Utf8.encode text.toList).length, List.replicate_succ, encode, flatMap_bytes_pack,
    List.length_append, List.append_assoc]
  rfl

theorem length_encode (text : String) :
    (encode text).length = (Utf8.encode text.toList).length / 4 + 1 := by
  have hlength := length_flatMap_bytes (encode text)
  rw [flatMap_bytes_encode, List.length_append, List.length_replicate] at hlength
  omega

/-! ### The end of a text -/

def Ends (ws : List Word) : Prop := 0 ∈ ws.flatMap Word.bytes

def content (ws : List Word) : List UInt8 := (ws.flatMap Word.bytes).takeWhile (· != 0)

theorem takeWhile_append_of_mem {bs : List UInt8} (h : 0 ∈ bs) (rest : List UInt8) :
    (bs ++ rest).takeWhile (· != 0) = bs.takeWhile (· != 0) := by
  induction bs with
  | nil => contradiction
  | cons b bs ih =>
    rw [List.cons_append, List.takeWhile_cons, List.takeWhile_cons]
    split
    case isFalse => rfl
    case isTrue hb =>
      have hne : 0 ≠ b := fun heq => by simp [← heq] at hb
      rw [ih (List.mem_of_ne_of_mem hne h)]

theorem takeWhile_append_of_not_mem {bs : List UInt8} (h : 0 ∉ bs) (rest : List UInt8) :
    (bs ++ rest).takeWhile (· != 0) = bs ++ rest.takeWhile (· != 0) := by
  refine List.takeWhile_append_of_pos fun b hb => ?_
  rw [bne_iff_ne]
  rintro rfl
  exact h hb

theorem content_append (h : Ends ws) (rest : List Word) : content (ws ++ rest) = content ws := by
  rw [content, List.flatMap_append, takeWhile_append_of_mem h]
  rfl

theorem content_cons_of_mem {w : Word} (h : 0 ∈ w.bytes) (ws : List Word) :
    content (w :: ws) = w.bytes.takeWhile (· != 0) :=
  takeWhile_append_of_mem h _

theorem content_cons_of_not_mem {w : Word} (h : 0 ∉ w.bytes) (ws : List Word) :
    content (w :: ws) = w.bytes ++ content ws :=
  takeWhile_append_of_not_mem h _

theorem zero_not_mem_content (ws : List Word) : 0 ∉ content ws := fun hmem => by
  have hne := List.mem_takeWhile_imp hmem
  simp at hne

/-- The end of a text is the zero byte behind its bytes. -/
theorem exists_flatMap_bytes_eq (h : Ends ws) :
    ∃ rest, ws.flatMap Word.bytes = content ws ++ 0 :: rest := by
  obtain ⟨front, rest, heq, hfront⟩ := List.eq_append_cons_of_mem h
  have hcontent : content ws = front := by
    rw [content, heq, takeWhile_append_of_not_mem hfront, List.takeWhile_cons, if_neg (by decide),
      List.append_nil]
  exact ⟨rest, by rw [hcontent, heq]⟩

theorem wordCount_eq_of_ends (h : Ends ws) : wordCount ws = (content ws).length / 4 + 1 := by
  induction ws with
  | nil => contradiction
  | cons w ws ih =>
    have hw : w.bytes.length = 4 := rfl
    rw [wordCount]
    by_cases hmem : 0 ∈ w.bytes
    · have hends : Ends [w] := by
        rw [Ends, List.flatMap_singleton]
        exact hmem
      obtain ⟨rest, hbytes⟩ := exists_flatMap_bytes_eq hends
      have hlt := congrArg List.length hbytes
      rw [content_cons_of_mem hmem, List.flatMap_singleton, List.length_append, List.length_cons,
        hw] at hlt
      rw [if_pos (List.contains_iff_mem.mpr hmem), content_cons_of_mem hmem]
      omega
    · have hrest : Ends ws := (List.mem_append.mp h).resolve_left hmem
      have hfalse : ¬ w.bytes.contains 0 = true := fun hc => hmem (List.contains_iff_mem.mp hc)
      rw [if_neg hfalse, content_cons_of_not_mem hmem, ih hrest, List.length_append, hw]
      omega

theorem wordCount_append (h : Ends ws) (rest : List Word) :
    wordCount (ws ++ rest) = wordCount ws := by
  have hall : Ends (ws ++ rest) := by
    rw [Ends, List.flatMap_append]
    exact List.mem_append_left _ h
  rw [wordCount_eq_of_ends hall, wordCount_eq_of_ends h, content_append h]

theorem content_take_wordCount (ws : List Word) : content (ws.take (wordCount ws)) = content ws := by
  induction ws with
  | nil => rfl
  | cons w ws ih =>
    rw [wordCount]
    split
    case isTrue hc =>
      have hmem := List.contains_iff_mem.mp hc
      rw [List.take_succ_cons, content_cons_of_mem hmem, content_cons_of_mem hmem]
    case isFalse hc =>
      have hmem : 0 ∉ w.bytes := fun hmem => hc (List.contains_iff_mem.mpr hmem)
      rw [List.take_succ_cons, content_cons_of_not_mem hmem, content_cons_of_not_mem hmem, ih]

theorem ends_encode (text : String) : Ends (encode text) := by
  have hpos : 4 - (Utf8.encode text.toList).length % 4 ≠ 0 := by omega
  rw [Ends, flatMap_bytes_encode]
  exact List.mem_append_right _ (List.mem_replicate.mpr ⟨hpos, rfl⟩)

theorem content_encode {text : String} (h : '\x00' ∉ text.toList) :
    content (encode text) = Utf8.encode text.toList := by
  have hzero : 0 ∉ Utf8.encode text.toList := fun hmem => h (Utf8.zero_mem_encode_iff.mp hmem)
  rw [content, flatMap_bytes_encode, takeWhile_append_of_not_mem hzero]
  simp

theorem decode_encode_append {text : String} (h : '\x00' ∉ text.toList) (rest : List Word) :
    decode (encode text ++ rest) = text := by
  change String.ofList (Utf8.decode (content (encode text ++ rest))) = text
  rw [content_append (ends_encode text), content_encode h, Utf8.decode_encode, String.ofList_toList]

theorem wordCount_encode_append {text : String} (h : '\x00' ∉ text.toList) (rest : List Word) :
    wordCount (encode text ++ rest) = (encode text).length := by
  rw [wordCount_append (ends_encode text), wordCount_eq_of_ends (ends_encode text),
    content_encode h, length_encode]

/-! ### Reading and writing -/

/-- Words hold a text in the way it is written: the text ends, its bytes are well-formed, and behind
the end the word is filled up with zero bytes. -/
structure IsWritten (ws : List Word) : Prop where
  ends : Ends ws
  valid : (content ws).toByteArray.IsValidUTF8
  padded : ∀ k, (content ws).length < k → k / 4 = (content ws).length / 4 →
    (ws.flatMap Word.bytes)[k]? = some 0

/-- The counted words consist of the text and zero bytes exactly if the word in which the text ends
is filled up with zero bytes. -/
theorem padded_iff (h : Ends ws) :
    (∀ k, (content ws).length < k → k / 4 = (content ws).length / 4 →
      (ws.flatMap Word.bytes)[k]? = some 0) ↔
    (ws.take (wordCount ws)).flatMap Word.bytes =
      content ws ++ List.replicate (4 - (content ws).length % 4) 0 := by
  obtain ⟨rest, hbytes⟩ := exists_flatMap_bytes_eq h
  rw [flatMap_bytes_take, wordCount_eq_of_ends h]
  constructor
  · intro hpadded
    refine List.ext_getElem? fun k => ?_
    rw [List.getElem?_take]
    split
    case isTrue hk =>
      obtain hlt | rfl | hgt := Nat.lt_trichotomy k (content ws).length
      · rw [hbytes, List.getElem?_append_left hlt, List.getElem?_append_left hlt]
      · rw [hbytes, List.getElem?_append_right (Nat.le_refl _),
          List.getElem?_append_right (Nat.le_refl _), Nat.sub_self, List.getElem?_replicate,
          if_pos (by omega)]
        rfl
      · rw [hpadded k hgt (by omega), List.getElem?_append_right (by omega),
          List.getElem?_replicate, if_pos (by omega)]
    case isFalse hk =>
      rw [List.getElem?_eq_none]
      rw [List.length_append, List.length_replicate]
      omega
  · intro heq k hlt hword
    have hget := congrArg (fun bs : List UInt8 => bs[k]?) heq
    rw [List.getElem?_take, if_pos (by omega), List.getElem?_append_right (by omega),
      List.getElem?_replicate, if_pos (by omega)] at hget
    exact hget

/-- A text is read from the counted words, and writing it gives these words back exactly if they
hold it in the way it is written. -/
theorem encode_decode_iff (ws : List Word) : decode ws = decode (ws.take (wordCount ws)) ∧
    (encode (decode ws) = ws.take (wordCount ws) ↔ IsWritten ws) := by
  have hcontent := content_take_wordCount ws
  have hdecode (us : List Word) : decode us = String.ofList (Utf8.decode (content us)) := rfl
  refine ⟨by rw [hdecode, hdecode, hcontent], fun heq => ?_, fun h => ?_⟩
  · have hnull : '\x00' ∉ (decode ws).toList := by
      rw [hdecode, String.toList_ofList]
      exact Utf8.null_not_mem_decodeFrom (zero_not_mem_content ws) 0
    have hbytes : content ws = Utf8.encode (decode ws).toList := by
      rw [← hcontent, ← heq, content_encode hnull]
    have hends : Ends ws := by
      have hends := ends_encode (decode ws)
      rw [heq, Ends, flatMap_bytes_take] at hends
      exact List.mem_of_mem_take hends
    refine ⟨hends, ?_, (padded_iff hends).mpr ?_⟩
    · exact ⟨(decode ws).toList, by rw [hbytes]; rfl⟩
    · rw [← heq, flatMap_bytes_encode, hbytes]
  · obtain ⟨chars, hchars⟩ := h.valid
    have hbytes : content ws = Utf8.encode chars := List.toByteArray_inj.mp hchars
    have htext : Utf8.encode (decode ws).toList = content ws := by
      rw [hdecode, String.toList_ofList, hbytes, Utf8.decode_encode]
    refine eq_of_flatMap_bytes_eq ?_
    rw [flatMap_bytes_encode, htext, (padded_iff h.ends).mp h.padded]

-- a text that ends in a word of its own, and one with a byte behind its end
example : encode (decode [0x6E69616D, 0, 7]) = [0x6E69616D, 0] := by decide

example : encode (decode [0x62006161, 7]) = [0x00006161] := by decide

end Literal
end Spirv
