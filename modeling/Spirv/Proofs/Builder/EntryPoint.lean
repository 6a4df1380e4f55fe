import Mathlib.Data.List.ProdSigma
import Spirv.Builder.Basic
import Spirv.Proofs.Module.Uses
import Spirv.Proofs.Text.Literal

set_option autoImplicit false

/-!
# Entry points

An entry point names its function in front of a text and the ids of its interface behind it. The
words of the text are told from the ids by the end of the text, so no word of it is taken for an id
and no id for a word of it, provided that the text does not hold the null character.
-/
namespace Spirv

/-- The ids that an entry point refers to, each behind its operand, when its name takes `size`
words. -/
def entryPointReferences (function : Id) (size : Nat) (interface : List Id) : List (Nat × Id) :=
  (1, function) :: (interface.zipIdx (2 + size)).map Prod.swap

theorem mem_swapped_zipIdx_iff {n k : Nat} {id : Id} {ids : List Id} :
    (k, id) ∈ (ids.zipIdx n).map Prod.swap ↔ n ≤ k ∧ ids[k - n]? = some id := by
  rw [List.mem_map_swap, List.mk_mem_zipIdx_iff_le_and_getElem?_sub]

theorem pairwise_entryPointReferences (function : Id) (size : Nat) (interface : List Id) :
    (entryPointReferences function size interface).Pairwise fun a b => a.1 < b.1 := by
  refine .cons (fun r hr => ?_) ?_
  · obtain ⟨hle, -⟩ := mem_swapped_zipIdx_iff.mp hr
    exact Nat.lt_of_lt_of_le (by omega) hle
  · rw [List.pairwise_map]
    exact pairwise_zipIdx interface _

namespace Instruction

variable {i : Instruction}

/-- References in the order of their operands are those of an instruction if they are the same. -/
theorem idOperands_eq {refs : List (Nat × Id)} (hrefs : refs.Pairwise fun a b => a.1 < b.1)
    (hmem : ∀ k id, (k, id) ∈ i.idOperands ↔ (k, id) ∈ refs) : i.idOperands = refs := by
  have : Std.Antisymm fun a b : Nat × Id => a.1 < b.1 := ⟨fun _ _ h h' => absurd h' h.asymm⟩
  have : Std.Irrefl fun a b : Nat × Id => a.1 < b.1 := ⟨fun _ => Nat.lt_irrefl _⟩
  exact i.pairwise_idOperands.eq_of_mem_iff hrefs fun r => hmem r.1 r.2

theorem mem_idOperands_entryPoint_iff (hop : i.opcode = .entryPoint) {k : Nat} {id : Id} :
    (k, id) ∈ i.idOperands ↔
      i.operand k = some id ∧ (k = 1 ∨ 2 + Literal.wordCount (i.operandsFrom 2) ≤ k) := by
  rw [i.mem_idOperands_iff]
  refine and_congr_right fun hk => ?_
  obtain ⟨hlt, -⟩ := List.getElem?_eq_some_iff.mp hk
  have hresult : Opcode.entryPoint.resultIdIndex = none := rfl
  have hposition : Opcode.entryPoint.idPosition i.words k =
      (k == 1 || decide (2 + Literal.wordCount (i.operandsFrom 2) ≤ k)) := rfl
  rw [Opcode.isIdOperand, hop, Opcode.operandIsId_of_ne (by decide), hresult, hposition]
  simp [hlt]

/-- An entry point refers to its function and to the ids behind its name. -/
theorem idOperands_entryPoint {model : Word} {function : Id} {name : String} {interface : List Id}
    (hname : '\x00' ∉ name.toList) (hop : i.opcode = .entryPoint)
    (hwords : i.words = model :: function :: (Literal.encode name ++ interface)) :
    i.idOperands = entryPointReferences function (Literal.encode name).length interface := by
  have hbehind : i.operandsFrom 2 = Literal.encode name ++ interface := by
    rw [operandsFrom, hwords]
    rfl
  refine idOperands_eq (pairwise_entryPointReferences _ _ _) fun k id => ?_
  rw [mem_idOperands_entryPoint_iff hop, hbehind, Literal.wordCount_encode_append hname, operand,
    hwords, entryPointReferences, List.mem_cons, Prod.mk.injEq, mem_swapped_zipIdx_iff]
  obtain hlt | hle := Nat.lt_or_ge k (2 + (Literal.encode name).length)
  · -- in front of the interface only the function is an id
    have hnot : ¬ 2 + (Literal.encode name).length ≤ k := Nat.not_le_of_lt hlt
    simp only [hnot, or_false, false_and]
    constructor
    · rintro ⟨hid, rfl⟩
      exact ⟨rfl, (Option.some.inj hid).symm⟩
    · rintro ⟨rfl, rfl⟩
      exact ⟨rfl, rfl⟩
  · have hone : k ≠ 1 := by omega
    have hfront : (model :: function :: Literal.encode name).length =
        2 + (Literal.encode name).length := by
      rw [List.length_cons, List.length_cons]
      omega
    have hindex : (model :: function :: (Literal.encode name ++ interface))[k]? =
        interface[k - (2 + (Literal.encode name).length)]? := by
      rw [← hfront] at hle ⊢
      exact List.getElem?_append_right hle
    simp only [hindex, hle, hone, or_true, and_true, true_and, false_and, false_or]

end Instruction

namespace Builder

/-- An instruction is the entry point with the given operands, and refers to its function and to its
interface where they stand. -/
structure IsEntryPoint (i : Instruction) (model : Word) (function : Id) (name : String)
    (interface : List Id) : Prop where
  opcode : i.opcode = .entryPoint
  words : i.words = model :: function :: (Literal.encode name ++ interface)
  idOperands : i.idOperands =
    entryPointReferences function (Literal.encode name).length interface

/-- A text is read back from its words whatever stands behind them, so an entry point that a builder
appends refers to its function and its interface, also in a module that is built from it. -/
theorem text_survives_encoding {name : String} (hname : '\x00' ∉ name.toList) :
    (∀ rest, Literal.decode (Literal.encode name ++ rest) = name ∧
      Literal.wordCount (Literal.encode name ++ rest) = (Literal.encode name).length) ∧
    ∀ (b : Builder) (model : Word) (function : Id) (interface : List Id),
      (∃ i, (b.append (.entryPoint model function name interface)).instructions =
          b.instructions ++ [i] ∧ IsEntryPoint i model function name interface) ∧
      ∀ version addressing later m, Module.build version addressing
          ((b.append (.entryPoint model function name interface)).instructions ++ later) = .ok m →
        ∃ i, m.instructions[b.instructions.length]? = some i ∧
          IsEntryPoint i model function name interface := by
  refine ⟨fun rest => ⟨Literal.decode_encode_append hname rest,
    Literal.wordCount_encode_append hname rest⟩, fun b model function interface => ?_⟩
  let i := Instruction.ofOpcode .entryPoint
    (model :: function :: (Literal.encode name ++ interface))
  have happend : (b.append (.entryPoint model function name interface)).instructions =
      b.instructions ++ [i] := rfl
  have hentry (j : Instruction) (hop : j.opcode = i.opcode) (hwords : j.words = i.words) :
      IsEntryPoint j model function name interface :=
    ⟨hop, hwords, Instruction.idOperands_entryPoint hname hop hwords⟩
  refine ⟨⟨i, happend, hentry i rfl rfl⟩, fun version addressing later m hm => ?_⟩
  have hi : (b.instructions ++ [i] ++ later)[b.instructions.length]? = some i := by simp
  rw [happend] at hm
  rw [Module.build_getElem? hm, hi, Option.map_some]
  have hkeeps := Module.finish_keepsCode (Module.place (b.instructions ++ [i] ++ later))
  exact ⟨_, rfl, hentry _ (hkeeps.opcode _) (hkeeps.words _)⟩

/-- A name whose end has a word of its own, with characters of two bytes and two ids behind it. -/
theorem umlauts_survive_encoding :
    '\x00' ∉ "größen".toList ∧ Literal.decode (Literal.encode "größen" ++ [8, 9]) = "größen" ∧
      Literal.wordCount (Literal.encode "größen" ++ [8, 9]) = 3 ∧
      ∃ i, (empty.append (.entryPoint 0 4 "größen" [8, 9])).instructions = [i] ∧
        i.idOperands = [(1, 4), (5, 8), (6, 9)] := by
  have hname : '\x00' ∉ "größen".toList := by decide
  have hlength : (Literal.encode "größen").length = 3 := by decide
  obtain ⟨htext, happend⟩ := text_survives_encoding hname
  obtain ⟨⟨i, hi, hentry⟩, -⟩ := happend empty 0 4 [8, 9]
  refine ⟨hname, (htext [8, 9]).1, (htext [8, 9]).2.trans hlength, i, hi, ?_⟩
  rw [hentry.idOperands, hlength]
  rfl

end Builder
end Spirv
