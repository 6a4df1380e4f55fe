import Spirv.Proofs.Checked.Basic
import Spirv.Type.Match
import Spirv.Type.Nullable
import Spirv.Type.Search

set_option autoImplicit false

/-!
# Checked walks over types

A walk counts how deep it is and is cut off below its greatest depth. With `frames` calls that the
stack has room for, a walk is out of stack before its depth is out of the range of words, so counting
never goes wrong, whatever the greatest depth is.
-/
namespace Spirv.Checked

/-- What a walk has left at a depth. With enough stack it comes to its greatest depth. -/
structure Room (enough : Prop) (maxDepth frames depth : Nat) : Prop where
  frames_lt : frames + depth < UInt64.size
  depth_le : depth ≤ maxDepth + 1
  le_frames : enough → maxDepth + 2 ≤ frames + depth

namespace Room

variable {enough : Prop} {maxDepth frames depth : Nat}

theorem not_enough (h : Room enough maxDepth 0 depth) : ¬ enough := by
  intro henough
  have hle := h.le_frames henough
  have hdepth := h.depth_le
  omega

/-- A walk counts one level down with one call less. -/
theorem descend (h : Room enough maxDepth (frames + 1) depth) (hdepth : ¬ maxDepth < depth) :
    add depth 1 = .ok (depth + 1) ∧ Room enough maxDepth frames (depth + 1) := by
  have hlt := h.frames_lt
  refine ⟨add_eq_ok (by omega), ⟨by omega, by omega, fun henough => ?_⟩⟩
  have hle := h.le_frames henough
  omega

theorem levels_eq (h : ¬ maxDepth < depth) :
    maxDepth + 1 - depth = maxDepth + 1 - (depth + 1) + 1 := by
  omega

theorem levels_eq_zero (h : maxDepth < depth) : maxDepth + 1 - depth = 0 := by
  omega

end Room

variable (m : Module) (maxDepth : Nat)

/-! ### Null values -/

def nullableFrom : Nat → Nat → Instruction → Checked Bool
  | 0, _, _ => .error .outOfStack
  | frames + 1, depth, type =>
    if maxDepth < depth then .ok false
    else
      let nested := fun id => whenSome (m.definition? id) fun inner => do
        let next ← add depth 1
        nullableFrom frames next inner
      match type.opcode with
      | .typeBool | .typeInt | .typeFloat | .typeEvent | .typeDeviceEvent | .typeReserveId
      | .typeQueue => .ok true
      | .typeArray | .typeMatrix | .typeVector | .typeCooperativeMatrixNV
      | .typeCooperativeMatrixKHR | .typeCooperativeVectorNV => whenSome (type.operand 1) nested
      | .typeStruct => all nested (type.operandsFrom 1)
      | .typePointer | .typeUntypedPointerKHR =>
        .ok ((type.operand 1).map UInt32.toNat != some StorageClass.physicalStorageBuffer.value)
      | .typeTensorARM =>
        if type.isShapedTensor then whenSome (type.operand 1) nested else .ok false
      | _ => .ok false

def isNullableId (frames : Nat) (id : Id) : Checked Bool :=
  whenSome (m.definition? id) (nullableFrom m maxDepth frames 0)

variable {m maxDepth} {enough : Prop}

theorem nullableFrom_ends {frames depth : Nat} (h : Room enough maxDepth frames depth)
    (type : Instruction) : Ends enough (nullableFrom m maxDepth frames depth type)
      (m.nullableWithin (maxDepth + 1 - depth) type) := by
  induction frames generalizing depth type with
  | zero => exact Or.inr ⟨h.not_enough, rfl⟩
  | succ frames ih =>
    rw [nullableFrom]
    split
    case isTrue hdeep =>
      rw [Room.levels_eq_zero hdeep]
      exact .ok false
    case isFalse hdeep =>
      obtain ⟨hadd, hroom⟩ := h.descend hdeep
      have hnested (id : Id) : Ends enough
          (whenSome (m.definition? id) fun inner => do
            let next ← add depth 1
            nullableFrom m maxDepth frames next inner)
          ((m.definition? id).any (m.nullableWithin (maxDepth + 1 - (depth + 1)))) := by
        refine .whenSome fun inner _ => ?_
        rw [hadd, ok_bind]
        exact ih hroom inner
      have helement : Ends enough _ ((type.operand 1).any _) :=
        .whenSome fun id _ => hnested id
      rw [Room.levels_eq hdeep]
      dsimp only
      split <;> rename_i hop <;> simp only [Module.nullableWithin, hop]
      case h_14 => exact .all fun id _ => hnested id
      case h_17 =>
        cases type.isShapedTensor with
        | true => exact helement
        | false => exact .ok false
      all_goals first | exact .ok _ | exact helement

theorem isNullableId_ends {frames : Nat} (h : Room enough maxDepth frames 0) (id : Id) :
    Ends enough (isNullableId m maxDepth frames id) (m.isNullableId maxDepth id) :=
  .whenSome fun type _ => nullableFrom_ends h type

/-! ### Matching types -/

variable (m maxDepth)

def partsMatch (walk : Nat → Instruction → Instruction → Checked Bool) (depth : Nat) (a b : Id) :
    Checked Bool :=
  if a == b then .ok true
  else whenSome (m.definition? a) fun x => whenSome (m.definition? b) fun y => do
    let next ← add depth 1
    walk next x y

def matchesFrom (decorated : Bool) : Nat → Nat → Instruction → Instruction → Checked Bool
  | 0, _, _, _ => .error .outOfStack
  | frames + 1, depth, a, b =>
    if maxDepth < depth then .ok false
    else if a.opcode == b.opcode && (!decorated || m.coversDecorations a.resultId b.resultId) then
      let parts := partsMatch m (matchesFrom decorated frames) depth
      match a.opcode with
      | .typeArray =>
        if a.operand 2 == b.operand 2 then
          whenSome (a.operand 1) fun x => whenSome (b.operand 1) (parts x)
        else .ok false
      | .typeStruct =>
        if a.words.length == b.words.length then
          all (fun p => parts p.1 p.2) ((a.operandsFrom 1).zip (b.operandsFrom 1))
        else .ok false
      | _ => .ok false
    else .ok false

def pointeesMatch : Nat → Instruction → Instruction → Checked Bool
  | 0, _, _ => .error .outOfStack
  | frames + 1, argument, parameter =>
    if argument.opcode == .typePointer && parameter.opcode == .typePointer &&
        m.coversDecorations argument.resultId parameter.resultId then
      whenSome (argument.operand 2) fun x => whenSome (parameter.operand 2)
        (partsMatch m (matchesFrom m maxDepth true frames) 0 x)
    else .ok false

variable {m maxDepth}

theorem partsMatch_ends {frames depth : Nat} (h : Room enough maxDepth (frames + 1) depth)
    (hdepth : ¬ maxDepth < depth) {walk : Nat → Instruction → Instruction → Checked Bool}
    {matching : Instruction → Instruction → Bool}
    (hwalk : ∀ x y, Ends enough (walk (depth + 1) x y) (matching x y)) (a b : Id) :
    Ends enough (partsMatch m walk depth a b) (m.partsMatch matching a b) := by
  rw [partsMatch, Module.partsMatch]
  cases a == b with
  | true => exact .ok true
  | false =>
    rw [(h.descend hdepth).1]
    cases m.definition? a with
    | none => exact .ok false
    | some x =>
      cases m.definition? b with
      | none => exact .ok false
      | some y => exact hwalk x y

theorem matchesFrom_ends {decorated : Bool} {frames depth : Nat}
    (h : Room enough maxDepth frames depth) (a b : Instruction) :
    Ends enough (matchesFrom m maxDepth decorated frames depth a b)
      (m.matchesWithin decorated (maxDepth + 1 - depth) a b) := by
  induction frames generalizing depth a b with
  | zero => exact Or.inr ⟨h.not_enough, rfl⟩
  | succ frames ih =>
    rw [matchesFrom]
    split
    case isTrue hdeep =>
      rw [Room.levels_eq_zero hdeep]
      exact .ok false
    case isFalse hdeep =>
      have hparts := partsMatch_ends (m := m) h hdeep fun x y => ih (h.descend hdeep).2 x y
      rw [Room.levels_eq hdeep]
      dsimp only
      cases hcode : a.opcode == b.opcode &&
          (!decorated || m.coversDecorations a.resultId b.resultId) with
      | false =>
        rw [Module.matchesWithin, hcode]
        exact .ok false
      | true =>
        rw [if_pos rfl]
        split <;> rename_i hop <;> rw [Module.matchesWithin, hcode, Bool.true_and] <;>
          simp only [hop]
        case h_1 =>
          cases a.operand 2 == b.operand 2 with
          | false => exact .ok false
          | true =>
            cases a.operand 1 with
            | none => exact .ok false
            | some x =>
              cases b.operand 1 with
              | none => exact .ok false
              | some y => exact hparts x y
        case h_2 =>
          cases a.words.length == b.words.length with
          | false => exact .ok false
          | true => exact .all fun p _ => hparts p.1 p.2
        case h_3 => exact .ok false

theorem pointeesMatch_ends {frames : Nat} (h : Room enough maxDepth frames 0)
    (argument parameter : Instruction) :
    Ends enough (pointeesMatch m maxDepth frames argument parameter)
      (m.pointeesMatch maxDepth argument parameter) := by
  cases frames with
  | zero => exact Or.inr ⟨h.not_enough, rfl⟩
  | succ frames =>
    have hdepth : ¬ maxDepth < 0 := Nat.not_lt_zero maxDepth
    have hwalk (x y : Instruction) : Ends enough (matchesFrom m maxDepth true frames 1 x y)
        (m.matchesWithin true maxDepth x y) := matchesFrom_ends (h.descend hdepth).2 x y
    have hparts := partsMatch_ends (m := m) h hdepth hwalk
    rw [pointeesMatch, Module.pointeesMatch]
    cases argument.opcode == .typePointer && parameter.opcode == .typePointer &&
        m.coversDecorations argument.resultId parameter.resultId with
    | false => exact .ok false
    | true =>
      rw [if_pos rfl, Bool.true_and]
      cases argument.operand 2 with
      | none => exact .ok false
      | some x =>
        cases parameter.operand 2 with
        | none => exact .ok false
        | some y => exact hparts x y

/-! ### Searches -/

def searchEach (search : List Id → Id → Checked (Bool × List Id)) :
    List Id → List Id → Checked (Bool × List Id)
  | visited, [] => .ok (false, visited)
  | visited, id :: rest => do
    match ← search visited id with
    | (true, visited) => return (true, visited)
    | (false, visited) => searchEach search visited rest

theorem Ends.searchEach {search : List Id → Id → Checked (Bool × List Id)}
    {search' : List Id → Id → Bool × List Id}
    (h : ∀ visited id, Ends enough (search visited id) (search' visited id)) (visited ids : List Id) :
    Ends enough (Checked.searchEach search visited ids)
      (Spirv.searchEach search' visited ids) := by
  induction ids generalizing visited with
  | nil => exact .ok _
  | cons id ids ih =>
    rw [Checked.searchEach, Spirv.searchEach]
    refine .bind (h visited id) ?_
    obtain ⟨found, after⟩ := search' visited id
    cases found with
    | true => exact .ok _
    | false => exact ih after

variable (m maxDepth) (everywhere : Bool) (wanted : Instruction → Bool)

def searchFrom : Nat → Nat → List Id → Id → Checked (Bool × List Id)
  | 0, _, _, _ => .error .outOfStack
  | frames + 1, depth, visited, id =>
    if id ∈ visited then .ok (false, visited)
    else
      match m.definition? id with
      | none => .ok (false, id :: visited)
      | some type =>
        if maxDepth < depth then .ok (false, id :: visited)
        else if wanted type then .ok (true, id :: visited)
        else searchEach (fun visited inner => do
            let next ← add depth 1
            searchFrom frames next visited inner)
          (id :: visited) (type.searched everywhere)

variable {m maxDepth everywhere wanted}

theorem searchFrom_ends {frames depth : Nat} (h : Room enough maxDepth frames depth)
    (visited : List Id) (id : Id) :
    Ends enough (searchFrom m maxDepth everywhere wanted frames depth visited id)
      (m.searchFrom everywhere wanted (maxDepth + 1 - depth) visited id) := by
  induction frames generalizing depth visited id with
  | zero => exact Or.inr ⟨h.not_enough, rfl⟩
  | succ frames ih =>
    rw [searchFrom]
    by_cases hdeep : maxDepth < depth
    · rw [Room.levels_eq_zero hdeep, Module.searchFrom]
      simp only [if_pos hdeep]
      split
      · exact .ok _
      · cases m.definition? id <;> exact .ok _
    · obtain ⟨hadd, hroom⟩ := h.descend hdeep
      rw [Room.levels_eq hdeep, Module.searchFrom]
      simp only [if_neg hdeep]
      split
      · exact .ok _
      · cases m.definition? id with
        | none => exact .ok _
        | some type =>
          dsimp only
          split
          · exact .ok _
          · rw [hadd]
            exact .searchEach (fun visited inner => ih hroom visited inner) _ _

variable (m maxDepth)

def containsNumeric (frames : Nat) (op : Opcode) (width : Word) (id : Id) : Checked Bool := do
  let result ← searchFrom m maxDepth false
    (fun type => type.opcode == op && type.operand 1 == some width) frames 0 [] id
  return result.1

def lacks (frames : Nat) (id : Id) (c : Capability) (op : Opcode) (width : Word) : Checked Bool :=
  if m.hasCapability c then .ok false else containsNumeric m maxDepth frames op width id

def containsLimitedNumeric (frames : Nat) (id : Id) : Checked Bool := do
  match ← lacks m maxDepth frames id .int16 .typeInt 16 with
  | true => return true
  | false =>
    match ← lacks m maxDepth frames id .int8 .typeInt 8 with
    | true => return true
    | false => lacks m maxDepth frames id .float16 .typeFloat 16

variable {m maxDepth}

theorem containsNumeric_ends {frames : Nat} (h : Room enough maxDepth frames 0) (op : Opcode)
    (width : Word) (id : Id) : Ends enough (containsNumeric m maxDepth frames op width id)
      (m.containsNumeric maxDepth op width id) :=
  .bind (searchFrom_ends h [] id) (.ok _)

theorem lacks_ends {frames : Nat} (h : Room enough maxDepth frames 0) (id : Id) (c : Capability)
    (op : Opcode) (width : Word) : Ends enough (lacks m maxDepth frames id c op width)
      (!m.hasCapability c && m.containsNumeric maxDepth op width id) := by
  rw [lacks]
  cases m.hasCapability c with
  | true => exact .ok false
  | false => exact containsNumeric_ends h op width id

theorem containsLimitedNumeric_ends {frames : Nat} (h : Room enough maxDepth frames 0) (id : Id) :
    Ends enough (containsLimitedNumeric m maxDepth frames id)
      (m.containsLimitedNumeric maxDepth id) := by
  rw [containsLimitedNumeric, Module.containsLimitedNumeric]
  refine .bind (lacks_ends h id .int16 .typeInt 16) ?_
  cases !m.hasCapability .int16 && m.containsNumeric maxDepth .typeInt 16 id with
  | true => exact .ok true
  | false =>
    refine .bind (lacks_ends h id .int8 .typeInt 8) ?_
    cases !m.hasCapability .int8 && m.containsNumeric maxDepth .typeInt 8 id with
    | true => exact .ok true
    | false => exact lacks_ends h id .float16 .typeFloat 16

end Spirv.Checked
