import Spirv.Module.Basic

set_option autoImplicit false

/-!
# Types that match in structure

Two arrays match when they have the same length and matching elements, two structs when their
members match one by one. Other types match nothing, not even themselves, but as an element or a
member every type matches itself.
-/
namespace Spirv.Module

def coversDecorations (m : Module) (a b : Option Id) : Bool :=
  match a, b with
  | some a, some b => (m.decorationsOf b).all (m.decorationsOf a).contains
  | _, _ => true

def partsMatch (m : Module) (matching : Instruction → Instruction → Bool) (a b : Id) : Bool :=
  a == b ||
    match m.definition? a, m.definition? b with
    | some x, some y => matching x y
    | _, _ => false

/-- Whether two types match, where types nested in `levels` or more others do not. With
`decorated`, all decorations of the second type must also be on the first one. -/
def matchesWithin (m : Module) (decorated : Bool) : Nat → Instruction → Instruction → Bool
  | 0, _, _ => false
  | levels + 1, a, b =>
    let parts := m.partsMatch (m.matchesWithin decorated levels)
    a.opcode == b.opcode && (!decorated || m.coversDecorations a.resultId b.resultId) &&
      match a.opcode with
      | .typeArray =>
        a.operand 2 == b.operand 2 &&
          match a.operand 1, b.operand 1 with
          | some x, some y => parts x y
          | _, _ => false
      | .typeStruct =>
        a.words.length == b.words.length &&
          ((a.operandsFrom 1).zip (b.operandsFrom 1)).all fun (x, y) => parts x y
      | _ => false

def typesMatch (m : Module) (depth : Nat) (decorated : Bool) (a b : Instruction) : Bool :=
  m.matchesWithin decorated (depth + 1) a b

def idsMatch (m : Module) (depth : Nat) (decorated : Bool) (a b : Id) : Bool :=
  match m.definition? a, m.definition? b with
  | some x, some y => m.typesMatch depth decorated x y
  | _, _ => false

/-- Whether a pointer may be passed for another one before legalization: it has all decorations of
the other, and their pointees match with their decorations. -/
def pointeesMatch (m : Module) (depth : Nat) (argument parameter : Instruction) : Bool :=
  argument.opcode == .typePointer && parameter.opcode == .typePointer &&
    m.coversDecorations argument.resultId parameter.resultId &&
      match argument.operand 2, parameter.operand 2 with
      | some x, some y => m.partsMatch (m.matchesWithin true depth) x y
      | _, _ => false

end Spirv.Module
