import Spirv.Rule.Composite

set_option autoImplicit false

/-!
# The rule for tensor constants

A tensor of rank 1 has elements as constituents, and one of a higher rank has tensors: of the same
element type, of the rank below, and of the shape that is left without the outermost dimension. A
rank of 0 stands for one that is not known.
-/
namespace Spirv.Module

/-- Checks one dimension of a constituent against the result type, where both are known. -/
def checkDimension (m : Module) (id : Id) (actual expected : Id) (k : Nat) :
    Except CompositeFault Unit :=
  match m.uint64Value? actual, m.uint64Value? expected with
  | some a, some e => require (a == e) (.shapeDimension id k a e)
  | _, _ => .ok ()

def checkShape (m : Module) (shape : Instruction) (id : Id) (index : Nat) (tensor : Instruction) :
    Except CompositeFault Unit :=
  match tensor.operand 3 with
  | none => .ok ()
  | some s =>
    match m.definition? s with
    | none => .error (.undefinedShape id index s)
    | some inner =>
      requireEach (fun ((actual, expected), k) => m.checkDimension id actual expected k)
        ((inner.operandsFrom 2).zip (shape.operandsFrom 3)).zipIdx

def checkSubtensor (m : Module) (element : Id) (rank : Nat) (shape : Instruction) (id : Id)
    (index : Nat) (tensor : Instruction) : Except CompositeFault Unit := do
  require (tensor.opcode == .typeTensorARM) (.notTensor id rank)
  require (tensor.operand 1 == some element) (.mismatch .tensorElement id)
  require (((tensor.operand 2).bind m.uint64Value?).all (· + 1 == rank)) (.tensorRank id rank)
  m.checkShape shape id index tensor

def checkTensorConstituent (m : Module) (element : Id) (rank : Nat) (shape : Instruction)
    (id : Id) (index : Nat) : Except CompositeFault Unit := do
  let (t, type) ← m.constituentType id
  match rank with
  | 0 => .ok ()
  | 1 => require (t == element) (.mismatch .tensorElement id)
  | _ => m.checkSubtensor element rank shape id index type

def checkTensor (m : Module) (type : Instruction) (constituents : List Id) :
    Except CompositeFault Unit := do
  let (element, _) ← m.typePart type 1 .elementType
  let (rankId, _) ← m.typePart type 2 .rank
  let (_, shape) ← m.typePart type 3 .shape
  let rank := (m.uint64Value? rankId).getD 0
  require (((shape.operand 2).bind m.uint64Value?).all (· == constituents.length))
    (.count .outermostDimension)
  requireEach (fun (id, index) => m.checkTensorConstituent element rank shape id index)
    constituents.zipIdx

end Spirv.Module
