import Spirv.Type.Shape

set_option autoImplicit false

/-!
# Searching a type

A search goes from a type to its components, depth first and to each type once. With `everywhere`
it also goes from a pointer to its pointee and from a function type to its return and parameter
types.
-/
namespace Spirv

def Instruction.searched (everywhere : Bool) (type : Instruction) : List Id :=
  match type.opcode with
  | .typeArray | .typeRuntimeArray | .typeVector | .typeMatrix | .typeImage | .typeSampledImage
  | .typeCooperativeMatrixNV | .typeCooperativeMatrixKHR | .typeCooperativeVectorNV =>
    (type.operand 1).toList
  | .typeStruct => type.operandsFrom 1
  | .typePointer => if everywhere then (type.operand 2).toList else []
  | .typeFunction => if everywhere then type.operandsFrom 1 else []
  | _ => []

/-- Runs a search from each id in turn until one of them succeeds. A search takes the ids visited
before it and gives back the ones visited after it. -/
def searchEach (search : List Id → Id → Bool × List Id) : List Id → List Id → Bool × List Id
  | visited, [] => (false, visited)
  | visited, id :: rest =>
    match search visited id with
    | (true, visited) => (true, visited)
    | (false, visited) => searchEach search visited rest

namespace Module

/-- Searches from an id, not entering types nested in `levels` or more others. An id counts as
visited also when its type is too deep to be entered. -/
def searchFrom (m : Module) (everywhere : Bool) (wanted : Instruction → Bool) :
    Nat → List Id → Id → Bool × List Id
  | 0, visited, id => (false, if id ∈ visited then visited else id :: visited)
  | levels + 1, visited, id =>
    if id ∈ visited then (false, visited)
    else
      match m.definition? id with
      | none => (false, id :: visited)
      | some type =>
        if wanted type then (true, id :: visited)
        else searchEach (m.searchFrom everywhere wanted levels) (id :: visited)
          (type.searched everywhere)

/-- Whether a search from an id, at most `depth` types deep, finds a wanted type. -/
def containsType (m : Module) (depth : Nat) (everywhere : Bool) (wanted : Instruction → Bool)
    (id : Id) : Bool :=
  (m.searchFrom everywhere wanted (depth + 1) [] id).1

def containsNumeric (m : Module) (depth : Nat) (op : Opcode) (width : Word) (id : Id) : Bool :=
  m.containsType depth false (fun type => type.opcode == op && type.operand 1 == some width) id

def containsLimitedNumeric (m : Module) (depth : Nat) (id : Id) : Bool :=
  !m.hasCapability .int16 && m.containsNumeric depth .typeInt 16 id ||
    !m.hasCapability .int8 && m.containsNumeric depth .typeInt 8 id ||
      !m.hasCapability .float16 && m.containsNumeric depth .typeFloat 16 id

end Module
end Spirv
