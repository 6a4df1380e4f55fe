import Spirv.Module.Basic

set_option autoImplicit false

/-!
# The decoration table

Decorations in the order in which a target collects them: first the ones that name it, then the
ones it has from a group. A decoration on a group reaches the group's targets wherever it stands.
-/
namespace Spirv

def Instruction.ownDecorations (i : Instruction) : List (Id × Decoration) :=
  match i.opcode, i.words with
  | .decorate, target :: kind :: literals => [(target, ⟨kind, literals, none⟩)]
  | .decorateId, target :: kind :: ids => [(target, ⟨kind, ids, none⟩)]
  | .memberDecorate, target :: member :: kind :: literals =>
    [(target, ⟨kind, literals, some member⟩)]
  | _, _ => []

namespace DecorationTable

/-- Words taken two at a time, without a last one that has no partner. -/
def pairs : List Word → List (Word × Word)
  | a :: b :: rest => (a, b) :: pairs rest
  | _ => []

def granted (table : List (Id × Decoration)) (i : Instruction) : List (Id × Decoration) :=
  match i.opcode, i.words with
  | .groupDecorate, group :: targets =>
    targets.flatMap fun target => (decorationsIn table group).map fun d => (target, d)
  | .groupMemberDecorate, group :: targets =>
    (pairs targets).flatMap fun (target, member) =>
      (decorationsIn table group).map fun d => (target, { d with member := some member })
  | _, _ => []

/-- The table of a sequence of instructions. A group that is itself a target of another one passes
on what it has by then. -/
def ofInstructions (is : List Instruction) : List (Id × Decoration) :=
  is.foldl (fun table i => table ++ granted table i) (is.flatMap Instruction.ownDecorations)

end DecorationTable
end Spirv
