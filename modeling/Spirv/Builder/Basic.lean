import Spirv.Builder.Declaration
import Spirv.Module.Build

set_option autoImplicit false

/-!
# Builders

A builder holds the instructions appended so far and an id above all of theirs. It is not used up
when a module is built from it.
-/
namespace Spirv

structure Builder where
  version : Version := .v1_6
  addressing : AddressingModel := .logical
  instructions : List Instruction := []
  nextId : Id := 1
  deriving DecidableEq, Repr

namespace Builder

def empty : Builder := {}

def fresh (b : Builder) : Id × Builder := (b.nextId, { b with nextId := b.nextId + 1 })

/-- The id after this one. The greatest id is followed by itself. -/
def idAfter (id : Id) : Id := if id = 0xFFFFFFFF then id else id + 1

/-- Appends an instruction with words of its own, and passes over its result id. -/
def push (b : Builder) (op : Opcode) (words : List Word) : Builder :=
  let i := Instruction.ofOpcode op words
  { b with
    instructions := b.instructions ++ [i]
    nextId := match i.resultId with
      | some id => max b.nextId (idAfter id)
      | none => b.nextId }

def define (b : Builder) (d : Declaration) : Id × Builder :=
  let (id, b) := b.fresh
  (id, { b with instructions := b.instructions ++ [d.instruction id] })

def append (b : Builder) (d : Directive) : Builder := b.push d.parts.1 d.parts.2

def build (b : Builder) : Except BuildError Module :=
  Module.build b.version b.addressing b.instructions

end Builder

inductive BuilderStep where
  | version (v : Version)
  | addressing (model : AddressingModel)
  | fresh
  | push (op : Opcode) (words : List Word)
  | append (directive : Directive)
  | define (declaration : Declaration)
  deriving DecidableEq, Repr

def Builder.step (b : Builder) : BuilderStep → Option Id × Builder
  | .version v => (none, { b with version := v })
  | .addressing model => (none, { b with addressing := model })
  | .fresh => (some b.fresh.1, b.fresh.2)
  | .push op words => (none, b.push op words)
  | .append d => (none, b.append d)
  | .define d => (some (b.define d).1, (b.define d).2)

end Spirv
