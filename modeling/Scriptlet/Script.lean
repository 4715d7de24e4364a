import Scriptlet.Evaluation
import Scriptlet.Grammar.Statement
import Scriptlet.Node.Dump
import Scriptlet.Token.Scan

/-! Running scripts: lexing, parsing and evaluation one after the other. -/

namespace Scriptlet

/-- The bounds of a run: `limit` is the recursion limit of the parser and of the evaluation, and
`rounds` bounds each while loop. -/
structure Bounds where
  limit : Nat
  rounds : Nat

namespace Script

def defaultLimit : Nat := 10000

/-- A bound on loops that no run reaches in practice. -/
def ampleRounds : Nat := Nat.pow 2 62

def defaultBounds : Bounds := ⟨defaultLimit, ampleRounds⟩

structure Program where
  tokens : List Token
  tree : Node

def parse (limit : Nat) (file : String) (tokens : List Token) :
    Except Fault Program × List Event :=
  let (result, state) := Node.parse limit tokens (some file)
  (result.map fun tree => ⟨tokens, tree⟩, state.starts.reverse.map Event.statement)

def read (limit : Nat) (file source : String) : Except Fault Program × List Event :=
  match Token.scanChars source.toList with
  | .error fault => (.error fault, [])
  | .ok scanner =>
      let tokens := scanner.reversed.reverse
      let (result, events) := parse limit file tokens
      (result, .tokenized tokens.length scanner.line :: events)

def evaluate (bounds : Bounds) (file : String) (tree : Node) (machine : Machine) :
    Ending Value × Machine :=
  Eval.run file (tree.evaluate ⟨file, bounds.rounds⟩ bounds.limit) machine

def execute (bounds : Bounds) (file : String) (reading : Except Fault Program × List Event)
    (scope : Scope) : Ending Value × Machine :=
  let machine : Machine := { scope := scope, events := reading.2.toArray }
  match reading.1 with
  | .ok program => evaluate bounds file program.tree machine
  | .error fault => (.failed fault, machine)

def run (bounds : Bounds) (file source : String) (scope : Scope) : Ending Value × Machine :=
  execute bounds file (read bounds.limit file source) scope

end Script

def Machine.printed (machine : Machine) : String :=
  String.join machine.output.toList

end Scriptlet
