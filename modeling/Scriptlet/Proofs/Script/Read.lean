import Scriptlet.Script

/-! Reading a script is lexing it and then parsing its tokens; running it is evaluating what was
read, if it could be read. -/

namespace Scriptlet

def Ending.fault? {α : Type} : Ending α → Option Fault
  | failed fault => some fault
  | finished _ | unfinished => none

theorem Ending.eq_failed {α : Type} {ending : Ending α} {fault : Fault}
    (found : ending.fault? = some fault) : ending = .failed fault := by
  cases ending with
  | failed met => exact congrArg failed (Option.some.inj found)
  | finished | unfinished => cases found

def Scope.integers (scope : Scope) : List (String × Int) :=
  scope.values.entries.filterMap fun entry =>
    match entry.2 with
    | .int n => some (entry.1, n)
    | _ => none

namespace Script

variable {limit : Nat} {file source : String}

theorem read_eq (limit : Nat) (file source : String) :
    (read limit file source).1 = (Token.scan source).bind fun tokens =>
      (Node.parse limit tokens (some file)).1.map fun tree => ⟨tokens, tree⟩ := by
  unfold read Token.scan
  cases Token.scanChars source.toList with
  | error fault => rfl
  | ok scanner => rfl

theorem read_of_scan {tokens : List Token} (scanned : Token.scan source = .ok tokens) :
    (read limit file source).1 =
      (Node.parse limit tokens (some file)).1.map fun tree => ⟨tokens, tree⟩ := by
  rw [read_eq, scanned]
  rfl

theorem scan_of_read {program : Program} (wasRead : (read limit file source).1 = .ok program) :
    Token.scan source = .ok program.tokens ∧
      (Node.parse limit program.tokens (some file)).1 = .ok program.tree := by
  rw [read_eq] at wasRead
  cases scanned : Token.scan source with
  | error fault =>
      rw [scanned] at wasRead
      cases wasRead
  | ok tokens =>
      rw [scanned, Except.bind] at wasRead
      cases parsed : (Node.parse limit tokens (some file)).1 with
      | error fault =>
          rw [parsed] at wasRead
          cases wasRead
      | ok tree =>
          rw [parsed] at wasRead
          cases wasRead
          exact ⟨rfl, parsed⟩

theorem fault_of_read {fault : Fault} (refused : (read limit file source).1 = .error fault) :
    Token.scan source = .error fault ∨
      ∃ tokens, Token.scan source = .ok tokens ∧
        (Node.parse limit tokens (some file)).1 = .error fault := by
  rw [read_eq] at refused
  cases scanned : Token.scan source with
  | error met =>
      rw [scanned] at refused
      cases refused
      exact .inl rfl
  | ok tokens =>
      rw [scanned, Except.bind] at refused
      refine .inr ⟨tokens, rfl, ?_⟩
      cases parsed : (Node.parse limit tokens (some file)).1 with
      | error met =>
          rw [parsed] at refused
          cases refused
          rfl
      | ok tree =>
          rw [parsed] at refused
          cases refused

theorem run_of_read {bounds : Bounds} {program : Program}
    (wasRead : (read bounds.limit file source).1 = .ok program) (scope : Scope) :
    ∃ machine : Machine, machine.scope = scope ∧ machine.output = #[] ∧
      run bounds file source scope =
        Eval.run file (program.tree.evaluate ⟨file, bounds.rounds⟩ bounds.limit) machine := by
  refine ⟨{ scope := scope, events := (read bounds.limit file source).2.toArray }, rfl, rfl, ?_⟩
  rw [run, execute, wasRead]
  rfl

theorem run_of_refused {bounds : Bounds} {fault : Fault}
    (refused : (read bounds.limit file source).1 = .error fault) (scope : Scope) :
    (run bounds file source scope).1 = .failed fault := by
  rw [run, execute, refused]

def block (body : String) : String :=
  "\x7b" ++ body ++ "\x7d"

theorem exists_program {reading : Except Fault Program} (wasRead : reading.toBool = true) :
    ∃ program, reading = .ok program := by
  cases reading with
  | error fault => cases wasRead
  | ok program => exact ⟨program, rfl⟩

end Script

end Scriptlet
