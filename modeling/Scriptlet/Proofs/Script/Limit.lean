import Scriptlet.Proofs.Evaluation.Depth
import Scriptlet.Proofs.Grammar.Program
import Scriptlet.Proofs.Script.Read

/-!
The recursion limit is a cut-off and nothing else. It can end a run in two ways, in parsing and in
evaluation. A run that it does not end is the same under every greater limit.
-/

namespace Scriptlet

def Cause.isCutOff : Cause → Bool
  | nestingTooDeep | stackOverflow => true
  | _ => false

def Ending.cutOff {α : Type} : Ending α → Bool
  | failed fault => fault.cause.isCutOff
  | finished _ | unfinished => false

theorem Eval.UpToOverflow.eq_of_uncut {α : Type} {first second : Except Stop α × Machine}
    (related : UpToOverflow first second) {file : String}
    (uncut : (ending file first.1).cutOff = false) : second = first := by
  rcases related with overflowed | same
  · rw [overflowed] at uncut
    cases uncut
  · exact same

namespace Script

variable {limit more : Nat} {file source : String}

theorem read_of_greater (greater : limit ≤ more)
    (within : ∀ fault, (read limit file source).1 = .error fault →
      fault.cause ≠ .nestingTooDeep) :
    read more file source = read limit file source := by
  cases scanned : Token.scanChars source.toList with
  | error fault =>
      unfold read
      rw [scanned]
  | ok scanner =>
      have tokens : Token.scan source = .ok scanner.reversed.reverse := by
        unfold Token.scan
        rw [scanned]
        rfl
      rw [read_of_scan tokens] at within
      have parsing : Node.WithinLimit limit scanner.reversed.reverse (some file) :=
        fun fault failed => within fault (by rw [failed]; rfl)
      unfold read parse
      rw [scanned]
      dsimp only
      rw [parsing.parse_eq greater]

theorem evaluate_of_greater (greater : limit ≤ more) {rounds : Nat} {tree : Node}
    {machine : Machine} (uncut : (evaluate ⟨limit, rounds⟩ file tree machine).1.cutOff = false) :
    evaluate ⟨more, rounds⟩ file tree machine = evaluate ⟨limit, rounds⟩ file tree machine := by
  unfold evaluate at uncut ⊢
  rw [Eval.run_eq_outcome] at uncut
  rw [Eval.run_eq_outcome, Eval.run_eq_outcome]
  dsimp only
  rw [(tree.evaluate_of_deeper ⟨file, rounds⟩ greater machine).eq_of_uncut uncut]

theorem within_of_uncut {bounds : Bounds} {scope : Scope}
    (uncut : (run bounds file source scope).1.cutOff = false) {fault : Fault}
    (refused : (read bounds.limit file source).1 = .error fault) :
    fault.cause ≠ .nestingTooDeep := by
  intro deep
  rw [run_of_refused refused scope, Ending.cutOff, deep] at uncut
  cases uncut

/-- A run that is not cut off by its recursion limit is the same under every greater limit: in how
it ends, in what it prints and in the scope that it leaves. -/
theorem run_of_greater_limit (limit more rounds : Nat) (greater : limit ≤ more)
    (file source : String) (scope : Scope)
    (uncut : (run ⟨limit, rounds⟩ file source scope).1.cutOff = false) :
    run ⟨more, rounds⟩ file source scope = run ⟨limit, rounds⟩ file source scope := by
  have same : read more file source = read limit file source :=
    read_of_greater greater fun _ refused => within_of_uncut uncut refused
  unfold run at uncut ⊢
  dsimp only at uncut ⊢
  rw [same]
  unfold execute at uncut ⊢
  cases wasRead : (read limit file source).1 with
  | error fault => rfl
  | ok program =>
      rw [wasRead] at uncut
      exact evaluate_of_greater greater uncut

/-- A function that prints as it calls itself, and fails when it gets to zero. -/
def countdownScript : String :=
  "fun f(n) " ++ block " io::println(8 / n); f(n - 1); " ++ " f(1);"

theorem run_countdownScript_of_greater_limit :
    let ended := run ⟨100, 8⟩ "main" countdownScript {}
    ended.1.fault?.map Fault.message = some "Integer division by zero in '/' on line 1 in main" ∧
    ended.2.output = #["dbg out: 8\n"] ∧
    ended.2.scope.values.entries.length = 0 ∧
    ended.2.scope.functions.entries.map Prod.fst = ["f"] ∧
    ended.1.cutOff = false ∧ run ⟨10000, 8⟩ "main" countdownScript {} = ended := by
  intro ended
  have uncut : ended.1.cutOff = false := by decide +kernel
  have same := run_of_greater_limit 100 10000 8 (by decide) "main" countdownScript {} uncut
  exact ⟨by decide +kernel, by decide +kernel, by decide +kernel, by decide +kernel, uncut, same⟩

example : (run ⟨16, 8⟩ "main" countdownScript {}).1.cutOff = true := by decide +kernel

end Script

end Scriptlet
