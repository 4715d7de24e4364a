import Scriptlet.Proofs.Evaluation.Vetting
import Scriptlet.Proofs.Grammar.Ground
import Scriptlet.Proofs.Script.Read
import Scriptlet.Proofs.Token.Source

/-!
Where faults are. A fault of lexing lies where its lexeme begins, a fault of parsing at the last
token that was consumed, and a fault of evaluation at a node of the program. All of these are lines
of the source. Only running out of levels has no line.
-/

namespace Scriptlet

/-- Whether a line is that of a token, or the first where there are no tokens. -/
def Token.HaveLine (tokens : List Token) (line : Nat) : Prop :=
  (∃ token ∈ tokens, token.line = line) ∨ tokens = [] ∧ line = 1

namespace Token

variable {source : String} {tokens : List Token} {line : Nat}

theorem haveLine_lastLine (cursor : Cursor) : HaveLine cursor.tokens cursor.lastLine := by
  obtain ⟨consumed, ahead, overrun, file⟩ := cursor
  cases consumed with
  | cons token rest => exact .inl ⟨token, by simp [Cursor.tokens], rfl⟩
  | nil =>
      cases ahead with
      | cons token rest => exact .inl ⟨token, List.mem_cons_self, rfl⟩
      | nil => exact .inr ⟨rfl, rfl⟩

theorem haveLine_firstLine (tokens : List Token) : HaveLine tokens (Grammar.firstLine tokens) := by
  cases tokens with
  | nil => exact .inr ⟨rfl, rfl⟩
  | cons token rest => exact .inl ⟨token, List.mem_cons_self, rfl⟩

theorem HaveLine.inside (haveLine : HaveLine tokens line)
    (scanned : Token.scan source = .ok tokens) : 1 ≤ line ∧ line ≤ lineCount source := by
  rcases haveLine with ⟨token, member, rfl⟩ | ⟨_, rfl⟩
  · exact (lexical_of_scan scanned member).2
  · unfold lineCount
    omega

end Token

namespace Cause

theorem title_eq_lexException {cause : Cause} :
    cause.title = "LexException" ↔ cause.stage = .lexing := by
  cases cause with
  | stated stage message => cases stage <;> simp [title, stage]
  | _ => simp [title, stage]

theorem title_ne_lexException {cause : Cause} (later : cause.stage ≠ .lexing) :
    cause.title ≠ "LexException" :=
  fun same => later (title_eq_lexException.mp same)

theorem stage_of_syntactic {cause : Cause} (syntactic : cause.isSyntactic = true) :
    cause.stage = .parsing := by
  cases cause with
  | nestingTooDeep => cases syntactic
  | _ => exact beq_iff_eq.mp syntactic

end Cause

namespace Node

variable {limit : Nat} {tokens : List Token} {file : Option String}

theorem place_of_parse {fault : Fault} (failed : (Node.parse limit tokens file).1 = .error fault) :
    fault.cause.stage = .parsing ∧ fault.file = file ∧
      ∃ line, fault.line = some line ∧ Token.HaveLine tokens line := by
  obtain ⟨reached, cause⟩ := fault_of_parse_at failed
  obtain ⟨sameTokens, _, sameFile, _⟩ := parse_moves limit tokens file
  have stage : fault.cause.stage = .parsing := by
    rcases cause with syntactic | deep
    · exact Cause.stage_of_syntactic syntactic
    · rw [deep]
      rfl
  have haveLine := Token.haveLine_lastLine (Node.parse limit tokens file).2.cursor
  rw [sameTokens] at haveLine
  refine ⟨stage, ?_, _, congrArg Fault.line reached, haveLine⟩
  exact (congrArg Fault.file reached).trans sameFile

theorem haveLine_of_occurs {tree node : Node} (parsed : (Node.parse limit tokens file).1 = .ok tree)
    (occurs : Occurs node tree) : Token.HaveLine tokens node.line := by
  obtain ⟨nodes, rfl, grounded⟩ := grounded_of_parse parsed
  rcases occurs.cases_tail with rfl | ⟨child, occurs, below⟩
  · exact Token.haveLine_firstLine tokens
  · have inside : child ∈ nodes := by simpa [inner, bodies] using below
    exact .inl (grounded child inside node occurs).line

end Node

namespace Script

structure PointsInto (limit : Nat) (file source : String) (fault : Fault) : Prop where
  line : fault.cause ≠ .stackOverflow →
    ∃ line, fault.line = some line ∧ 1 ≤ line ∧ line ≤ lineCount source
  overflow : fault.cause = .stackOverflow → fault.line = none
  origin : fault.file = if fault.cause.title = "LexException" then none else some file
  node : fault.cause.stage = .evaluation → fault.cause ≠ .stackOverflow →
    ∃ program node, (read limit file source).1 = .ok program ∧ Node.Occurs node program.tree ∧
      fault.line = some node.line

variable {limit : Nat} {file source : String} {fault : Fault}

theorem pointsInto_of_scan (failed : Token.scan source = .error fault) :
    PointsInto limit file source fault := by
  obtain ⟨stage, noFile, line, known, first, last⟩ := Token.fault_of_scan failed
  refine ⟨fun _ => ⟨line, known, first, last⟩, fun overflow => ?_, ?_, fun late => ?_⟩
  · rw [overflow] at stage
    cases stage
  · rw [if_pos (Cause.title_eq_lexException.mpr stage), noFile]
  · cases late.symm.trans stage

theorem pointsInto_of_parse {tokens : List Token} (scanned : Token.scan source = .ok tokens)
    (failed : (Node.parse limit tokens (some file)).1 = .error fault) :
    PointsInto limit file source fault := by
  obtain ⟨stage, named, line, known, haveLine⟩ := Node.place_of_parse failed
  refine ⟨fun _ => ⟨line, known, haveLine.inside scanned⟩, fun overflow => ?_, ?_, fun late => ?_⟩
  · rw [overflow] at stage
    cases stage
  · rw [if_neg (Cause.title_ne_lexException (by simp [stage])), named]
  · cases late.symm.trans stage

theorem pointsInto_of_raised {program : Program} {node : Node}
    (wasRead : (read limit file source).1 = .ok program) (occurs : Node.Occurs node program.tree)
    (raised : fault.RaisedAt file node) : PointsInto limit file source fault := by
  obtain ⟨scanned, parsed⟩ := scan_of_read wasRead
  obtain ⟨stage, shallow, _, _⟩ := raised.cause.answers
  have inside := (Node.haveLine_of_occurs parsed occurs).inside scanned
  refine ⟨fun _ => ⟨node.line, raised.line, inside⟩, fun overflow => absurd overflow shallow, ?_,
    fun _ _ => ⟨program, node, wasRead, occurs, raised.line⟩⟩
  rw [if_neg (Cause.title_ne_lexException (by simp [stage])), raised.file]

theorem pointsInto_of_overflow :
    PointsInto limit file source ⟨.stackOverflow, none, some file⟩ where
  line placed := absurd rfl placed
  overflow _ := rfl
  origin := rfl
  node _ placed := absurd rfl placed

/-- Wherever a run from a fresh scope fails, its fault points into the source. -/
theorem run_failure_points_into_source (bounds : Bounds) (file source : String) (fault : Fault)
    (failed : (run bounds file source {}).1 = .failed fault) :
    PointsInto bounds.limit file source fault := by
  cases wasRead : (read bounds.limit file source).1 with
  | error met =>
      cases (run_of_refused wasRead {}).symm.trans failed
      rcases fault_of_read wasRead with unscanned | ⟨tokens, scanned, unparsed⟩
      · exact pointsInto_of_scan unscanned
      · exact pointsInto_of_parse scanned unparsed
  | ok program =>
      obtain ⟨machine, fresh, _, ran⟩ := run_of_read wasRead {}
      rw [ran, Eval.run_eq_outcome] at failed
      -- No function is in scope at first, so the run stays among the nodes of the program.
      have bodies : machine.scope.Keeps fun node => Node.Occurs node program.tree := by
        rw [fresh]
        exact fun _ member => absurd member List.not_mem_nil
      have among := Node.evaluate_endsAmong (Node.closed_occurs program.tree)
        (fun _ _ => rfl : ∀ node, Node.Occurs node program.tree → (fun _ => true) node = true)
        (pure .invalid) ⟨file, bounds.rounds⟩ bounds.limit .refl rfl rfl bodies
      rcases Eval.fault_of_ending failed with stopped | rfl
      · obtain ⟨node, occurs, raised⟩ := among.faults fault stopped
        exact pointsInto_of_raised wasRead occurs raised
      · exact pointsInto_of_overflow

/-- A division by zero on the second line, in a call from within a loop. -/
def quotientScript : String :=
  "fun f(a) " ++ block "\n  return a / 0;\n" ++ "\nfor (e) ([1, 2]) " ++
    block ("\n  if (e > 1) " ++ block "\n    io::println(f(e));\n  " ++ "\n") ++ "\n"

theorem run_failure_points_into_quotientScript :
    ∃ fault, (run ⟨100, 8⟩ "main" quotientScript {}).1 = .failed fault ∧ fault.line = some 2 ∧
      PointsInto 100 "main" quotientScript fault := by
  have line : (run ⟨100, 8⟩ "main" quotientScript {}).1.fault?.map Fault.line = some (some 2) := by
    decide +kernel
  obtain ⟨fault, found, known⟩ := Option.map_eq_some_iff.mp line
  have failed := Ending.eq_failed found
  exact ⟨fault, failed, known, run_failure_points_into_source ⟨100, 8⟩ "main" quotientScript fault
    failed⟩

end Script

end Scriptlet
