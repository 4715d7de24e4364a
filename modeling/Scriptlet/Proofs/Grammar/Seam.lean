import Scriptlet.Proofs.Grammar.Form
import Scriptlet.Proofs.Node.Lines
import Scriptlet.Proofs.Token.Seam

/-!
Programs joined. The rules look one token past what they consume, but the statements of a program
that stands before another one end alike: nothing that a statement begins with goes on a statement
that is complete. Lines make no difference to what is read.
-/

namespace Scriptlet

namespace Token

variable {token : Token} (place : Nat → Nat)

theorem kind_relined {kind : Kind} (ofKind : token.kind = kind) :
    (token.relined place).kind = kind :=
  ofKind

theorem payload_relined {payload : Option Payload} (carries : token.payload = payload) :
    (token.relined place).payload = payload :=
  carries

theorem Named.relined {name : String} (named : token.Named name) :
    (token.relined place).Named name :=
  named

theorem IsKeyword.relined {word : String} (isKeyword : token.IsKeyword word) :
    (token.relined place).IsKeyword word :=
  isKeyword

end Token

namespace Grammar

section Relined

variable (place : Nat → Nat)

def Phrase.relined : Phrase → Phrase
  | primary node => primary (node.relined place)
  | expression floor node => expression floor (node.relined place)
  | climb floor left node => climb floor (left.relined place) (node.relined place)
  | items close nodes => items close (Node.relinedAll place nodes)
  | bracketed opening close nodes => bracketed opening close (Node.relinedAll place nodes)
  | condition node => condition (node.relined place)
  | parameters names => parameters names
  | statements nodes => statements (Node.relinedAll place nodes)
  | block node => block (node.relined place)
  | conditional node => conditional (node.relined place)
  | branches elseNode => branches (elseNode.map (Node.relined place))
  | statement node => statement (node.relined place)

theorem leads_relined (kind : Token.Kind) (text : Option String) (tokens : List Token) :
    leads kind text (tokens.map (Token.relined place)) = leads kind text tokens := by
  cases tokens <;> rfl

theorem skip_relined (kind : Token.Kind) (text : Option String) (tokens : List Token) :
    skip kind text (tokens.map (Token.relined place)) =
      (skip kind text tokens).map (Token.relined place) := by
  unfold skip
  rw [leads_relined, ← List.map_tail]
  split <;> rfl

theorem Settled.relined {floor : Nat} {tokens : List Token} (settled : Settled floor tokens) :
    Settled floor (tokens.map (Token.relined place)) := by
  intro token op precedence head found
  cases tokens with
  | nil => cases head
  | cons first rest =>
      cases head
      exact settled first op precedence rfl found

theorem Separate.relined {tokens : List Token} (separate : Separate tokens) :
    Separate (tokens.map (Token.relined place)) := by
  intro token head
  cases tokens with
  | nil => cases head
  | cons first rest =>
      cases head
      exact separate first rfl

theorem Reading.relined {phrase : Phrase} {before after : List Token}
    (reading : Reading phrase before after) :
    Reading (phrase.relined place) (before.map (Token.relined place))
      (after.map (Token.relined place)) := by
  induction reading with
  | unary kind payload isUnary _ ih =>
      exact .unary (Token.kind_relined place kind) (Token.payload_relined place payload) isUnary ih
  | array _ ih => exact .array ih
  | int kind payload =>
      exact .int (Token.kind_relined place kind) (Token.payload_relined place payload)
  | float kind payload =>
      exact .float (Token.kind_relined place kind) (Token.payload_relined place payload)
  | string kind payload =>
      exact .string (Token.kind_relined place kind) (Token.payload_relined place payload)
  | reference named separate => exact .reference (named.relined place) (separate.relined place)
  | call named _ ih => exact .call (named.relined place) ih
  | member named colons callee _ ih =>
      exact .member (named.relined place) (Token.kind_relined place colons) (callee.relined place)
        ih
  | group opens _ closes ih => exact .group (Token.kind_relined place opens) ih closes
  | expression _ _ ihLeft ihClimb => exact .expression ihLeft ihClimb
  | settle settled => exact .settle (settled.relined place)
  | fold found above _ _ ihRight ihClimb => exact .fold found above ihRight ihClimb
  | noItem ends =>
      refine .noItem (ends.imp (fun empty => ?_) fun closes => ?_)
      · rw [empty]
        rfl
      · rw [leads_relined]
        exact closes
  | item goesOn _ _ ihNode ihNodes =>
      rw [← skip_relined] at ihNodes
      exact .item ((leads_relined place _ _ _).trans goesOn) ihNode ihNodes
  | bracketed opens _ closes ih => exact .bracketed (Token.kind_relined place opens) ih closes
  | condition opens _ closes ih => exact .condition (Token.kind_relined place opens) ih closes
  | noParameter closes => exact .noParameter (Token.kind_relined place closes)
  | parameter named _ ih =>
      rw [← skip_relined] at ih
      exact .parameter (named.relined place) ih
  | noStatement ends =>
      refine .noStatement (ends.imp (fun empty => ?_) fun closes => ?_)
      · rw [empty]
        rfl
      · rw [leads_relined]
        exact closes
  | statements goesOn _ _ ihNode ihNodes =>
      exact .statements ((leads_relined place _ _ _).trans goesOn) ihNode ihNodes
  | block opens _ closes ih => exact .block (Token.kind_relined place opens) ih closes
  | conditional _ _ _ ihTest ihBlock ihBranches =>
      rw [← skip_relined] at ihTest
      rw [Phrase.relined, Node.relined_conditional]
      exact .conditional ihTest ihBlock ihBranches
  | noBranch noElif noElse =>
      exact .noBranch ((leads_relined place _ _ _).trans noElif)
        ((leads_relined place _ _ _).trans noElse)
  | elifBranch isKeyword _ ih => exact .elifBranch (isKeyword.relined place) ih
  | elseBranch isKeyword _ ih => exact .elseBranch (isKeyword.relined place) ih
  | ifStatement isKeyword _ ih => exact .ifStatement (isKeyword.relined place) ih
  | whileStatement isKeyword _ _ ihTest ihBody =>
      exact .whileStatement (isKeyword.relined place) ihTest ihBody
  | forStatement isKeyword opens named closes _ _ ihArray ihBody =>
      exact .forStatement (isKeyword.relined place) (Token.kind_relined place opens)
        (named.relined place) (Token.kind_relined place closes) ihArray ihBody
  | functionStatement isKeyword named opens _ closes _ ihNames ihBody =>
      exact .functionStatement (isKeyword.relined place) (named.relined place)
        (Token.kind_relined place opens) ihNames closes ihBody
  | returnNothing isKeyword ends =>
      exact .returnNothing (isKeyword.relined place) (Token.kind_relined place ends)
  | returnValue isKeyword goesOn _ ends ih =>
      exact .returnValue (isKeyword.relined place) ((leads_relined place _ _ _).trans goesOn) ih
        ends
  | importStatement isKeyword named ends =>
      exact .importStatement (isKeyword.relined place) (named.relined place)
        (Token.kind_relined place ends)
  | @assignment _ sign _ _ _ _ _ _ named found _ ends ih =>
      have found : assignmentForm? (sign.relined place) = _ := found
      exact .assignment (named.relined place) found ih ends
  | @expressionStatement first _ value rest _ starts unassigned reading ends ih =>
      have line := Node.WellFormed.line_relined reading.formed place
      have starts : startsExpression (first.relined place).kind = true := starts
      have unassigned : (first.relined place).kind = .identifier →
          (rest.map (Token.relined place)).head?.any (fun next => assigns next.kind) = false := by
        cases rest <;> exact unassigned
      have statement := Reading.expressionStatement starts unassigned ih ends
      rw [line] at statement
      exact statement

end Relined

section Extended

variable {tokens : List Token} (more : List Token)

theorem head_append (nonempty : tokens ≠ []) : (tokens ++ more).head? = tokens.head? := by
  cases tokens with
  | nil => exact absurd rfl nonempty
  | cons => rfl

theorem leads_append (kind : Token.Kind) (text : Option String) (nonempty : tokens ≠ []) :
    leads kind text (tokens ++ more) = leads kind text tokens := by
  rw [leads, head_append more nonempty, leads]

theorem skip_append (kind : Token.Kind) (text : Option String) (nonempty : tokens ≠ []) :
    skip kind text (tokens ++ more) = skip kind text tokens ++ more := by
  unfold skip
  rw [leads_append more kind text nonempty]
  split
  · rw [List.tail_append_of_ne_nil nonempty]
  · rfl

theorem Settled.extended {floor : Nat} (settled : Settled floor tokens) (nonempty : tokens ≠ []) :
    Settled floor (tokens ++ more) := by
  unfold Settled
  rw [head_append more nonempty]
  exact settled

theorem Separate.extended (separate : Separate tokens) (nonempty : tokens ≠ []) :
    Separate (tokens ++ more) := by
  unfold Separate
  rw [head_append more nonempty]
  exact separate

def Phrase.ends : Phrase → Bool
  | block _ | conditional _ | branches _ | statement _ => true
  | _ => false

theorem Reading.middle_ne_nil {phrase : Phrase} {middle after : List Token}
    (reading : Reading phrase middle after) (nonempty : after ≠ []) : middle ≠ [] := by
  have longer := reading.length_le
  have size := List.length_pos_iff.mpr nonempty
  exact List.length_pos_iff.mp (by omega)

theorem Reading.ne_nil {phrase : Phrase} {before after : List Token}
    (reading : Reading phrase before after) (needs : 0 < phrase.least) : before ≠ [] := by
  have longer := reading.length_le
  exact List.length_pos_iff.mp (by omega)

theorem ne_nil_of_skip {kind : Token.Kind} {text : Option String}
    (nonempty : skip kind text tokens ≠ []) : tokens ≠ [] := by
  rintro rfl
  exact nonempty rfl

/-- Tokens added at the end change nothing, as long as the rule does not look at them, or looks
only for a branch that is not there. -/
theorem Reading.extended {phrase : Phrase} {before after : List Token}
    (reading : Reading phrase before after)
    (unseen : after = [] → phrase.ends = true ∧ Branchless more) :
    Reading phrase (before ++ more) (after ++ more) := by
  have tokensLeft {phrase : Phrase} {after : List Token} (goesOn : phrase.ends = false)
      (unseen : after = [] → phrase.ends = true ∧ Branchless more) : after ≠ [] := by
    intro empty
    rw [(unseen empty).1] at goesOn
    cases goesOn
  induction reading with
  | unary kind payload isUnary _ ih =>
      have left := tokensLeft rfl unseen
      exact .unary kind payload isUnary (ih fun empty => absurd empty left)
  | array _ ih =>
      have left := tokensLeft rfl unseen
      exact .array (ih fun empty => absurd empty left)
  | int kind payload => exact .int kind payload
  | float kind payload => exact .float kind payload
  | string kind payload => exact .string kind payload
  | reference named separate =>
      have left := tokensLeft rfl unseen
      exact .reference named (separate.extended more left)
  | call named _ ih =>
      have left := tokensLeft rfl unseen
      exact .call named (ih fun empty => absurd empty left)
  | member named colons callee _ ih =>
      have left := tokensLeft rfl unseen
      exact .member named colons callee (ih fun empty => absurd empty left)
  | group opens _ closes ih => exact .group opens (ih nofun) closes
  | expression _ climb ihLeft ihClimb =>
      have left := tokensLeft rfl unseen
      have middle := climb.middle_ne_nil left
      exact .expression (ihLeft fun empty => absurd empty middle)
        (ihClimb fun empty => absurd empty left)
  | settle settled =>
      have left := tokensLeft rfl unseen
      exact .settle (settled.extended more left)
  | fold found above _ climb ihRight ihClimb =>
      have left := tokensLeft rfl unseen
      have middle := climb.middle_ne_nil left
      exact .fold found above (ihRight fun empty => absurd empty middle)
        (ihClimb fun empty => absurd empty left)
  | noItem ends =>
      have left := tokensLeft rfl unseen
      refine .noItem (.inr ?_)
      rw [leads_append more _ _ left]
      exact ends.resolve_left left
  | item goesOn node items ihNode ihNodes =>
      have left := tokensLeft rfl unseen
      have middle := ne_nil_of_skip (items.middle_ne_nil left)
      have ihNodes := ihNodes fun empty => absurd empty left
      rw [← skip_append more _ _ middle] at ihNodes
      rw [← leads_append more _ _ (node.middle_ne_nil middle)] at goesOn
      exact .item goesOn (ihNode fun empty => absurd empty middle) ihNodes
  | bracketed opens _ closes ih => exact .bracketed opens (ih nofun) closes
  | condition opens _ closes ih => exact .condition opens (ih nofun) closes
  | noParameter closes => exact .noParameter closes
  | parameter named names ih =>
      have left := tokensLeft rfl unseen
      have ih := ih fun empty => absurd empty left
      rw [← skip_append more _ _ (ne_nil_of_skip (names.middle_ne_nil left))] at ih
      exact .parameter named ih
  | noStatement ends =>
      have left := tokensLeft rfl unseen
      refine .noStatement (.inr ?_)
      rw [leads_append more _ _ left]
      exact ends.resolve_left left
  | statements goesOn node nodes ihNode ihNodes =>
      have left := tokensLeft rfl unseen
      have middle := nodes.middle_ne_nil left
      rw [← leads_append more _ _ (node.middle_ne_nil middle)] at goesOn
      exact .statements goesOn (ihNode fun empty => absurd empty middle)
        (ihNodes fun empty => absurd empty left)
  | block opens _ closes ih => exact .block opens (ih nofun) closes
  | @conditional _ _ _ _ _ _ last after _ block branches ihTest ihBlock ihBranches =>
      -- The block may be the last thing that is read; then there are no branches either.
      have finished (empty : last = []) : after = [] := by
        have shorter := branches.length_le
        rw [empty] at shorter
        exact List.length_eq_zero_iff.mp (Nat.le_zero.mp (Nat.le_of_add_right_le shorter))
      have ihTest := ihTest fun empty => absurd empty (block.ne_nil Nat.one_pos)
      rw [← skip_append more _ _ (List.cons_ne_nil _ _)] at ihTest
      exact .conditional ihTest (ihBlock fun empty => ⟨rfl, (unseen (finished empty)).2⟩)
        (ihBranches fun empty => ⟨rfl, (unseen empty).2⟩)
  | @noBranch tokens noElif noElse =>
      by_cases empty : tokens = []
      · subst empty
        exact .noBranch (unseen rfl).2.1 (unseen rfl).2.2
      · refine .noBranch ?_ ?_
        · rw [leads_append more _ _ empty]
          exact noElif
        · rw [leads_append more _ _ empty]
          exact noElse
  | elifBranch isKeyword _ ih =>
      exact .elifBranch isKeyword (ih fun empty => ⟨rfl, (unseen empty).2⟩)
  | elseBranch isKeyword _ ih =>
      exact .elseBranch isKeyword (ih fun empty => ⟨rfl, (unseen empty).2⟩)
  | ifStatement isKeyword _ ih =>
      exact .ifStatement isKeyword (ih fun empty => ⟨rfl, (unseen empty).2⟩)
  | whileStatement isKeyword _ body ihTest ihBody =>
      exact .whileStatement isKeyword (ihTest fun empty => absurd empty (body.ne_nil Nat.one_pos))
        (ihBody fun empty => ⟨rfl, (unseen empty).2⟩)
  | forStatement isKeyword opens named closes _ body ihArray ihBody =>
      exact .forStatement isKeyword opens named closes
        (ihArray fun empty => absurd empty (body.ne_nil Nat.one_pos))
        (ihBody fun empty => ⟨rfl, (unseen empty).2⟩)
  | functionStatement isKeyword named opens _ closes _ ihNames ihBody =>
      exact .functionStatement isKeyword named opens (ihNames nofun) closes
        (ihBody fun empty => ⟨rfl, (unseen empty).2⟩)
  | returnNothing isKeyword ends => exact .returnNothing isKeyword ends
  | returnValue isKeyword goesOn value ends ih =>
      rw [← leads_append more _ _ (value.middle_ne_nil (List.cons_ne_nil _ _))] at goesOn
      exact .returnValue isKeyword goesOn (ih nofun) ends
  | importStatement isKeyword named ends => exact .importStatement isKeyword named ends
  | assignment named found _ ends ih => exact .assignment named found (ih nofun) ends
  | @expressionStatement first _ _ rest _ starts unassigned value ends ih =>
      have restLeft : rest ≠ [] := by
        have longer := value.length_le
        simp only [Phrase.least, List.length_cons] at longer
        exact List.length_pos_iff.mp (by omega)
      rw [← head_append more restLeft] at unassigned
      exact .expressionStatement starts unassigned (ih nofun) ends

end Extended

theorem Reading.statements_append {nodes others : List Node} {tokens more : List Token}
    (first : Reading (.statements nodes) tokens [])
    (second : Reading (.statements others) more []) :
    Reading (.statements (nodes ++ others)) (tokens ++ more) [] := by
  induction nodes generalizing tokens with
  | nil =>
      cases first
      exact second
  | cons node nodes ih =>
      cases first with
      | statements goesOn statement rest =>
          have statement := statement.extended more fun _ =>
            ⟨rfl, second.statements_branchless⟩
          exact .statements statement.statement_opens.1 statement (ih rest)

end Grammar

end Scriptlet
