import Scriptlet.Proofs.Grammar.Run

/-!
Readings: which tokens a successful run of a rule consumes, and what it makes of them. A reading
names no depth and no state. Rules succeed exactly where there is a reading, provided that they may
nest deep enough for the tokens ahead.
-/

namespace Scriptlet

namespace Token

def Named (token : Token) (name : String) : Prop :=
  token.kind = .identifier ∧ token.payload = some (.text name)

def IsKeyword (token : Token) (word : String) : Prop :=
  token.kind = .keyword ∧ token.payload = some (.text word)

theorem text_eq_some {token : Token} {text : String} :
    token.text? = some text ↔ token.payload = some (.text text) := by
  unfold text?
  split
  next written payload => simp [payload]
  next other =>
    simp only [reduceCtorEq, false_iff]
    exact other text

theorem identifier_eq_some {token : Token} {name : String} :
    token.identifier? = some name ↔ token.Named name := by
  unfold identifier? Named
  by_cases kind : token.kind = .identifier
  · simp [kind, text_eq_some]
  · simp [kind]

theorem fits_keyword {token : Token} {word : String} :
    token.fits .keyword (some (.text word)) = true ↔ token.IsKeyword word := by
  unfold fits IsKeyword
  rcases token with ⟨kind, _ | ⟨text⟩ | _ | _, line⟩ <;> simp [Payload.agrees]

theorem fits_kind {token : Token} {kind : Kind} :
    token.fits kind none = true ↔ token.kind = kind := by
  simp [fits]

end Token

namespace Grammar

open Scriptlet.Parser

/-- What a rule reads, together with what it makes of it. `climb` starts from the node that
operators are folded into, and `branches` are what may follow the block of a conditional. -/
inductive Phrase where
  | primary (node : Node)
  | expression (floor : Nat) (node : Node)
  | climb (floor : Nat) (left node : Node)
  | items (close : Token.Kind) (nodes : List Node)
  | bracketed (opening close : Token.Kind) (nodes : List Node)
  | condition (node : Node)
  | parameters (names : List String)
  | statements (nodes : List Node)
  | block (node : Node)
  | conditional (node : Node)
  | branches (elseNode : Option Node)
  | statement (node : Node)

/-- Whether no operator that binds at `floor` or tighter comes next. -/
def Settled (floor : Nat) (tokens : List Token) : Prop :=
  ∀ token op precedence, tokens.head? = some token →
    binaryOperator? token = some (op, precedence) → precedence < floor

theorem Settled.mono {least floor : Nat} {tokens : List Token} (settled : Settled least tokens)
    (above : least ≤ floor) : Settled floor tokens :=
  fun token op precedence head found =>
    Nat.lt_of_lt_of_le (settled token op precedence head found) above

/-- Whether a name before these tokens stands for a variable. -/
def Separate (tokens : List Token) : Prop :=
  ∀ token, tokens.head? = some token → token.kind ≠ .openParen ∧ token.kind ≠ .doubleColon

/-- `Reading phrase before after`: with the tokens `before` ahead, the rule for `phrase` makes it
and leaves the tokens `after`. -/
inductive Reading : Phrase → List Token → List Token → Prop
  | unary {token : Token} {text : String} {operand : Node} {rest after : List Token} :
      token.kind = .operator → token.payload = some (.text text) →
      (Operator.ofText text).isUnary = true →
      Reading (.expression Operator.unaryPrecedence operand) rest after →
      Reading (.primary (.unary token.line (.ofText text) operand)) (token :: rest) after
  | array {first : Token} {elements : List Node} {rest after : List Token} :
      Reading (.bracketed .openBracket .closeBracket elements) (first :: rest) after →
      Reading (.primary (.array first.line elements)) (first :: rest) after
  | int {token : Token} {value : Int} {rest : List Token} :
      token.kind = .integer → token.payload = some (.integer value) →
      Reading (.primary (.int token.line value)) (token :: rest) rest
  | float {token : Token} {value : Float} {rest : List Token} :
      token.kind = .float → token.payload = some (.float value) →
      Reading (.primary (.float token.line value)) (token :: rest) rest
  | string {token : Token} {text : String} {rest : List Token} :
      token.kind = .string → token.payload = some (.text text) →
      Reading (.primary (.string token.line text)) (token :: rest) rest
  | reference {token : Token} {name : String} {rest : List Token} :
      token.Named name → Separate rest →
      Reading (.primary (.reference token.line name)) (token :: rest) rest
  | call {token : Token} {name : String} {arguments : List Node} {rest after : List Token} :
      token.Named name → Reading (.bracketed .openParen .closeParen arguments) rest after →
      Reading (.primary (.call token.line name arguments)) (token :: rest) after
  | member {token colons callee : Token} {moduleName name : String} {arguments : List Node}
      {rest after : List Token} :
      token.Named moduleName → colons.kind = .doubleColon → callee.Named name →
      Reading (.bracketed .openParen .closeParen arguments) rest after →
      Reading (.primary (.member token.line moduleName callee.line name arguments))
        (token :: colons :: callee :: rest) after
  | group {opening closing : Token} {node : Node} {inner after : List Token} :
      opening.kind = .openParen → Reading (.expression 0 node) inner (closing :: after) →
      closing.kind = .closeParen → Reading (.primary node) (opening :: inner) after
  | expression {floor : Nat} {left node : Node} {before middle after : List Token} :
      Reading (.primary left) before middle → Reading (.climb floor left node) middle after →
      Reading (.expression floor node) before after
  | settle {floor : Nat} {left : Node} {tokens : List Token} :
      Settled floor tokens → Reading (.climb floor left left) tokens tokens
  | fold {floor precedence : Nat} {op : Operator} {token : Token} {left right node : Node}
      {rest middle after : List Token} :
      binaryOperator? token = some (op, precedence) → floor ≤ precedence →
      Reading (.expression precedence right) rest middle →
      Reading (.climb floor (.binary token.line op left right) node) middle after →
      Reading (.climb floor left node) (token :: rest) after
  | noItem {close : Token.Kind} {tokens : List Token} :
      tokens = [] ∨ leads close none tokens = true → Reading (.items close []) tokens tokens
  | item {close : Token.Kind} {node : Node} {nodes : List Node}
      {before middle after : List Token} :
      leads close none before = false → Reading (.expression 0 node) before middle →
      Reading (.items close nodes) (skip .comma none middle) after →
      Reading (.items close (node :: nodes)) before after
  | bracketed {opening close : Token.Kind} {first last : Token} {nodes : List Node}
      {inner after : List Token} :
      first.kind = opening → Reading (.items close nodes) inner (last :: after) →
      last.kind = close → Reading (.bracketed opening close nodes) (first :: inner) after
  | condition {opening closing : Token} {node : Node} {inner after : List Token} :
      opening.kind = .openParen → Reading (.expression 0 node) inner (closing :: after) →
      closing.kind = .closeParen → Reading (.condition node) (opening :: inner) after
  | noParameter {closing : Token} {rest : List Token} :
      closing.kind = .closeParen → Reading (.parameters []) (closing :: rest) (closing :: rest)
  | parameter {token : Token} {name : String} {names : List String} {rest after : List Token} :
      token.Named name → Reading (.parameters names) (skip .comma none rest) after →
      Reading (.parameters (name :: names)) (token :: rest) after
  | noStatement {tokens : List Token} :
      tokens = [] ∨ leads .closeBrace none tokens = true →
      Reading (.statements []) tokens tokens
  | statements {node : Node} {nodes : List Node} {before middle after : List Token} :
      leads .closeBrace none before = false → Reading (.statement node) before middle →
      Reading (.statements nodes) middle after → Reading (.statements (node :: nodes)) before after
  | block {opening first closing : Token} {nodes : List Node} {inner after : List Token} :
      opening.kind = .openBrace →
      Reading (.statements nodes) (first :: inner) (closing :: after) →
      closing.kind = .closeBrace →
      Reading (.block (.sequence first.line nodes)) (opening :: first :: inner) after
  | conditional {first : Token} {test thenBlock : Node} {elseNode : Option Node}
      {rest middle last after : List Token} :
      Reading (.condition test) (skip .keyword (some "if") (first :: rest)) middle →
      Reading (.block thenBlock) middle last → Reading (.branches elseNode) last after →
      Reading (.conditional (.conditional first.line test thenBlock elseNode)) (first :: rest) after
  | noBranch {tokens : List Token} :
      leads .keyword (some "elif") tokens = false → leads .keyword (some "else") tokens = false →
      Reading (.branches none) tokens tokens
  | elifBranch {token : Token} {node : Node} {rest after : List Token} :
      token.IsKeyword "elif" → Reading (.conditional node) rest after →
      Reading (.branches (some node)) (token :: rest) after
  | elseBranch {token : Token} {node : Node} {rest after : List Token} :
      token.IsKeyword "else" → Reading (.block node) rest after →
      Reading (.branches (some node)) (token :: rest) after
  | ifStatement {token : Token} {node : Node} {rest after : List Token} :
      token.IsKeyword "if" → Reading (.conditional node) (token :: rest) after →
      Reading (.statement node) (token :: rest) after
  | whileStatement {token : Token} {test body : Node} {rest middle after : List Token} :
      token.IsKeyword "while" → Reading (.condition test) rest middle →
      Reading (.block body) middle after →
      Reading (.statement (.whileLoop token.line test body)) (token :: rest) after
  | forStatement {token opening element closing : Token} {name : String} {array body : Node}
      {rest middle after : List Token} :
      token.IsKeyword "for" → opening.kind = .openParen → element.Named name →
      closing.kind = .closeParen → Reading (.condition array) rest middle →
      Reading (.block body) middle after →
      Reading (.statement (.forLoop token.line name array body))
        (token :: opening :: element :: closing :: rest) after
  | functionStatement {token callee opening closing : Token} {name : String}
      {names : List String} {body : Node} {rest middle after : List Token} :
      token.IsKeyword "fun" → callee.Named name → opening.kind = .openParen →
      Reading (.parameters names) rest (closing :: middle) → closing.kind = .closeParen →
      Reading (.block body) middle after →
      Reading (.statement (.function callee.line name names body))
        (token :: callee :: opening :: rest) after
  | returnNothing {token semicolon : Token} {after : List Token} :
      token.IsKeyword "return" → semicolon.kind = .semicolon →
      Reading (.statement (.returns token.line none)) (token :: semicolon :: after) after
  | returnValue {token semicolon : Token} {value : Node} {rest after : List Token} :
      token.IsKeyword "return" → leads .semicolon none rest = false →
      Reading (.expression 0 value) rest (semicolon :: after) → semicolon.kind = .semicolon →
      Reading (.statement (.returns token.line (some value))) (token :: rest) after
  | importStatement {token moduleToken semicolon : Token} {moduleName : String}
      {after : List Token} :
      token.IsKeyword "import" → moduleToken.Named moduleName → semicolon.kind = .semicolon →
      Reading (.statement (.imports moduleToken.line moduleName))
        (token :: moduleToken :: semicolon :: after) after
  | assignment {token sign semicolon : Token} {name : String} {form : Assignment} {value : Node}
      {rest after : List Token} :
      token.Named name → assignmentForm? sign = some form →
      Reading (.expression 0 value) rest (semicolon :: after) → semicolon.kind = .semicolon →
      Reading (.statement (.assign token.line name form value)) (token :: sign :: rest) after
  | expressionStatement {first semicolon : Token} {value : Node} {rest after : List Token} :
      startsExpression first.kind = true →
      (first.kind = .identifier → rest.head?.any (fun next => assigns next.kind) = false) →
      Reading (.expression 0 value) (first :: rest) (semicolon :: after) →
      semicolon.kind = .semicolon →
      Reading (.statement (.expression value.line value)) (first :: rest) after

def Phrase.least : Phrase → Nat
  | primary _ | expression .. | block _ | conditional _ | statement _ => 1
  | bracketed .. => 2
  | condition _ => 3
  | climb .. | items .. | parameters _ | statements _ | branches _ => 0

theorem length_skip_le (kind : Token.Kind) (text : Option String) (tokens : List Token) :
    (skip kind text tokens).length ≤ tokens.length := by
  unfold skip
  split
  · rw [List.length_tail]
    omega
  · omega

theorem Reading.length_le {phrase : Phrase} {before after : List Token}
    (reading : Reading phrase before after) :
    after.length + phrase.least ≤ before.length := by
  induction reading with
  | @item _ _ _ _ middle _ _ _ _ ihNode ihNodes =>
      have shorter := length_skip_le .comma none middle
      simp only [Phrase.least] at ihNode ihNodes ⊢
      omega
  | @parameter _ _ _ rest _ _ _ ih =>
      have shorter := length_skip_le .comma none rest
      simp only [Phrase.least, List.length_cons] at ih ⊢
      omega
  | @conditional first _ _ _ rest _ _ _ _ _ _ ihTest ihBlock ihBranches =>
      have shorter := length_skip_le .keyword (some "if") (first :: rest)
      simp only [Phrase.least] at ihTest ihBlock ihBranches ⊢
      omega
  | _ =>
      simp only [Phrase.least, List.length_cons] at *
      omega

theorem leads_keyword {token : Token} {word : String} (keyword : token.IsKeyword word)
    (other : String) (rest : List Token) :
    leads .keyword (some other) (token :: rest) = decide (word = other) := by
  have fitting := @Token.fits_keyword token other
  simp only [leads, List.head?_cons, Option.any_some, Option.map_some]
  by_cases same : word = other
  · subst same
    simp [fitting.mpr keyword]
  · have unlike : ¬ token.IsKeyword other := by
      intro also
      have := keyword.2.symm.trans also.2
      simp only [Option.some.injEq, Token.Payload.text.injEq] at this
      exact same this
    simp only [same, decide_false, Bool.eq_false_iff]
    exact fun fits => unlike (fitting.mp fits)

theorem skip_keyword {token : Token} {word : String} (keyword : token.IsKeyword word)
    (rest : List Token) : skip .keyword (some word) (token :: rest) = rest := by
  simp [skip, leads_keyword keyword]

theorem skip_of_kind_ne {kind : Token.Kind} {token : Token} {rest : List Token}
    (text : Option String) (other : token.kind ≠ kind) :
    skip kind text (token :: rest) = token :: rest := by
  have unlike : token.fits kind (text.map Token.Payload.text) = false := by
    simp [Token.fits, other]
  simp [skip, leads, unlike]

def Optional (fits : Token → Prop) (tokens : List Token) : Prop :=
  tokens = [] ∨ ∃ token, tokens = [token] ∧ fits token

def opensPrimary (kind : Token.Kind) : Bool :=
  startsExpression kind || kind == .openBracket

theorem Reading.expression_opens {floor : Nat} {node : Node} {before after : List Token}
    (reading : Reading (.expression floor node) before after) :
    ∃ first rest, before = first :: rest ∧ opensPrimary first.kind = true := by
  cases reading with
  | expression head _ =>
      cases head with
      | unary kind _ _ _ | int kind _ | float kind _ | string kind _ | group kind _ _ =>
          exact ⟨_, _, rfl, by rw [kind]; rfl⟩
      | reference named _ | call named _ | member named _ _ _ =>
          exact ⟨_, _, rfl, by rw [named.1]; rfl⟩
      | array bracketed =>
          cases bracketed with
          | bracketed kind _ _ => exact ⟨_, _, rfl, by rw [kind]; rfl⟩

theorem Reading.leads_expression {kind : Token.Kind} {floor : Nat} {node : Node}
    {before after : List Token} (reading : Reading (.expression floor node) before after)
    (other : opensPrimary kind = false) : leads kind none before = false := by
  obtain ⟨first, rest, rfl, opens⟩ := reading.expression_opens
  rw [Bool.eq_false_iff]
  intro leading
  rw [Token.fits_kind.mp leading, other] at opens
  cases opens

theorem Reading.parameter_of_optional {token : Token} {name : String} {names : List String}
    {comma before after : List Token} (reading : Reading (.parameters names) before after)
    (named : token.Named name) (optional : Optional (·.kind = .comma) comma) :
    Reading (.parameters (name :: names)) (token :: (comma ++ before)) after := by
  refine .parameter named ?_
  rcases optional with rfl | ⟨separator, rfl, kind⟩
  · cases reading with
    | noParameter closes =>
        rw [List.nil_append, skip_of_kind_ne none (by simp [closes])]
        exact .noParameter closes
    | parameter next rest =>
        rw [List.nil_append, skip_of_kind_ne none (by simp [next.1])]
        exact .parameter next rest
  · have skipped : skip .comma none (separator :: before) = before :=
      if_pos (Token.fits_kind.mpr kind)
    rwa [List.singleton_append, skipped]

theorem Reading.block_of_statements {opening closing : Token} {nodes : List Node}
    {tokens after : List Token} (openingKind : opening.kind = .openBrace)
    (reading : Reading (.statements nodes) (tokens ++ closing :: after) (closing :: after))
    (closingKind : closing.kind = .closeBrace) :
    ∃ line, Reading (.block (.sequence line nodes)) (opening :: (tokens ++ closing :: after))
      after := by
  cases tokens with
  | nil => exact ⟨_, .block openingKind reading closingKind⟩
  | cons first others => exact ⟨_, .block openingKind reading closingKind⟩

/-- The keyword of a conditional is optional where the rule for conditionals is entered. -/
theorem Reading.conditional_of_optional {ifKeyword before middle last after : List Token}
    {test thenBlock : Node} {elseNode : Option Node}
    (optional : Optional (·.IsKeyword "if") ifKeyword)
    (testReading : Reading (.condition test) before middle)
    (blockReading : Reading (.block thenBlock) middle last)
    (branchesReading : Reading (.branches elseNode) last after) :
    ∃ line, Reading (.conditional (.conditional line test thenBlock elseNode))
      (ifKeyword ++ before) after := by
  rcases optional with rfl | ⟨token, rfl, isKeyword⟩
  · cases testReading with
    | @condition opening _ _ _ _ openingKind inner closingKind =>
        refine ⟨opening.line, .conditional ?_ blockReading branchesReading⟩
        rw [skip_of_kind_ne (some "if") (by simp [openingKind])]
        exact .condition openingKind inner closingKind
  · refine ⟨token.line, .conditional ?_ blockReading branchesReading⟩
    rwa [skip_keyword isKeyword]

def Branchless (tokens : List Token) : Prop :=
  leads .keyword (some "elif") tokens = false ∧ leads .keyword (some "else") tokens = false

theorem branchless_of_kind_ne {token : Token} {rest : List Token}
    (other : token.kind ≠ .keyword) : Branchless (token :: rest) := by
  constructor <;> simp [leads, Token.fits, other]

/-- A statement begins neither with a closing brace nor with a branch of a conditional. -/
theorem Reading.statement_opens {node : Node} {before after : List Token}
    (reading : Reading (.statement node) before after) :
    leads .closeBrace none before = false ∧ Branchless before := by
  have keyword {token : Token} {word : String} {others : List Token}
      (isKeyword : token.IsKeyword word) (noElif : word ≠ "elif") (noElse : word ≠ "else") :
      leads .closeBrace none (token :: others) = false ∧ Branchless (token :: others) := by
    refine ⟨by simp [leads, Token.fits, isKeyword.1], ?_, ?_⟩
    · simp [leads_keyword isKeyword, noElif]
    · simp [leads_keyword isKeyword, noElse]
  cases reading with
  | ifStatement isKeyword _ | whileStatement isKeyword _ _ | returnNothing isKeyword _
  | returnValue isKeyword _ _ _ | importStatement isKeyword _ _ =>
      exact keyword isKeyword (by decide) (by decide)
  | forStatement isKeyword _ _ _ _ _ => exact keyword isKeyword (by decide) (by decide)
  | functionStatement isKeyword _ _ _ _ _ => exact keyword isKeyword (by decide) (by decide)
  | assignment named _ _ _ =>
      refine ⟨by simp [leads, Token.fits, named.1], branchless_of_kind_ne ?_⟩
      simp [named.1]
  | @expressionStatement first _ _ _ _ starts _ value _ =>
      refine ⟨value.leads_expression rfl, branchless_of_kind_ne fun kind => ?_⟩
      rw [kind] at starts
      cases starts

theorem Reading.statements_branchless {nodes : List Node} {before after : List Token}
    (reading : Reading (.statements nodes) before after) : Branchless before := by
  cases reading with
  | statements _ statement _ => exact statement.statement_opens.2
  | noStatement closed =>
      cases before with
      | nil => exact ⟨rfl, rfl⟩
      | cons token rest =>
          rcases closed with empty | closes
          · cases empty
          · exact branchless_of_kind_ne (by simp [Token.fits_kind.mp closes])

end Grammar

end Scriptlet
