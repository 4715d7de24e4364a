import Scriptlet.Proofs.Grammar.Derivation

/-!
Where the lines of a syntax tree come from. A layout lays a tree over the tokens it is written in,
whatever its lines are: each construct has its own stretch of the tokens, and one of these is the
mark of the construct. Parsing records in each node the line of its mark. The mark is the first
token of most constructs; but it is the operator of a binary expression, the name in a function
definition or an import, and what follows the keyword of an elif branch.
-/

namespace Scriptlet

structure Span where
  before : List Token := []
  mark : Token
  after : List Token := []

namespace Span

def tokens (span : Span) : List Token :=
  span.before ++ span.mark :: span.after

def first (span : Span) : Token :=
  span.before.headD span.mark

end Span

namespace Grammar

/-- What lies over tokens. An `operand` is an expression with the grouping parentheses around it,
and has the mark of the expression. -/
inductive Subject where
  | expression (node : Node) (span : Span)
  | operand (node : Node) (span : Span)
  | operands (nodes : List Node) (tokens : List Token)
  | condition (node : Node) (tokens : List Token)
  | parameters (names : List String) (tokens : List Token)
  | block (node : Node) (tokens : List Token)
  | statement (node : Node) (span : Span)
  | statements (nodes : List Node) (tokens : List Token)
  | branches (elseNode : Option Node) (tokens : List Token)

/-- `Laid holds subject`: a layout that has `holds` of every construct and its tokens. -/
inductive Laid (holds : Node → Span → Prop) : Subject → Prop
  | int {token : Token} {line : Nat} {value : Int} :
      token.kind = .integer → token.payload = some (.integer value) →
      holds (.int line value) ⟨[], token, []⟩ →
      Laid holds (.expression (.int line value) ⟨[], token, []⟩)
  | float {token : Token} {line : Nat} {value : Float} :
      token.kind = .float → token.payload = some (.float value) →
      holds (.float line value) ⟨[], token, []⟩ →
      Laid holds (.expression (.float line value) ⟨[], token, []⟩)
  | string {token : Token} {line : Nat} {text : String} :
      token.kind = .string → token.payload = some (.text text) →
      holds (.string line text) ⟨[], token, []⟩ →
      Laid holds (.expression (.string line text) ⟨[], token, []⟩)
  | reference {token : Token} {line : Nat} {name : String} :
      token.Named name → holds (.reference line name) ⟨[], token, []⟩ →
      Laid holds (.expression (.reference line name) ⟨[], token, []⟩)
  | unary {operator : Token} {line : Nat} {op : Operator} {operand : Node} {span : Span} :
      operator.kind = .operator → operator.payload = some (.text op.text) → op.isUnary = true →
      Laid holds (.operand operand span) →
      holds (.unary line op operand) ⟨[], operator, span.tokens⟩ →
      Laid holds (.expression (.unary line op operand) ⟨[], operator, span.tokens⟩)
  | binary {operator : Token} {line : Nat} {op : Operator} {precedence : Nat} {left right : Node}
      {leftSpan rightSpan : Span} :
      binaryOperator? operator = some (op, precedence) → Laid holds (.operand left leftSpan) →
      Laid holds (.operand right rightSpan) →
      holds (.binary line op left right) ⟨leftSpan.tokens, operator, rightSpan.tokens⟩ →
      Laid holds (.expression (.binary line op left right)
        ⟨leftSpan.tokens, operator, rightSpan.tokens⟩)
  | call {token opening closing : Token} {line : Nat} {name : String} {arguments : List Node}
      {items : List Token} :
      token.Named name → opening.kind = .openParen → Laid holds (.operands arguments items) →
      closing.kind = .closeParen →
      holds (.call line name arguments) ⟨[], token, opening :: (items ++ [closing])⟩ →
      Laid holds (.expression (.call line name arguments)
        ⟨[], token, opening :: (items ++ [closing])⟩)
  | member {token colons callee opening closing : Token} {line callLine : Nat}
      {moduleName name : String} {arguments : List Node} {items : List Token} :
      token.Named moduleName → colons.kind = .doubleColon → callee.Named name →
      opening.kind = .openParen → Laid holds (.operands arguments items) →
      closing.kind = .closeParen →
      holds (.call callLine name arguments) ⟨[], callee, opening :: (items ++ [closing])⟩ →
      holds (.member line moduleName callLine name arguments)
        ⟨[], token, colons :: callee :: opening :: (items ++ [closing])⟩ →
      Laid holds (.expression (.member line moduleName callLine name arguments)
        ⟨[], token, colons :: callee :: opening :: (items ++ [closing])⟩)
  | array {opening closing : Token} {line : Nat} {elements : List Node} {items : List Token} :
      opening.kind = .openBracket → Laid holds (.operands elements items) →
      closing.kind = .closeBracket →
      holds (.array line elements) ⟨[], opening, items ++ [closing]⟩ →
      Laid holds (.expression (.array line elements) ⟨[], opening, items ++ [closing]⟩)
  | operand {node : Node} {span : Span} :
      Laid holds (.expression node span) → Laid holds (.operand node span)
  | group {opening closing : Token} {node : Node} {span : Span} :
      opening.kind = .openParen → Laid holds (.operand node span) → closing.kind = .closeParen →
      Laid holds (.operand node ⟨opening :: span.before, span.mark, span.after ++ [closing]⟩)
  | noOperand : Laid holds (.operands [] [])
  | operands {node : Node} {nodes : List Node} {span : Span} {comma rest : List Token} :
      Laid holds (.operand node span) → Optional (·.kind = .comma) comma →
      Laid holds (.operands nodes rest) →
      Laid holds (.operands (node :: nodes) (span.tokens ++ (comma ++ rest)))
  | condition {opening closing : Token} {node : Node} {span : Span} :
      opening.kind = .openParen → Laid holds (.operand node span) → closing.kind = .closeParen →
      Laid holds (.condition node (opening :: (span.tokens ++ [closing])))
  | noParameter : Laid holds (.parameters [] [])
  | parameter {token : Token} {name : String} {names : List String} {comma rest : List Token} :
      token.Named name → Optional (·.kind = .comma) comma → Laid holds (.parameters names rest) →
      Laid holds (.parameters (name :: names) (token :: (comma ++ rest)))
  | block {opening closing : Token} {line : Nat} {nodes : List Node} {inner : List Token} :
      opening.kind = .openBrace → Laid holds (.statements nodes inner) →
      closing.kind = .closeBrace →
      Laid holds (.block (.sequence line nodes) (opening :: (inner ++ [closing])))
  | noStatement : Laid holds (.statements [] [])
  | statements {node : Node} {nodes : List Node} {span : Span} {rest : List Token} :
      Laid holds (.statement node span) → Laid holds (.statements nodes rest) →
      Laid holds (.statements (node :: nodes) (span.tokens ++ rest))
  | ifStatement {keyword : Token} {line : Nat} {test thenBlock : Node} {elseNode : Option Node}
      {condition body branches : List Token} :
      keyword.IsKeyword "if" → Laid holds (.condition test condition) →
      Laid holds (.block thenBlock body) → Laid holds (.branches elseNode branches) →
      holds (.conditional line test thenBlock elseNode)
        ⟨[], keyword, condition ++ (body ++ branches)⟩ →
      Laid holds (.statement (.conditional line test thenBlock elseNode)
        ⟨[], keyword, condition ++ (body ++ branches)⟩)
  | noBranch : Laid holds (.branches none [])
  | elifBranch {keyword mark : Token} {line : Nat} {test thenBlock : Node}
      {elseNode : Option Node} {after ifKeyword condition body branches : List Token} :
      keyword.IsKeyword "elif" → mark :: after = ifKeyword ++ (condition ++ (body ++ branches)) →
      Optional (·.IsKeyword "if") ifKeyword → Laid holds (.condition test condition) →
      Laid holds (.block thenBlock body) → Laid holds (.branches elseNode branches) →
      holds (.conditional line test thenBlock elseNode) ⟨[keyword], mark, after⟩ →
      Laid holds (.branches (some (.conditional line test thenBlock elseNode))
        (keyword :: mark :: after))
  | elseBranch {keyword : Token} {node : Node} {body : List Token} :
      keyword.IsKeyword "else" → Laid holds (.block node body) →
      Laid holds (.branches (some node) (keyword :: body))
  | whileStatement {keyword : Token} {line : Nat} {test node : Node}
      {condition body : List Token} :
      keyword.IsKeyword "while" → Laid holds (.condition test condition) →
      Laid holds (.block node body) →
      holds (.whileLoop line test node) ⟨[], keyword, condition ++ body⟩ →
      Laid holds (.statement (.whileLoop line test node) ⟨[], keyword, condition ++ body⟩)
  | forStatement {keyword opening element closing : Token} {line : Nat} {name : String}
      {array node : Node} {condition body : List Token} :
      keyword.IsKeyword "for" → opening.kind = .openParen → element.Named name →
      closing.kind = .closeParen → Laid holds (.condition array condition) →
      Laid holds (.block node body) →
      holds (.forLoop line name array node)
        ⟨[], keyword, opening :: element :: closing :: (condition ++ body)⟩ →
      Laid holds (.statement (.forLoop line name array node)
        ⟨[], keyword, opening :: element :: closing :: (condition ++ body)⟩)
  | functionStatement {keyword callee opening closing : Token} {line : Nat} {name : String}
      {names : List String} {node : Node} {parameters body : List Token} :
      keyword.IsKeyword "fun" → callee.Named name → opening.kind = .openParen →
      Laid holds (.parameters names parameters) → closing.kind = .closeParen →
      Laid holds (.block node body) →
      holds (.function line name names node)
        ⟨[keyword], callee, opening :: (parameters ++ closing :: body)⟩ →
      Laid holds (.statement (.function line name names node)
        ⟨[keyword], callee, opening :: (parameters ++ closing :: body)⟩)
  | returnNothing {keyword semicolon : Token} {line : Nat} :
      keyword.IsKeyword "return" → semicolon.kind = .semicolon →
      holds (.returns line none) ⟨[], keyword, [semicolon]⟩ →
      Laid holds (.statement (.returns line none) ⟨[], keyword, [semicolon]⟩)
  | returnValue {keyword semicolon : Token} {line : Nat} {value : Node} {span : Span} :
      keyword.IsKeyword "return" → Laid holds (.operand value span) →
      semicolon.kind = .semicolon →
      holds (.returns line (some value)) ⟨[], keyword, span.tokens ++ [semicolon]⟩ →
      Laid holds (.statement (.returns line (some value))
        ⟨[], keyword, span.tokens ++ [semicolon]⟩)
  | importStatement {keyword moduleToken semicolon : Token} {line : Nat} {moduleName : String} :
      keyword.IsKeyword "import" → moduleToken.Named moduleName → semicolon.kind = .semicolon →
      holds (.imports line moduleName) ⟨[keyword], moduleToken, [semicolon]⟩ →
      Laid holds (.statement (.imports line moduleName) ⟨[keyword], moduleToken, [semicolon]⟩)
  | assignment {target sign semicolon : Token} {line : Nat} {name : String} {form : Assignment}
      {value : Node} {span : Span} :
      target.Named name → assignmentForm? sign = some form → Laid holds (.operand value span) →
      semicolon.kind = .semicolon →
      holds (.assign line name form value) ⟨[], target, sign :: (span.tokens ++ [semicolon])⟩ →
      Laid holds (.statement (.assign line name form value)
        ⟨[], target, sign :: (span.tokens ++ [semicolon])⟩)
  | expressionStatement {semicolon : Token} {line : Nat} {value : Node} {span : Span} :
      Laid holds (.operand value span) → semicolon.kind = .semicolon →
      holds (.expression line value) ⟨span.before, span.mark, span.after ++ [semicolon]⟩ →
      Laid holds (.statement (.expression line value)
        ⟨span.before, span.mark, span.after ++ [semicolon]⟩)

end Grammar

def Node.MarkedIn (span : Span) : Node → Prop
  | binary .. => span.mark.IsBinary
  | function .. => ∃ keyword, keyword.IsKeyword "fun" ∧ span.before = [keyword]
  | imports .. => ∃ keyword, keyword.IsKeyword "import" ∧ span.before = [keyword]
  | conditional .. =>
      span.before = [] ∨ ∃ keyword, keyword.IsKeyword "elif" ∧ span.before = [keyword]
  | expression line value => line = value.line
  | _ => span.before = []

structure Node.Marked (node : Node) (span : Span) : Prop where
  line : node.line = span.mark.line
  place : node.MarkedIn span

namespace Grammar

open Node

theorem Laid.holds_expression {holds : Node → Span → Prop} {node : Node} {span : Span}
    (laid : Laid holds (.expression node span)) : holds node span := by
  cases laid with
  | int _ _ held | float _ _ held | string _ _ held | reference _ held | unary _ _ _ _ held
  | binary _ _ _ held | call _ _ _ _ held | array _ _ _ held | member _ _ _ _ _ _ _ held =>
      exact held

theorem Laid.holds_statement {holds : Node → Span → Prop} {node : Node} {span : Span}
    (laid : Laid holds (.statement node span)) : holds node span := by
  cases laid with
  | ifStatement _ _ _ _ held | whileStatement _ _ _ held | forStatement _ _ _ _ _ _ held
  | functionStatement _ _ _ _ _ _ held | returnNothing _ _ held | returnValue _ _ _ held
  | importStatement _ _ _ held | assignment _ _ _ _ held | expressionStatement _ _ held =>
      exact held

theorem Laid.line_of_operand {node : Node} {span : Span}
    (laid : Laid Marked (.operand node span)) : node.line = span.mark.line := by
  generalize same : Subject.operand node span = subject at laid
  induction laid generalizing node span with
  | operand laid =>
      cases same
      exact laid.holds_expression.line
  | group _ _ _ ih =>
      cases same
      have lined := ih rfl
      exact lined
  | _ => cases same

def Phrase.Placed : Phrase → List Token → Prop
  | primary node, tokens | expression _ node, tokens =>
      ∃ span, span.tokens = tokens ∧ Laid Marked (.operand node span)
  | climb _ left node, tokens => ∀ span, Laid Marked (.operand left span) →
      ∃ whole : Span, whole.tokens = span.tokens ++ tokens ∧ Laid Marked (.operand node whole)
  | items _ nodes, tokens => Laid Marked (.operands nodes tokens)
  | bracketed opening close nodes, tokens => ∃ first inner last,
      tokens = first :: (inner ++ [last]) ∧ first.kind = opening ∧
      Laid Marked (.operands nodes inner) ∧ last.kind = close
  | condition node, tokens => Laid Marked (.condition node tokens)
  | parameters names, tokens => Laid Marked (.parameters names tokens)
  | statements nodes, tokens => Laid Marked (.statements nodes tokens)
  | block node, tokens => Laid Marked (.block node tokens)
  | conditional node, tokens => ∃ mark after ifKeyword test thenBlock elseNode condition body
      branches, tokens = mark :: after ∧ tokens = ifKeyword ++ (condition ++ (body ++ branches)) ∧
      Optional (·.IsKeyword "if") ifKeyword ∧
      node = .conditional mark.line test thenBlock elseNode ∧
      Laid Marked (.condition test condition) ∧ Laid Marked (.block thenBlock body) ∧
      Laid Marked (.branches elseNode branches)
  | branches elseNode, tokens => Laid Marked (.branches elseNode tokens)
  | statement node, tokens => ∃ span, span.tokens = tokens ∧ Laid Marked (.statement node span)

theorem Phrase.Placed.ifStatement {node : Node} {keyword : Token} {tokens : List Token}
    (isIf : keyword.IsKeyword "if")
    (placed : (Phrase.conditional node).Placed (keyword :: tokens)) :
    Laid Marked (.statement node ⟨[], keyword, tokens⟩) := by
  obtain ⟨mark, after, ifKeyword, test, thenBlock, elseNode, condition, body, branches, marked,
    same, optional, rfl, testLaid, bodyLaid, branchesLaid⟩ := placed
  cases marked
  rcases optional with rfl | ⟨token, rfl, _⟩
  · -- A condition begins with a parenthesis, never with a keyword.
    cases testLaid with
    | condition opening _ _ =>
        simp only [List.nil_append, List.cons_append, List.cons.injEq] at same
        have clash := isIf.1
        rw [same.1, opening] at clash
        cases clash
  · simp only [List.cons_append, List.nil_append, List.cons.injEq] at same
    obtain ⟨rfl, rfl⟩ := same
    exact .ifStatement isIf testLaid bodyLaid branchesLaid ⟨rfl, .inl rfl⟩

theorem Reading.placed {phrase : Phrase} {before after : List Token}
    (reading : Reading phrase before after) :
    ∃ segment, before = segment ++ after ∧ phrase.Placed segment := by
  induction reading with
  | @unary token text _ _ _ kind payload isUnary _ ih =>
      obtain ⟨_, rfl, span, rfl, operand⟩ := ih
      have spelled : token.payload = some (.text (Operator.ofText text).text) := by
        rw [Operator.text_ofText, payload]
      exact ⟨token :: span.tokens, rfl, ⟨[], token, span.tokens⟩, rfl,
        .operand (.unary kind spelled isUnary operand ⟨rfl, rfl⟩)⟩
  | @array first _ _ _ _ ih =>
      obtain ⟨_, same, _, inner, last, rfl, opening, items, closing⟩ := ih
      cases same
      exact ⟨first :: (inner ++ [last]), rfl, ⟨[], first, inner ++ [last]⟩, rfl,
        .operand (.array opening items closing ⟨rfl, rfl⟩)⟩
  | @int token _ _ kind payload =>
      exact ⟨[token], rfl, ⟨[], token, []⟩, rfl, .operand (.int kind payload ⟨rfl, rfl⟩)⟩
  | @float token _ _ kind payload =>
      exact ⟨[token], rfl, ⟨[], token, []⟩, rfl, .operand (.float kind payload ⟨rfl, rfl⟩)⟩
  | @string token _ _ kind payload =>
      exact ⟨[token], rfl, ⟨[], token, []⟩, rfl, .operand (.string kind payload ⟨rfl, rfl⟩)⟩
  | @reference token _ _ named _ =>
      exact ⟨[token], rfl, ⟨[], token, []⟩, rfl, .operand (.reference named ⟨rfl, rfl⟩)⟩
  | @call token _ _ _ _ named _ ih =>
      obtain ⟨_, rfl, first, inner, last, rfl, opening, items, closing⟩ := ih
      exact ⟨_, rfl, ⟨[], token, first :: (inner ++ [last])⟩, rfl,
        .operand (.call named opening items closing ⟨rfl, rfl⟩)⟩
  | @member token colons callee _ _ _ _ _ named kind calleeNamed _ ih =>
      obtain ⟨_, rfl, first, inner, last, rfl, opening, items, closing⟩ := ih
      exact ⟨_, rfl, ⟨[], token, colons :: callee :: first :: (inner ++ [last])⟩, rfl,
        .operand (.member named kind calleeNamed opening items closing ⟨rfl, rfl⟩ ⟨rfl, rfl⟩)⟩
  | @group opening closing _ _ _ openingKind _ closingKind ih =>
      obtain ⟨_, rfl, span, rfl, laid⟩ := ih
      exact ⟨opening :: (span.tokens ++ [closing]), by simp, _, by simp [Span.tokens],
        .group openingKind laid closingKind⟩
  | expression _ _ ihLeft ihClimb =>
      obtain ⟨_, rfl, span, rfl, left⟩ := ihLeft
      obtain ⟨rest, rfl, climbed⟩ := ihClimb
      exact ⟨span.tokens ++ rest, by simp, climbed span left⟩
  | settle _ => exact ⟨[], rfl, fun span left => ⟨span, by simp, left⟩⟩
  | @fold _ precedence op token _ _ _ _ _ _ found _ _ _ ihRight ihClimb =>
      obtain ⟨_, rfl, span, rfl, right⟩ := ihRight
      obtain ⟨rest, rfl, climbed⟩ := ihClimb
      have isBinary : token.IsBinary := Token.isBinary_iff.mpr ⟨op, precedence, found⟩
      -- What was read so far becomes the left operand, and the operator the mark of the whole.
      refine ⟨token :: (span.tokens ++ rest), by simp, fun leftSpan left => ?_⟩
      obtain ⟨whole, same, laid⟩ := climbed ⟨leftSpan.tokens, token, span.tokens⟩
        (.operand (.binary found left right ⟨rfl, isBinary⟩))
      exact ⟨whole, by rw [same]; simp [Span.tokens], laid⟩
  | noItem _ => exact ⟨[], rfl, .noOperand⟩
  | @item _ _ _ _ middle _ _ _ _ ihNode ihNodes =>
      obtain ⟨_, rfl, span, rfl, laid⟩ := ihNode
      obtain ⟨comma, same, optional⟩ := skip_comma_eq_append middle
      obtain ⟨rest, others, tail⟩ := ihNodes
      refine ⟨span.tokens ++ (comma ++ rest), ?_, .operands laid optional tail⟩
      rw [List.append_assoc, List.append_assoc, ← others, ← same]
  | @bracketed _ _ first last _ _ _ opening _ closing ih =>
      obtain ⟨inner, rfl, items⟩ := ih
      exact ⟨first :: (inner ++ [last]), by simp, first, inner, last, rfl, opening, items, closing⟩
  | @condition opening closing _ _ _ openingKind _ closingKind ih =>
      obtain ⟨_, rfl, span, rfl, laid⟩ := ih
      exact ⟨opening :: (span.tokens ++ [closing]), by simp,
        .condition openingKind laid closingKind⟩
  | noParameter _ => exact ⟨[], rfl, .noParameter⟩
  | @parameter token _ _ rest _ named _ ih =>
      obtain ⟨comma, same, optional⟩ := skip_comma_eq_append rest
      obtain ⟨others, following, laid⟩ := ih
      refine ⟨token :: (comma ++ others), ?_, .parameter named optional laid⟩
      rw [List.cons_append, List.append_assoc, ← following, ← same]
  | noStatement _ => exact ⟨[], rfl, .noStatement⟩
  | statements _ _ _ ihNode ihNodes =>
      obtain ⟨_, rfl, span, rfl, laid⟩ := ihNode
      obtain ⟨rest, rfl, others⟩ := ihNodes
      exact ⟨span.tokens ++ rest, by simp, .statements laid others⟩
  | @block opening _ closing _ _ _ openingKind _ closingKind ih =>
      obtain ⟨inner, same, laid⟩ := ih
      exact ⟨opening :: (inner ++ [closing]), by simp [same], .block openingKind laid closingKind⟩
  | @conditional first _ _ _ rest _ _ after _ _ _ ihTest ihBlock ihBranches =>
      obtain ⟨ifKeyword, skipped, optional⟩ := skip_eq_append .keyword (some "if") (first :: rest)
      obtain ⟨condition, same, testLaid⟩ := ihTest
      obtain ⟨body, rfl, bodyLaid⟩ := ihBlock
      obtain ⟨branches, rfl, branchesLaid⟩ := ihBranches
      have whole : first :: rest = ifKeyword ++ (condition ++ (body ++ branches)) ++ after := by
        rw [skipped, same]
        simp
      -- The mark is what comes first: the word `if`, or the parenthesis of the condition.
      have nonempty : ifKeyword ++ (condition ++ (body ++ branches)) ≠ [] := by
        cases testLaid
        simp
      rcases List.cons_eq_append_iff.mp whole with ⟨empty, _⟩ | ⟨others, marked, _⟩
      · exact absurd empty nonempty
      · exact ⟨_, whole, first, others, ifKeyword, _, _, _, condition, body, branches, marked, rfl,
          optional.imp fun _ => Token.fits_keyword.mp, rfl, testLaid, bodyLaid, branchesLaid⟩
  | noBranch => exact ⟨[], rfl, .noBranch⟩
  | @elifBranch token _ _ _ keyword _ ih =>
      obtain ⟨_, rfl, mark, after, ifKeyword, test, thenBlock, elseNode, condition, body, branches,
        rfl, same, optional, rfl, testLaid, bodyLaid, branchesLaid⟩ := ih
      exact ⟨token :: mark :: after, rfl, .elifBranch keyword same optional testLaid bodyLaid
        branchesLaid ⟨rfl, .inr ⟨token, keyword, rfl⟩⟩⟩
  | @elseBranch token _ _ _ keyword _ ih =>
      obtain ⟨body, rfl, laid⟩ := ih
      exact ⟨token :: body, rfl, .elseBranch keyword laid⟩
  | @ifStatement token _ rest _ keyword _ ih =>
      obtain ⟨segment, same, placed⟩ := ih
      obtain ⟨mark, after, marked⟩ : ∃ mark after, segment = mark :: after := by
        obtain ⟨mark, after, _, _, _, _, _, _, _, marked, _⟩ := placed
        exact ⟨mark, after, marked⟩
      subst marked
      cases same
      exact ⟨token :: after, rfl, ⟨[], token, after⟩, rfl, placed.ifStatement keyword⟩
  | @whileStatement token _ _ _ _ _ keyword _ _ ihTest ihBody =>
      obtain ⟨condition, rfl, testLaid⟩ := ihTest
      obtain ⟨body, rfl, bodyLaid⟩ := ihBody
      exact ⟨token :: (condition ++ body), by simp, ⟨[], token, condition ++ body⟩, rfl,
        .whileStatement keyword testLaid bodyLaid ⟨rfl, rfl⟩⟩
  | @forStatement token opening element closing _ _ _ _ _ _ keyword openingKind named
      closingKind _ _ ihArray ihBody =>
      obtain ⟨condition, rfl, arrayLaid⟩ := ihArray
      obtain ⟨body, rfl, bodyLaid⟩ := ihBody
      exact ⟨token :: opening :: element :: closing :: (condition ++ body), by simp,
        ⟨[], token, opening :: element :: closing :: (condition ++ body)⟩, rfl,
        .forStatement keyword openingKind named closingKind arrayLaid bodyLaid ⟨rfl, rfl⟩⟩
  | @functionStatement token callee opening closing _ _ _ _ _ _ keyword named openingKind _
      closingKind _ ihParameters ihBody =>
      obtain ⟨parameters, rfl, parametersLaid⟩ := ihParameters
      obtain ⟨body, rfl, bodyLaid⟩ := ihBody
      exact ⟨token :: callee :: opening :: (parameters ++ closing :: body), by simp,
        ⟨[token], callee, opening :: (parameters ++ closing :: body)⟩, rfl,
        .functionStatement keyword named openingKind parametersLaid closingKind bodyLaid
          ⟨rfl, token, keyword, rfl⟩⟩
  | @returnNothing token semicolon _ keyword ends =>
      exact ⟨[token, semicolon], rfl, ⟨[], token, [semicolon]⟩, rfl,
        .returnNothing keyword ends ⟨rfl, rfl⟩⟩
  | @returnValue token semicolon _ _ _ keyword _ _ ends ih =>
      obtain ⟨_, rfl, span, rfl, laid⟩ := ih
      exact ⟨token :: (span.tokens ++ [semicolon]), by simp,
        ⟨[], token, span.tokens ++ [semicolon]⟩, rfl, .returnValue keyword laid ends ⟨rfl, rfl⟩⟩
  | @importStatement token moduleToken semicolon _ _ keyword named ends =>
      exact ⟨[token, moduleToken, semicolon], rfl, ⟨[token], moduleToken, [semicolon]⟩, rfl,
        .importStatement keyword named ends ⟨rfl, token, keyword, rfl⟩⟩
  | @assignment token sign semicolon _ _ _ _ _ named found _ ends ih =>
      obtain ⟨_, rfl, span, rfl, laid⟩ := ih
      exact ⟨token :: sign :: (span.tokens ++ [semicolon]), by simp,
        ⟨[], token, sign :: (span.tokens ++ [semicolon])⟩, rfl,
        .assignment named found laid ends ⟨rfl, rfl⟩⟩
  | @expressionStatement _ semicolon value _ _ _ _ _ ends ih =>
      obtain ⟨_, same, span, rfl, laid⟩ := ih
      refine ⟨span.tokens ++ [semicolon], by simp [same],
        ⟨span.before, span.mark, span.after ++ [semicolon]⟩, by simp [Span.tokens], ?_⟩
      exact .expressionStatement laid ends ⟨laid.line_of_operand, rfl⟩

end Grammar

/-- Every node of a parsed tree but the sequences records the line of the mark of its construct: the
tree lies over the tokens it was parsed from, each expression and each statement in it has the line
of its mark, and the mark is the first token of the construct unless the construct is a binary
expression, a function definition, an import, an elif branch, or an expression statement, which has
the line of its expression. -/
theorem Node.line_of_mark {limit : Nat} {tokens : List Token} {file : Option String} {tree : Node}
    (accepted : (Node.parse limit tokens file).1 = .ok tree) :
    ∃ line nodes, tree = .sequence line nodes ∧
      Grammar.Laid Node.Marked (.statements nodes tokens) := by
  obtain ⟨nodes, same, reading, _⟩ := reading_of_parse accepted
  obtain ⟨segment, whole, laid⟩ := reading.placed
  rw [List.append_nil] at whole
  subst whole
  exact ⟨_, nodes, same, laid⟩

/-- A function definition, broken behind its keyword. -/
def spreadFunction : List Token :=
  [⟨.keyword, some (.text "fun"), 1⟩, ⟨.identifier, some (.text "f"), 2⟩, ⟨.openParen, none, 2⟩,
    ⟨.closeParen, none, 2⟩, ⟨.openBrace, none, 2⟩, ⟨.closeBrace, none, 3⟩]

/-- An import, broken behind its keyword. -/
def spreadImport : List Token :=
  [⟨.keyword, some (.text "import"), 4⟩, ⟨.identifier, some (.text "io"), 5⟩, ⟨.semicolon, none, 5⟩]

/-- A sum, broken before its operator. -/
def spreadSum : List Token :=
  [⟨.integer, some (.integer 1), 6⟩, ⟨.operator, some (.text "+"), 7⟩,
    ⟨.integer, some (.integer 2), 7⟩, ⟨.semicolon, none, 7⟩]

def spreadNodes : List Node :=
  [.function 2 "f" [] (.sequence 3 []), .imports 5 "io",
    .expression 7 (.binary 7 .add (.int 6 1) (.int 7 2))]

theorem Node.line_of_mark_spread :
    let tokens := spreadFunction ++ spreadImport ++ spreadSum
    (Node.parse 100 tokens none).1 = .ok (.sequence 1 spreadNodes) ∧
      Grammar.Laid Node.Marked (.statements spreadNodes tokens) := by
  intro tokens
  have accepted : (Node.parse 100 tokens none).1 = .ok (.sequence 1 spreadNodes) := rfl
  obtain ⟨_, _, same, laid⟩ := Node.line_of_mark accepted
  cases same
  exact ⟨accepted, laid⟩

def Node.OnFirstLine (node : Node) (span : Span) : Prop :=
  node.line = span.first.line

theorem Grammar.Laid.line_of_head {node : Node} {nodes : List Node} {token : Token}
    {tokens : List Token}
    (laid : Laid Node.OnFirstLine (.statements (node :: nodes) (token :: tokens))) :
    node.line = token.line := by
  generalize same : token :: tokens = all at laid
  cases laid with
  | @statements _ _ span rest laid _ =>
      have head : span.tokens.head? = some span.first := by
        unfold Span.tokens Span.first
        cases span.before <;> rfl
      have leads : span.first = token := by
        have heads := congrArg List.head? same
        rw [List.head?_append, head] at heads
        cases heads
        rfl
      rw [← leads]
      exact laid.holds_statement

def Grammar.Misplaces (tokens : List Token) : Prop :=
  ∃ line nodes, (Node.parse 100 tokens none).1 = .ok (.sequence line nodes) ∧
    ¬ Laid Node.OnFirstLine (.statements nodes tokens)

/-- Function definitions, imports and sums that are spread over lines. -/
theorem Node.line_other_than_first :
    Grammar.Misplaces spreadFunction ∧ Grammar.Misplaces spreadImport ∧
      Grammar.Misplaces spreadSum := by
  refine ⟨⟨1, [.function 2 "f" [] (.sequence 3 [])], rfl, fun laid => ?_⟩,
    ⟨4, [.imports 5 "io"], rfl, fun laid => ?_⟩,
    ⟨6, [.expression 7 (.binary 7 .add (.int 6 1) (.int 7 2))], rfl, fun laid => ?_⟩⟩
  · exact absurd laid.line_of_head (by decide)
  · exact absurd laid.line_of_head (by decide)
  · exact absurd laid.line_of_head (by decide)

end Scriptlet
