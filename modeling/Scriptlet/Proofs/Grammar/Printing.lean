import Scriptlet.Proofs.Grammar.Derivation

/-!
Which trees are programs, and which token lists spell out a tree. A tree has many printings:
parentheses stand at least where the binding of the operators calls for them, and may stand around
any other expression too; the last item of a list may be followed by a comma. Every program has a
printing.
-/

namespace Scriptlet

namespace Node

mutual

def unplaced : Node → Node
  | sequence _ statements => .sequence 0 (unplacedAll statements)
  | imports _ moduleName => .imports 0 moduleName
  | assign _ name form value => .assign 0 name form (unplaced value)
  | binary _ op left right => .binary 0 op (unplaced left) (unplaced right)
  | unary _ op operand => .unary 0 op (unplaced operand)
  | int _ value => .int 0 value
  | float _ value => .float 0 value
  | string _ value => .string 0 value
  | reference _ name => .reference 0 name
  | call _ name arguments => .call 0 name (unplacedAll arguments)
  | member _ moduleName _ name arguments => .member 0 moduleName 0 name (unplacedAll arguments)
  | array _ elements => .array 0 (unplacedAll elements)
  | returns _ none => .returns 0 none
  | returns _ (some value) => .returns 0 (some (unplaced value))
  | function _ name parameters body => .function 0 name parameters (unplaced body)
  | expression _ value => .expression 0 (unplaced value)
  | conditional _ test thenBlock none => .conditional 0 (unplaced test) (unplaced thenBlock) none
  | conditional _ test thenBlock (some elseNode) =>
      .conditional 0 (unplaced test) (unplaced thenBlock) (some (unplaced elseNode))
  | whileLoop _ test body => .whileLoop 0 (unplaced test) (unplaced body)
  | forLoop _ element elements body => .forLoop 0 element (unplaced elements) (unplaced body)
  | bare _ => .bare 0

def unplacedAll : List Node → List Node
  | [] => []
  | node :: rest => unplaced node :: unplacedAll rest

end

theorem unplaced_conditional (line : Nat) (test thenBlock : Node) (elseNode : Option Node) :
    (conditional line test thenBlock elseNode).unplaced =
      .conditional 0 test.unplaced thenBlock.unplaced (elseNode.map unplaced) := by
  cases elseNode <;> rfl

/-- What a tree may stand as; a `branch` is what may follow the block of a conditional. -/
inductive Role where
  | expression
  | statement
  | block
  | branch

/-- `WellFormed role node`: the tree may stand in the role, and its parts in theirs. -/
inductive WellFormed : Role → Node → Prop
  | int {line : Nat} {value : Int} : WellFormed .expression (.int line value)
  | float {line : Nat} {value : Float} : WellFormed .expression (.float line value)
  | string {line : Nat} {value : String} : WellFormed .expression (.string line value)
  | reference {line : Nat} {name : String} : WellFormed .expression (.reference line name)
  | unary {line : Nat} {op : Operator} {operand : Node} :
      op.isUnary = true → WellFormed .expression operand →
      WellFormed .expression (.unary line op operand)
  | binary {line : Nat} {op : Operator} {left right : Node} :
      op.precedence?.isSome = true → WellFormed .expression left →
      WellFormed .expression right → WellFormed .expression (.binary line op left right)
  | call {line : Nat} {name : String} {arguments : List Node} :
      (∀ argument ∈ arguments, WellFormed .expression argument) →
      WellFormed .expression (.call line name arguments)
  | member {line callLine : Nat} {moduleName name : String} {arguments : List Node} :
      (∀ argument ∈ arguments, WellFormed .expression argument) →
      WellFormed .expression (.member line moduleName callLine name arguments)
  | array {line : Nat} {elements : List Node} :
      (∀ element ∈ elements, WellFormed .expression element) →
      WellFormed .expression (.array line elements)
  | imports {line : Nat} {moduleName : String} : WellFormed .statement (.imports line moduleName)
  | assign {line : Nat} {name : String} {form : Assignment} {value : Node} :
      Assignment.ofText form.text = form → WellFormed .expression value →
      WellFormed .statement (.assign line name form value)
  | returns {line : Nat} {value : Option Node} :
      (∀ node ∈ value, WellFormed .expression node) → WellFormed .statement (.returns line value)
  | function {line : Nat} {name : String} {parameters : List String} {body : Node} :
      WellFormed .block body → WellFormed .statement (.function line name parameters body)
  | expression {line : Nat} {value : Node} :
      WellFormed .expression value → WellFormed .statement (.expression line value)
  | conditional {line : Nat} {test thenBlock : Node} {elseNode : Option Node} :
      WellFormed .expression test → WellFormed .block thenBlock →
      (∀ node ∈ elseNode, WellFormed .branch node) →
      WellFormed .statement (.conditional line test thenBlock elseNode)
  | whileLoop {line : Nat} {test body : Node} :
      WellFormed .expression test → WellFormed .block body →
      WellFormed .statement (.whileLoop line test body)
  | forLoop {line : Nat} {element : String} {array body : Node} :
      WellFormed .expression array → WellFormed .block body →
      WellFormed .statement (.forLoop line element array body)
  | sequence {line : Nat} {statements : List Node} :
      (∀ node ∈ statements, WellFormed .statement node) →
      WellFormed .block (.sequence line statements)
  | elseIf {line : Nat} {test thenBlock : Node} {elseNode : Option Node} :
      WellFormed .statement (.conditional line test thenBlock elseNode) →
      WellFormed .branch (.conditional line test thenBlock elseNode)
  | elseBlock {node : Node} : WellFormed .block node → WellFormed .branch node

end Node

namespace Token

def IsOperator (token : Token) (op : Operator) : Prop :=
  token.kind = .operator ∧ token.payload = some (.text op.text)

def Assigns (token : Token) : Assignment → Prop
  | .define => token.kind = .define
  | .replace => token.kind = .assign
  | .compound text => token.kind = .compoundAssign ∧ token.payload = some (.text text)

end Token

namespace Grammar

open Node

/-- What is printed. An `operand` may stand without parentheses unless it is a binary operation
whose operator binds less tightly than `least`. -/
inductive Piece where
  | operand (least : Nat) (node : Node)
  | items (nodes : List Node)
  | condition (node : Node)
  | parameters (names : List String)
  | statement (node : Node)
  | statements (nodes : List Node)
  | block (node : Node)
  | branches (elseNode : Option Node)

/-- `Printing piece tokens`: the tokens spell out the piece. The lines of neither matter. -/
inductive Printing : Piece → List Token → Prop
  | int {least line : Nat} {value : Int} {token : Token} :
      token.kind = .integer → token.payload = some (.integer value) →
      Printing (.operand least (.int line value)) [token]
  | float {least line : Nat} {value : Float} {token : Token} :
      token.kind = .float → token.payload = some (.float value) →
      Printing (.operand least (.float line value)) [token]
  | string {least line : Nat} {value : String} {token : Token} :
      token.kind = .string → token.payload = some (.text value) →
      Printing (.operand least (.string line value)) [token]
  | reference {least line : Nat} {name : String} {token : Token} :
      token.Named name → Printing (.operand least (.reference line name)) [token]
  | unary {least line : Nat} {op : Operator} {operand : Node} {sign : Token}
      {tokens : List Token} :
      op.isUnary = true → sign.IsOperator op →
      Printing (.operand Operator.unaryPrecedence operand) tokens →
      Printing (.operand least (.unary line op operand)) (sign :: tokens)
  | binary {least line precedence : Nat} {op : Operator} {left right : Node} {sign : Token}
      {first second : List Token} :
      op.precedence? = some precedence → least ≤ precedence → sign.IsOperator op →
      -- Operators of one precedence group to the right.
      Printing (.operand (precedence + 1) left) first →
      Printing (.operand precedence right) second →
      Printing (.operand least (.binary line op left right)) (first ++ sign :: second)
  | call {least line : Nat} {name : String} {arguments : List Node}
      {token opening closing : Token} {tokens : List Token} :
      token.Named name → opening.kind = .openParen → Printing (.items arguments) tokens →
      closing.kind = .closeParen →
      Printing (.operand least (.call line name arguments))
        (token :: opening :: (tokens ++ [closing]))
  | member {least line callLine : Nat} {moduleName name : String} {arguments : List Node}
      {token colons callee opening closing : Token} {tokens : List Token} :
      token.Named moduleName → colons.kind = .doubleColon → callee.Named name →
      opening.kind = .openParen → Printing (.items arguments) tokens →
      closing.kind = .closeParen →
      Printing (.operand least (.member line moduleName callLine name arguments))
        (token :: colons :: callee :: opening :: (tokens ++ [closing]))
  | array {least line : Nat} {elements : List Node} {opening closing : Token}
      {tokens : List Token} :
      opening.kind = .openBracket → Printing (.items elements) tokens →
      closing.kind = .closeBracket →
      Printing (.operand least (.array line elements)) (opening :: (tokens ++ [closing]))
  | group {least : Nat} {node : Node} {opening closing : Token} {tokens : List Token} :
      opening.kind = .openParen → Printing (.operand 0 node) tokens →
      closing.kind = .closeParen →
      Printing (.operand least node) (opening :: (tokens ++ [closing]))
  | noItem : Printing (.items []) []
  | lastItem {node : Node} {tokens : List Token} :
      Printing (.operand 0 node) tokens → Printing (.items [node]) tokens
  | item {node : Node} {nodes : List Node} {comma : Token} {first rest : List Token} :
      Printing (.operand 0 node) first → comma.kind = .comma → Printing (.items nodes) rest →
      Printing (.items (node :: nodes)) (first ++ comma :: rest)
  | condition {node : Node} {opening closing : Token} {tokens : List Token} :
      opening.kind = .openParen → Printing (.operand 0 node) tokens →
      closing.kind = .closeParen → Printing (.condition node) (opening :: (tokens ++ [closing]))
  | noParameter : Printing (.parameters []) []
  | parameter {name : String} {names : List String} {token : Token} {comma rest : List Token} :
      token.Named name → Optional (·.kind = .comma) comma → Printing (.parameters names) rest →
      Printing (.parameters (name :: names)) (token :: (comma ++ rest))
  | imports {line : Nat} {moduleName : String} {keyword token semicolon : Token} :
      keyword.IsKeyword "import" → token.Named moduleName → semicolon.kind = .semicolon →
      Printing (.statement (.imports line moduleName)) [keyword, token, semicolon]
  | assign {line : Nat} {name : String} {form : Assignment} {value : Node}
      {token sign semicolon : Token} {tokens : List Token} :
      token.Named name → sign.Assigns form → Assignment.ofText form.text = form →
      Printing (.operand 0 value) tokens → semicolon.kind = .semicolon →
      Printing (.statement (.assign line name form value))
        (token :: sign :: (tokens ++ [semicolon]))
  | returnNothing {line : Nat} {keyword semicolon : Token} :
      keyword.IsKeyword "return" → semicolon.kind = .semicolon →
      Printing (.statement (.returns line none)) [keyword, semicolon]
  | returnValue {line : Nat} {value : Node} {keyword semicolon : Token} {tokens : List Token} :
      keyword.IsKeyword "return" → Printing (.operand 0 value) tokens →
      semicolon.kind = .semicolon →
      Printing (.statement (.returns line (some value))) (keyword :: (tokens ++ [semicolon]))
  | function {line : Nat} {name : String} {names : List String} {body : Node}
      {keyword callee opening closing : Token} {parameters block : List Token} :
      keyword.IsKeyword "fun" → callee.Named name → opening.kind = .openParen →
      Printing (.parameters names) parameters → closing.kind = .closeParen →
      Printing (.block body) block →
      Printing (.statement (.function line name names body))
        (keyword :: callee :: opening :: (parameters ++ closing :: block))
  | expression {line : Nat} {value : Node} {semicolon : Token} {tokens : List Token} :
      Printing (.operand 0 value) tokens → leads .openBracket none tokens = false →
      semicolon.kind = .semicolon →
      Printing (.statement (.expression line value)) (tokens ++ [semicolon])
  | conditional {line : Nat} {test thenBlock : Node} {elseNode : Option Node} {keyword : Token}
      {condition block branches : List Token} :
      keyword.IsKeyword "if" → Printing (.condition test) condition →
      Printing (.block thenBlock) block → Printing (.branches elseNode) branches →
      Printing (.statement (.conditional line test thenBlock elseNode))
        (keyword :: (condition ++ (block ++ branches)))
  | whileLoop {line : Nat} {test body : Node} {keyword : Token} {condition block : List Token} :
      keyword.IsKeyword "while" → Printing (.condition test) condition →
      Printing (.block body) block →
      Printing (.statement (.whileLoop line test body)) (keyword :: (condition ++ block))
  | forLoop {line : Nat} {element : String} {array body : Node}
      {keyword opening token closing : Token} {condition block : List Token} :
      keyword.IsKeyword "for" → opening.kind = .openParen → token.Named element →
      closing.kind = .closeParen → Printing (.condition array) condition →
      Printing (.block body) block →
      Printing (.statement (.forLoop line element array body))
        (keyword :: opening :: token :: closing :: (condition ++ block))
  | noStatement : Printing (.statements []) []
  | statements {node : Node} {nodes : List Node} {first rest : List Token} :
      Printing (.statement node) first → Printing (.statements nodes) rest →
      Printing (.statements (node :: nodes)) (first ++ rest)
  | block {line : Nat} {nodes : List Node} {opening closing : Token} {tokens : List Token} :
      opening.kind = .openBrace → Printing (.statements nodes) tokens →
      closing.kind = .closeBrace →
      Printing (.block (.sequence line nodes)) (opening :: (tokens ++ [closing]))
  | noBranch : Printing (.branches none) []
  | elseIf {line : Nat} {test thenBlock : Node} {elseNode : Option Node} {keyword : Token}
      {ifKeyword condition block branches : List Token} :
      keyword.IsKeyword "elif" → Optional (·.IsKeyword "if") ifKeyword →
      Printing (.condition test) condition → Printing (.block thenBlock) block →
      Printing (.branches elseNode) branches →
      Printing (.branches (some (.conditional line test thenBlock elseNode)))
        (keyword :: (ifKeyword ++ (condition ++ (block ++ branches))))
  | elseBlock {node : Node} {keyword : Token} {tokens : List Token} :
      keyword.IsKeyword "else" → Printing (.block node) tokens →
      Printing (.branches (some node)) (keyword :: tokens)

def Piece.Printable (piece : Piece) : Prop :=
  ∃ tokens, Printing piece tokens

def mark (kind : Token.Kind) : Token :=
  { kind := kind, payload := none, line := 1 }

def word (kind : Token.Kind) (text : String) : Token :=
  { kind := kind, payload := some (.text text), line := 1 }

theorem named_word (name : String) : (word .identifier name).Named name :=
  ⟨rfl, rfl⟩

theorem isKeyword_word (text : String) : (word .keyword text).IsKeyword text :=
  ⟨rfl, rfl⟩

theorem Piece.Printable.grouped {node : Node} (least : Nat)
    (printable : (Piece.operand 0 node).Printable) :
    ∃ tokens, Printing (.operand least node) (mark .openParen :: tokens) := by
  obtain ⟨tokens, printing⟩ := printable
  exact ⟨tokens ++ [mark .closeParen], .group rfl printing rfl⟩

theorem items_printable {nodes : List Node}
    (printable : ∀ node ∈ nodes, (Piece.operand 0 node).Printable) :
    (Piece.items nodes).Printable := by
  induction nodes with
  | nil => exact ⟨[], .noItem⟩
  | cons node nodes ih =>
      obtain ⟨first, head⟩ := printable node (by simp)
      obtain ⟨rest, tail⟩ := ih fun other member => printable other (by simp [member])
      exact ⟨first ++ mark .comma :: rest, .item head rfl tail⟩

theorem parameters_printable (names : List String) : (Piece.parameters names).Printable := by
  induction names with
  | nil => exact ⟨[], .noParameter⟩
  | cons name names ih =>
      obtain ⟨rest, tail⟩ := ih
      exact ⟨_, .parameter (named_word name) (.inr ⟨mark .comma, rfl, rfl⟩) tail⟩

theorem statements_printable {nodes : List Node}
    (printable : ∀ node ∈ nodes, (Piece.statement node).Printable) :
    (Piece.statements nodes).Printable := by
  induction nodes with
  | nil => exact ⟨[], .noStatement⟩
  | cons node nodes ih =>
      obtain ⟨first, head⟩ := printable node (by simp)
      obtain ⟨rest, tail⟩ := ih fun other member => printable other (by simp [member])
      exact ⟨_, .statements head tail⟩

theorem condition_printable {node : Node} (printable : (Piece.operand 0 node).Printable) :
    (Piece.condition node).Printable := by
  obtain ⟨tokens, printing⟩ := printable
  exact ⟨mark .openParen :: (tokens ++ [mark .closeParen]), .condition rfl printing rfl⟩

def signOf : Assignment → Token
  | .define => mark .define
  | .replace => mark .assign
  | .compound text => word .compoundAssign text

theorem assigns_signOf (form : Assignment) : (signOf form).Assigns form := by
  cases form with
  | compound text => exact ⟨rfl, rfl⟩
  | _ => rfl

end Grammar

namespace Node

open Grammar

def Role.piece (role : Role) (node : Node) : Piece :=
  match role with
  | .expression => .operand 0 node
  | .statement => .statement node
  | .block => .block node
  | .branch => .branches (some node)

theorem WellFormed.printable {role : Role} {node : Node} (wellFormed : WellFormed role node) :
    (role.piece node).Printable := by
  induction wellFormed with
  | @int _ value => exact ⟨[⟨.integer, some (.integer value), 1⟩], .int rfl rfl⟩
  | @float _ value => exact ⟨[⟨.float, some (.float value), 1⟩], .float rfl rfl⟩
  | @string _ value => exact ⟨[word .string value], .string rfl rfl⟩
  | reference => exact ⟨_, .reference (named_word _)⟩
  | @unary _ op _ isUnary _ ih =>
      obtain ⟨tokens, printing⟩ := ih.grouped Operator.unaryPrecedence
      exact ⟨word .operator op.text :: _, .unary isUnary ⟨rfl, rfl⟩ printing⟩
  | @binary _ op _ _ ranked _ _ ihLeft ihRight =>
      obtain ⟨precedence, ranked⟩ := Option.isSome_iff_exists.mp ranked
      obtain ⟨first, left⟩ := ihLeft.grouped (precedence + 1)
      obtain ⟨second, right⟩ := ihRight.grouped precedence
      exact ⟨_ ++ word .operator op.text :: _,
        .binary ranked (Nat.zero_le _) ⟨rfl, rfl⟩ left right⟩
  | @call _ name _ _ ih =>
      obtain ⟨tokens, printing⟩ := items_printable ih
      exact ⟨word .identifier name :: mark .openParen :: (tokens ++ [mark .closeParen]),
        .call (named_word name) rfl printing rfl⟩
  | @member _ _ moduleName name _ _ ih =>
      obtain ⟨tokens, printing⟩ := items_printable ih
      exact ⟨word .identifier moduleName :: mark .doubleColon :: word .identifier name ::
          mark .openParen :: (tokens ++ [mark .closeParen]),
        .member (named_word moduleName) rfl (named_word name) rfl printing rfl⟩
  | array _ ih =>
      obtain ⟨tokens, printing⟩ := items_printable ih
      exact ⟨mark .openBracket :: (tokens ++ [mark .closeBracket]), .array rfl printing rfl⟩
  | @imports _ moduleName =>
      exact ⟨[word .keyword "import", word .identifier moduleName, mark .semicolon],
        .imports (isKeyword_word _) (named_word moduleName) rfl⟩
  | @assign _ name form _ proper _ ih =>
      obtain ⟨tokens, printing⟩ := ih
      exact ⟨word .identifier name :: signOf form :: (tokens ++ [mark .semicolon]),
        .assign (named_word name) (assigns_signOf form) proper printing rfl⟩
  | @returns _ value _ ih =>
      cases value with
      | none =>
          exact ⟨[word .keyword "return", mark .semicolon], .returnNothing (isKeyword_word _) rfl⟩
      | some node =>
          obtain ⟨tokens, printing⟩ := ih node rfl
          exact ⟨word .keyword "return" :: (tokens ++ [mark .semicolon]),
            .returnValue (isKeyword_word _) printing rfl⟩
  | @function _ name names _ _ ih =>
      obtain ⟨parameters, namesPrinting⟩ := parameters_printable names
      obtain ⟨block, printing⟩ := ih
      exact ⟨word .keyword "fun" :: word .identifier name :: mark .openParen ::
          (parameters ++ mark .closeParen :: block),
        .function (isKeyword_word _) (named_word name) rfl namesPrinting rfl printing⟩
  | expression _ ih =>
      obtain ⟨tokens, printing⟩ := ih.grouped 0
      exact ⟨_ ++ [mark .semicolon], .expression printing rfl rfl⟩
  | @conditional _ _ _ elseNode _ _ _ ihTest ihBlock ihElse =>
      obtain ⟨condition, test⟩ := condition_printable ihTest
      obtain ⟨block, thenBlock⟩ := ihBlock
      obtain ⟨branches, rest⟩ : (Piece.branches elseNode).Printable := by
        cases elseNode with
        | none => exact ⟨[], .noBranch⟩
        | some node => exact ihElse node rfl
      exact ⟨_, .conditional (isKeyword_word _) test thenBlock rest⟩
  | whileLoop _ _ ihTest ihBody =>
      obtain ⟨condition, test⟩ := condition_printable ihTest
      obtain ⟨block, body⟩ := ihBody
      exact ⟨_, .whileLoop (isKeyword_word _) test body⟩
  | @forLoop _ element _ _ _ _ ihArray ihBody =>
      obtain ⟨condition, array⟩ := condition_printable ihArray
      obtain ⟨block, body⟩ := ihBody
      exact ⟨word .keyword "for" :: mark .openParen :: word .identifier element ::
          mark .closeParen :: (condition ++ block),
        .forLoop (isKeyword_word _) rfl (named_word element) rfl array body⟩
  | sequence _ ih =>
      obtain ⟨tokens, printing⟩ := statements_printable ih
      exact ⟨mark .openBrace :: (tokens ++ [mark .closeBrace]), .block rfl printing rfl⟩
  | elseIf _ ih =>
      obtain ⟨tokens, printing⟩ := ih
      cases printing with
      | conditional _ test thenBlock rest =>
          exact ⟨_, .elseIf (isKeyword_word _) (.inl rfl) test thenBlock rest⟩
  | elseBlock _ ih =>
      obtain ⟨tokens, printing⟩ := ih
      exact ⟨_, .elseBlock (isKeyword_word _) printing⟩

end Node

end Scriptlet
