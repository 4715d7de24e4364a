import Scriptlet.Proofs.Grammar.Derivation
import Scriptlet.Proofs.Token.Content

/-!
No token is lost, doubled or moved by parsing. Apart from the tokens that only mark structure
(parentheses, commas, and an `if` right after an `elif`), the tokens say what the tree spells out,
in this order.
-/

namespace Scriptlet

namespace Token

def Kind.isSeparator (kind : Kind) : Bool :=
  kind == .openParen || kind == .closeParen || kind == .comma

end Token

namespace Grammar

open Token

/-- The tokens that a tree speaks of, where `afterElif` says whether an `elif` comes before. -/
def kept (afterElif : Bool) : List Token → List Token
  | [] => []
  | token :: rest =>
      let others := kept (token.fits .keyword (some (.text "elif"))) rest
      if token.kind.isSeparator || (afterElif && token.fits .keyword (some (.text "if"))) then
        others
      else token :: others

def significant (tokens : List Token) : List Token :=
  kept false tokens

end Grammar

namespace Node

open Token

def keywordContent (word : String) : Content :=
  (.keyword, some (.text word))

def nameContent (name : String) : Content :=
  (.identifier, some (.text name))

def operatorContent (op : Operator) : Content :=
  (.operator, some (.text op.text))

def assignmentContent : Assignment → Content
  | .define => (.define, none)
  | .replace => (.assign, none)
  | .compound text => (.compoundAssign, some (.text text))

def braced (inner : List Content) : List Content :=
  (.openBrace, none) :: (inner ++ [(.closeBrace, none)])

mutual

/-- What a tree says from left to right. A sequence is spelled without braces. -/
def spelling : Node → List Content
  | sequence _ statements => spellingAll statements
  | imports _ moduleName => [keywordContent "import", nameContent moduleName, (.semicolon, none)]
  | assign _ name form value =>
      nameContent name :: assignmentContent form :: (spelling value ++ [(.semicolon, none)])
  | binary _ op left right => spelling left ++ operatorContent op :: spelling right
  | unary _ op operand => operatorContent op :: spelling operand
  | int _ value => [(.integer, some (.integer value))]
  | float _ value => [(.float, some (.float value))]
  | string _ value => [(.string, some (.text value))]
  | reference _ name => [nameContent name]
  | call _ name arguments => nameContent name :: spellingAll arguments
  | member _ moduleName _ name arguments =>
      nameContent moduleName :: (.doubleColon, none) :: nameContent name :: spellingAll arguments
  | array _ elements => (.openBracket, none) :: (spellingAll elements ++ [(.closeBracket, none)])
  | returns _ none => [keywordContent "return", (.semicolon, none)]
  | returns _ (some value) => keywordContent "return" :: (spelling value ++ [(.semicolon, none)])
  | function _ name parameters body =>
      keywordContent "fun" :: nameContent name ::
        (parameters.map nameContent ++ braced (spelling body))
  | expression _ value => spelling value ++ [(.semicolon, none)]
  | conditional _ test thenBlock none =>
      keywordContent "if" :: (spelling test ++ braced (spelling thenBlock))
  | conditional _ test thenBlock (some elseNode) =>
      keywordContent "if" ::
        (spelling test ++ (braced (spelling thenBlock) ++ branchSpelling elseNode))
  | whileLoop _ test body => keywordContent "while" :: (spelling test ++ braced (spelling body))
  | forLoop _ element elements body =>
      keywordContent "for" :: nameContent element :: (spelling elements ++ braced (spelling body))
  | bare _ => []

def spellingAll : List Node → List Content
  | [] => []
  | node :: rest => spelling node ++ spellingAll rest

def branchSpelling : Node → List Content
  | conditional _ test thenBlock none =>
      keywordContent "elif" :: (spelling test ++ braced (spelling thenBlock))
  | conditional _ test thenBlock (some elseNode) =>
      keywordContent "elif" ::
        (spelling test ++ (braced (spelling thenBlock) ++ branchSpelling elseNode))
  | sequence _ statements => keywordContent "else" :: braced (spellingAll statements)
  | _ => []

end

def branchesSpelling : Option Node → List Content
  | none => []
  | some node => branchSpelling node

theorem spelling_conditional (line : Nat) (test thenBlock : Node) (elseNode : Option Node) :
    (conditional line test thenBlock elseNode).spelling = keywordContent "if" ::
      (test.spelling ++ (braced thenBlock.spelling ++ branchesSpelling elseNode)) := by
  cases elseNode <;> simp [spelling, branchesSpelling]

theorem branchSpelling_conditional (line : Nat) (test thenBlock : Node)
    (elseNode : Option Node) :
    (conditional line test thenBlock elseNode).branchSpelling = keywordContent "elif" ::
      (test.spelling ++ (braced thenBlock.spelling ++ branchesSpelling elseNode)) := by
  cases elseNode <;> simp [branchSpelling, branchesSpelling]

end Node

namespace Grammar

open Node Token

def said (tokens : List Token) : List Content :=
  (significant tokens).map content

section Said

variable {token : Token} {rest : List Token}

theorem said_cons (other : token.kind ≠ .keyword) :
    said (token :: rest) =
      if token.kind.isSeparator then said rest else token.content :: said rest := by
  have notElif : token.fits .keyword (some (.text "elif")) = false := by
    simp [Token.fits, other]
  unfold said significant
  rw [kept, notElif]
  cases token.kind.isSeparator <;> simp

theorem said_separator (separator : token.kind.isSeparator = true) :
    said (token :: rest) = said rest := by
  have other : token.kind ≠ .keyword := by
    intro kind
    rw [kind] at separator
    cases separator
  rw [said_cons other, if_pos separator]

theorem said_mark {kind : Kind} (same : token.kind = kind) (mark : kind.spelling?.isSome = true)
    (apart : kind.isSeparator = false) : said (token :: rest) = (kind, none) :: said rest := by
  subst same
  have other : token.kind ≠ .keyword := by
    intro keyword
    rw [keyword] at mark
    cases mark
  rw [said_cons other, if_neg (by simp [apart]), content, if_pos mark]

theorem content_of_open {kind : Kind} (same : token.kind = kind)
    (openKind : kind.spelling? = none) (plain : kind ≠ .compoundAssign) :
    token.content = (kind, token.payload) := by
  subst same
  unfold content
  rw [if_neg (by simp [openKind])]
  split
  next sign _ => exact absurd sign plain
  next sign _ => exact absurd sign plain
  next => rfl

theorem said_payload {kind : Kind} {payload : Payload} (same : token.kind = kind)
    (found : token.payload = some payload) (openKind : kind.spelling? = none)
    (other : kind ≠ .keyword) (plain : kind ≠ .compoundAssign) :
    said (token :: rest) = (kind, some payload) :: said rest := by
  have apart : token.kind.isSeparator = false := by
    rw [same]
    cases kind <;> first | rfl | cases openKind
  rw [said_cons (by rw [same]; exact other), if_neg (by simp [apart]),
    content_of_open same openKind plain, found]

theorem said_name {name : String} (named : token.Named name) :
    said (token :: rest) = nameContent name :: said rest :=
  said_payload named.1 named.2 rfl (by decide) (by decide)

theorem said_operator {op : Operator} (kind : token.kind = .operator)
    (payload : token.payload = some (.text op.text)) :
    said (token :: rest) = operatorContent op :: said rest :=
  said_payload kind payload rfl (by decide) (by decide)

theorem content_compound {text : String} (kind : token.kind = .compoundAssign)
    (payload : token.payload = some (.text text)) :
    token.content = assignmentContent (.ofText text) := by
  unfold content Assignment.ofText
  rw [if_neg (by simp [kind, Kind.spelling?]), kind, payload]
  by_cases defines : text = ":="
  · subst defines
    rfl
  · by_cases replaces : text = "="
    · subst replaces
      rfl
    · simp [defines, replaces, assignmentContent]

theorem said_assignment {form : Assignment} (found : assignmentForm? token = some form) :
    said (token :: rest) = assignmentContent form :: said rest := by
  unfold assignmentForm? at found
  split at found
  next kind =>
    cases found
    exact said_mark kind rfl rfl
  next kind =>
    cases found
    exact said_mark kind rfl rfl
  next kind =>
    obtain ⟨text, written, rfl⟩ := Option.map_eq_some_iff.mp found
    rw [said_cons (by simp [kind]), if_neg (by simp [kind, Kind.isSeparator]),
      content_compound kind (Token.text_eq_some.mp written)]
  next => cases found

theorem said_keyword {word : String} (isKeyword : token.IsKeyword word) (other : word ≠ "elif") :
    said (token :: rest) = keywordContent word :: said rest := by
  have notElif : token.fits .keyword (some (.text "elif")) = false := by
    simpa [leads, other] using leads_keyword isKeyword "elif" []
  have written := content_of_open isKeyword.1 rfl (by decide)
  unfold said significant
  rw [kept, notElif]
  simp [isKeyword.1, Kind.isSeparator, written, isKeyword.2, keywordContent]

theorem kept_afterElif (tokens : List Token) :
    kept true tokens = kept false (skip .keyword (some "if") tokens) := by
  cases tokens with
  | nil => rfl
  | cons token rest =>
      by_cases isIf : token.IsKeyword "if"
      · have fitsIf := Token.fits_keyword.mpr isIf
        have notElif : token.fits .keyword (some (.text "elif")) = false := by
          simpa [leads] using leads_keyword isIf "elif" []
        rw [skip_keyword isIf, kept, notElif, fitsIf]
        simp
      · have unlike : token.fits .keyword (some (.text "if")) = false := by
          rw [Bool.eq_false_iff]
          exact fun fits => isIf (Token.fits_keyword.mp fits)
        have stays : skip .keyword (some "if") (token :: rest) = token :: rest :=
          if_neg (by simp [leads, unlike])
        rw [stays, kept, kept, unlike]
        simp

/-- After an `elif`, an `if` says nothing. -/
theorem said_elif (isKeyword : token.IsKeyword "elif") :
    said (token :: rest) =
      keywordContent "elif" :: said (skip .keyword (some "if") rest) := by
  have written := content_of_open isKeyword.1 rfl (by decide)
  unfold said significant
  rw [kept, Token.fits_keyword.mpr isKeyword, kept_afterElif]
  simp [isKeyword.1, Kind.isSeparator, written, isKeyword.2, keywordContent]

theorem said_skip_comma (tokens : List Token) : said (skip .comma none tokens) = said tokens := by
  cases tokens with
  | nil => rfl
  | cons token rest =>
      unfold skip
      split
      next comma =>
        have kind : token.kind = .comma := Token.fits_kind.mp comma
        rw [List.tail_cons, said_separator (by rw [kind]; rfl)]
      next => rfl

end Said

/-- What is shown of a reading: the tokens taken say what was made of them. Of the brackets around
items only square ones say something. -/
def Phrase.Spelled : Phrase → List Token → List Token → Prop
  | primary node, before, after | expression _ node, before, after
  | condition node, before, after | statement node, before, after =>
      said before = node.spelling ++ said after
  | climb _ left node, before, after =>
      left.spelling ++ said before = node.spelling ++ said after
  | items _ nodes, before, after | statements nodes, before, after =>
      said before = spellingAll nodes ++ said after
  | bracketed opening close nodes, before, after =>
      (opening = .openParen → close = .closeParen →
        said before = spellingAll nodes ++ said after) ∧
      (opening = .openBracket → close = .closeBracket →
        said before = (.openBracket, none) ::
          (spellingAll nodes ++ (.closeBracket, none) :: said after))
  | parameters names, before, after => said before = names.map nameContent ++ said after
  | block node, before, after => said before = braced node.spelling ++ said after
  | conditional node, before, after =>
      keywordContent "if" :: said (skip .keyword (some "if") before) =
        node.spelling ++ said after ∧
      keywordContent "elif" :: said (skip .keyword (some "if") before) =
        node.branchSpelling ++ said after
  | branches elseNode, before, after => said before = branchesSpelling elseNode ++ said after

theorem said_semicolon {token : Token} {rest : List Token} (kind : token.kind = .semicolon) :
    said (token :: rest) = (.semicolon, none) :: said rest :=
  said_mark kind rfl rfl

theorem said_paren {token : Token} {rest : List Token}
    (kind : token.kind = .openParen ∨ token.kind = .closeParen) :
    said (token :: rest) = said rest := by
  refine said_separator ?_
  rcases kind with kind | kind <;> rw [kind] <;> rfl

theorem Reading.spelled {phrase : Phrase} {before after : List Token}
    (reading : Reading phrase before after) : phrase.Spelled before after := by
  induction reading with
  | @unary token text _ _ _ kind payload _ _ ih =>
      have spelled : token.payload = some (.text (Operator.ofText text).text) := by
        rw [payload, Operator.text_ofText]
      simp only [Phrase.Spelled, spelling] at ih ⊢
      rw [said_operator kind spelled, ih, List.cons_append]
  | array _ ih =>
      have spelled := ih.2 rfl rfl
      simp only [Phrase.Spelled, spelling]
      rw [spelled]
      simp
  | int kind payload | float kind payload | string kind payload =>
      exact said_payload kind payload rfl (by decide) (by decide)
  | reference named _ => exact said_name named
  | call named _ ih =>
      have spelled := ih.1 rfl rfl
      simp only [Phrase.Spelled, spelling]
      rw [said_name named, spelled, List.cons_append]
  | member named colons callee _ ih =>
      have spelled := ih.1 rfl rfl
      simp only [Phrase.Spelled, spelling]
      rw [said_name named, said_mark colons rfl rfl, said_name callee, spelled]
      rfl
  | group openingKind _ closingKind ih =>
      simp only [Phrase.Spelled] at ih ⊢
      rw [said_paren (.inl openingKind), ih, said_paren (.inr closingKind)]
  | expression _ _ ihLeft ihNode =>
      simp only [Phrase.Spelled] at ihLeft ihNode ⊢
      rw [ihLeft, ihNode]
  | settle _ => rfl
  | fold found _ _ _ ihRight ihNode =>
      obtain ⟨kind, payload, _⟩ := Token.binaryOperator_eq_some.mp found
      simp only [Phrase.Spelled, spelling] at ihRight ihNode ⊢
      rw [said_operator kind payload, ihRight, ← ihNode]
      simp
  | noItem _ | noStatement _ | noBranch _ _ => rfl
  | item _ _ _ ihNode ihNodes =>
      simp only [Phrase.Spelled, spellingAll] at ihNode ihNodes ⊢
      rw [said_skip_comma] at ihNodes
      rw [ihNode, ihNodes, List.append_assoc]
  | bracketed openingKind _ closingKind ih =>
      simp only [Phrase.Spelled] at ih ⊢
      constructor
      · rintro rfl rfl
        rw [said_paren (.inl openingKind), ih, said_paren (.inr closingKind)]
      · rintro rfl rfl
        rw [said_mark openingKind rfl rfl, ih, said_mark closingKind rfl rfl]
  | condition openingKind _ closingKind ih =>
      simp only [Phrase.Spelled] at ih ⊢
      rw [said_paren (.inl openingKind), ih, said_paren (.inr closingKind)]
  | noParameter _ => rfl
  | parameter named _ ih =>
      simp only [Phrase.Spelled, List.map_cons] at ih ⊢
      rw [said_skip_comma] at ih
      rw [said_name named, ih, List.cons_append]
  | statements _ _ _ ihNode ihNodes =>
      simp only [Phrase.Spelled, spellingAll] at ihNode ihNodes ⊢
      rw [ihNode, ihNodes, List.append_assoc]
  | block openingKind _ closingKind ih =>
      simp only [Phrase.Spelled, spelling, braced] at ih ⊢
      rw [said_mark openingKind rfl rfl, ih, said_mark closingKind rfl rfl]
      simp
  | conditional _ _ _ ihTest ihBlock ihBranches =>
      simp only [Phrase.Spelled] at ihTest ihBlock ihBranches ⊢
      rw [ihTest, ihBlock, ihBranches, spelling_conditional, branchSpelling_conditional]
      simp
  | elifBranch isKeyword _ ih => exact (said_elif isKeyword).trans ih.2
  | elseBranch isKeyword block ih =>
      cases block with
      | block _ _ _ =>
          simp only [Phrase.Spelled, spelling, branchesSpelling, branchSpelling] at ih ⊢
          rw [said_keyword isKeyword (by decide), ih, List.cons_append]
  | ifStatement isKeyword _ ih =>
      have spelled := ih.1
      rw [skip_keyword isKeyword] at spelled
      exact (said_keyword isKeyword (by decide)).trans spelled
  | whileStatement isKeyword _ _ ihTest ihBody =>
      simp only [Phrase.Spelled, spelling] at ihTest ihBody ⊢
      rw [said_keyword isKeyword (by decide), ihTest, ihBody]
      simp
  | forStatement isKeyword openingKind named closingKind _ _ ihArray ihBody =>
      simp only [Phrase.Spelled, spelling] at ihArray ihBody ⊢
      rw [said_keyword isKeyword (by decide), said_paren (.inl openingKind), said_name named,
        said_paren (.inr closingKind), ihArray, ihBody]
      simp
  | functionStatement isKeyword named openingKind _ closingKind _ ihNames ihBody =>
      simp only [Phrase.Spelled, spelling] at ihNames ihBody ⊢
      rw [said_keyword isKeyword (by decide), said_name named, said_paren (.inl openingKind),
        ihNames, said_paren (.inr closingKind), ihBody]
      simp
  | returnNothing isKeyword kind =>
      simp only [Phrase.Spelled, spelling]
      rw [said_keyword isKeyword (by decide), said_semicolon kind]
      rfl
  | returnValue isKeyword _ _ kind ih =>
      simp only [Phrase.Spelled, spelling] at ih ⊢
      rw [said_keyword isKeyword (by decide), ih, said_semicolon kind]
      simp
  | importStatement isKeyword named kind =>
      simp only [Phrase.Spelled, spelling]
      rw [said_keyword isKeyword (by decide), said_name named, said_semicolon kind]
      rfl
  | assignment named found _ kind ih =>
      simp only [Phrase.Spelled, spelling] at ih ⊢
      rw [said_name named, said_assignment found, ih, said_semicolon kind]
      simp
  | expressionStatement _ _ _ kind ih =>
      simp only [Phrase.Spelled, spelling] at ih ⊢
      rw [ih, said_semicolon kind]
      simp

theorem kept_sublist (afterElif : Bool) (tokens : List Token) :
    (kept afterElif tokens).Sublist tokens := by
  induction tokens generalizing afterElif with
  | nil => exact .slnil
  | cons token rest ih =>
      rw [kept]
      split
      · exact .cons token (ih _)
      · exact .cons_cons token (ih _)

end Grammar

namespace Node

open Grammar

/-- Apart from the tokens that only mark structure, the tokens of a program say what its tree
spells out, and the cursor has come to their end. Regular tokens, as all those of a source text,
say their kind and their payload. -/
theorem parse_spells_tokens (tokens : List Token) (file : Option String) (limit : Nat)
    (tree : Node) (parsed : (Node.parse limit tokens file).1 = .ok tree) :
    (significant tokens).map Token.content = tree.spelling ∧
    ((∀ token ∈ tokens, token.Regular) ∨ (∃ source, Token.scan source = .ok tokens) →
      (significant tokens).map (fun token => (token.kind, token.payload)) = tree.spelling) ∧
    (Node.parse limit tokens file).2.cursor.ahead = [] ∧
    (Node.parse limit tokens file).2.cursor.index = tokens.length := by
  have spelled : (significant tokens).map Token.content = tree.spelling := by
    obtain ⟨nodes, rfl, reading, _⟩ := reading_of_parse parsed
    have statements : said tokens = spellingAll nodes ++ said [] := reading.spelled
    rw [spelling, ← List.append_nil (spellingAll nodes)]
    exact statements
  refine ⟨spelled, fun origin => ?_, parse_consumes parsed⟩
  have regular : ∀ token ∈ tokens, token.Regular := by
    rcases origin with regular | ⟨source, scanned⟩
    · exact regular
    · exact Token.regular_of_scan scanned
  rw [← spelled]
  refine List.map_congr_left fun token member => ?_
  exact (regular token ((kept_sublist false tokens).subset member)).content_eq.symm

/-- The tokens of `if (a) { } elif if (b) { f(1,); }`. -/
def branchingTokens : List Token :=
  [⟨.keyword, some (.text "if"), 1⟩, ⟨.openParen, none, 1⟩, ⟨.identifier, some (.text "a"), 1⟩,
    ⟨.closeParen, none, 1⟩, ⟨.openBrace, none, 1⟩, ⟨.closeBrace, none, 1⟩,
    ⟨.keyword, some (.text "elif"), 1⟩, ⟨.keyword, some (.text "if"), 1⟩, ⟨.openParen, none, 1⟩,
    ⟨.identifier, some (.text "b"), 1⟩, ⟨.closeParen, none, 1⟩, ⟨.openBrace, none, 1⟩,
    ⟨.identifier, some (.text "f"), 1⟩, ⟨.openParen, none, 1⟩, ⟨.integer, some (.integer 1), 1⟩,
    ⟨.comma, none, 1⟩, ⟨.closeParen, none, 1⟩, ⟨.semicolon, none, 1⟩, ⟨.closeBrace, none, 1⟩]

theorem parse_spells_branchingTokens :
    ∃ tree, (Node.parse 84 branchingTokens none).1 = .ok tree ∧
      (significant branchingTokens).map Token.content = tree.spelling := by
  have parsed : ∃ tree, (Node.parse 84 branchingTokens none).1 = .ok tree := ⟨_, rfl⟩
  obtain ⟨tree, parsed⟩ := parsed
  exact ⟨tree, parsed, (parse_spells_tokens branchingTokens none 84 tree parsed).1⟩

end Node

end Scriptlet
