import Scriptlet.Proofs.Token.Source

/-!
What a token says, its line apart. The tokens of a source text are well formed and regular: they
carry a payload exactly where their kind leaves something open, and it is of the form that goes with
the kind.
-/

namespace Scriptlet

namespace Token

abbrev Content := Kind × Option Payload

/-- A kind with one spelling says no more than its name, and the text of a plain assignment is
taken for what it spells. -/
def content (token : Token) : Content :=
  if token.kind.spelling?.isSome then (token.kind, none)
  else
    match token.kind, token.payload with
    | .compoundAssign, some (.text ":=") => (.define, none)
    | .compoundAssign, some (.text "=") => (.assign, none)
    | kind, payload => (kind, payload)

/-- Whether the payload is one that the kind calls for, as it is in the tokens of a source text. -/
structure Regular (token : Token) : Prop where
  mark : token.kind.spelling?.isSome = true → token.payload = none
  sign : token.kind = .compoundAssign →
    token.payload ≠ some (.text ":=") ∧ token.payload ≠ some (.text "=")

theorem Regular.content_eq {token : Token} (regular : token.Regular) :
    token.content = (token.kind, token.payload) := by
  unfold content
  by_cases marked : token.kind.spelling?.isSome = true
  · rw [if_pos marked, regular.mark marked]
  · rw [if_neg marked]
    split
    next kind payload => exact absurd payload (regular.sign kind).1
    next kind payload => exact absurd payload (regular.sign kind).2
    next => rfl

inductive Formed : Token → Prop
  | text {kind : Kind} {text : String} {line : Nat} :
      kind ∈ [.operator, .string, .identifier, .keyword, .compoundAssign] →
      Formed ⟨kind, some (.text text), line⟩
  | integer {value : Int} {line : Nat} : Formed ⟨.integer, some (.integer value), line⟩
  | float {value : Float} {line : Nat} : Formed ⟨.float, some (.float value), line⟩
  | mark {kind : Kind} {line : Nat} : kind.spelling?.isSome = true → Formed ⟨kind, none, line⟩

theorem formed_of_scan {source : String} {tokens : List Token}
    (scanned : scan source = .ok tokens) : ∀ token ∈ tokens, token.Formed := by
  intro token member
  cases (lexical_of_scan scanned member).1 with
  | name | keyword | string | operator | compound => exact .text (by decide)
  | integer => exact .integer
  | float => exact .float
  | mark spelled => exact .mark spelled

theorem Lexical.regular {token : Token} (lexical : token.Lexical) : token.Regular := by
  cases lexical with
  | mark => exact ⟨fun _ => rfl, fun _ => ⟨nofun, nofun⟩⟩
  | compound member =>
      refine ⟨nofun, fun _ => ?_⟩
      constructor <;> rintro ⟨⟩ <;> revert member <;> decide
  | name | keyword | integer | float | string | operator => exact ⟨nofun, nofun⟩

theorem regular_of_scan {source : String} {tokens : List Token}
    (scanned : scan source = .ok tokens) : ∀ token ∈ tokens, token.Regular :=
  fun _ member => (lexical_of_scan scanned member).1.regular

end Token

end Scriptlet
