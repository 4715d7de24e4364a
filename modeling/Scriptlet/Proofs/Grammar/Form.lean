import Scriptlet.Proofs.Grammar.Printing

/-!
The form of parsed trees. What is read as an expression, a statement or a block is well formed as
one, so the trees that parsing gives are programs.
-/

namespace Scriptlet

theorem Assignment.ofText_text_ofText (text : String) :
    ofText (ofText text).text = ofText text := by
  by_cases defines : text = ":="
  · rw [defines]
    rfl
  · by_cases replaces : text = "="
    · rw [replaces]
      rfl
    · simp [ofText, Assignment.text, defines, replaces]

namespace Grammar

open Node

theorem ofText_text_of_form {sign : Token} {form : Assignment}
    (found : assignmentForm? sign = some form) : Assignment.ofText form.text = form := by
  unfold assignmentForm? at found
  split at found
  · cases found
    rfl
  · cases found
    rfl
  · obtain ⟨text, _, rfl⟩ := Option.map_eq_some_iff.mp found
    exact Assignment.ofText_text_ofText text
  · cases found

def Phrase.Formed : Phrase → Prop
  | .primary node | .expression _ node | .condition node => WellFormed .expression node
  | .climb _ left node => WellFormed .expression left → WellFormed .expression node
  | .items _ nodes | .bracketed _ _ nodes => ∀ node ∈ nodes, WellFormed .expression node
  | .parameters _ => True
  | .statements nodes => ∀ node ∈ nodes, WellFormed .statement node
  | .block node => WellFormed .block node
  | .conditional node => WellFormed .statement node ∧ WellFormed .branch node
  | .branches elseNode => ∀ node ∈ elseNode, WellFormed .branch node
  | .statement node => WellFormed .statement node

theorem Reading.formed {phrase : Phrase} {before after : List Token}
    (reading : Reading phrase before after) : phrase.Formed := by
  induction reading with
  | unary _ _ isUnary _ ih => exact .unary isUnary ih
  | array _ ih => exact .array ih
  | int => exact .int
  | float => exact .float
  | string => exact .string
  | reference => exact .reference
  | call _ _ ih => exact .call ih
  | member _ _ _ _ ih => exact .member ih
  | group _ _ _ ih => exact ih
  | expression _ _ ihLeft ihClimb => exact ihClimb ihLeft
  | settle => exact id
  | fold found _ _ _ ihRight ihClimb =>
      intro left
      have ranked := (Token.binaryOperator_eq_some.mp found).2.2
      exact ihClimb (.binary (by simp [ranked]) left ihRight)
  | noItem => exact fun _ member => absurd member List.not_mem_nil
  | item _ _ _ ihNode ihNodes => exact List.forall_mem_cons.mpr ⟨ihNode, ihNodes⟩
  | bracketed _ _ _ ih => exact ih
  | condition _ _ _ ih => exact ih
  | noParameter => trivial
  | parameter => trivial
  | noStatement => exact fun _ member => absurd member List.not_mem_nil
  | statements _ _ _ ihNode ihNodes => exact List.forall_mem_cons.mpr ⟨ihNode, ihNodes⟩
  | block _ _ _ ih => exact .sequence ih
  | conditional _ _ _ ihTest ihBlock ihBranches =>
      exact ⟨.conditional ihTest ihBlock ihBranches,
        .elseIf (.conditional ihTest ihBlock ihBranches)⟩
  | noBranch => exact fun _ member => nomatch member
  | elifBranch _ _ ih =>
      intro node member
      cases member
      exact ih.2
  | elseBranch _ _ ih =>
      intro node member
      cases member
      exact .elseBlock ih
  | ifStatement _ _ ih => exact ih.1
  | whileStatement _ _ _ ihTest ihBody => exact .whileLoop ihTest ihBody
  | forStatement _ _ _ _ _ _ ihArray ihBody => exact .forLoop ihArray ihBody
  | functionStatement _ _ _ _ _ _ _ ihBody => exact .function ihBody
  | returnNothing => exact .returns fun _ member => nomatch member
  | returnValue _ _ _ _ ih =>
      refine .returns fun node member => ?_
      cases member
      exact ih
  | importStatement => exact .imports
  | assignment _ found _ _ ih => exact .assign (ofText_text_of_form found) ih
  | expressionStatement _ _ _ _ ih => exact .expression ih

end Grammar

theorem Node.wellFormed_of_parse {limit : Nat} {tokens : List Token} {file : Option String}
    {tree : Node} (parsed : (Node.parse limit tokens file).1 = .ok tree) :
    WellFormed .block tree := by
  obtain ⟨nodes, rfl, reading, _⟩ := reading_of_parse parsed
  exact .sequence reading.formed

end Scriptlet
