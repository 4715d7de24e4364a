import Scriptlet.Proofs.Grammar.Depth
import Scriptlet.Proofs.Grammar.Soundness

/-!
What precedence climbing computes. It sees operators one at a time, yet the tree it makes of a chain
of primaries is the one that a look at the whole chain gives: the chain is split at the leftmost
operator of the least precedence, and both parts in the same way.
-/

namespace Scriptlet.Grammar

open Scriptlet.Parser

structure Link where
  token : Token
  op : Operator
  precedence : Nat
  operand : Node
  binary : binaryOperator? token = some (op, precedence)

/-- The leftmost link of the least precedence, with the links before and after it. -/
def lowest? : List Link → Option (List Link × Link × List Link)
  | [] => none
  | link :: rest =>
      match lowest? rest with
      | none => some ([], link, [])
      | some (before, low, after) =>
          if link.precedence ≤ low.precedence then some ([], link, rest)
          else some (link :: before, low, after)

theorem eq_nil_of_lowest {links : List Link} (absent : lowest? links = none) : links = [] := by
  cases links with
  | nil => rfl
  | cons link rest =>
      rw [lowest?] at absent
      split at absent
      · cases absent
      · split at absent <;> cases absent

/-- The links of a chain are split at `low`: to its left all bind tighter, to its right none binds
less tight. -/
structure Lowest (before : List Link) (low : Link) (after : List Link) : Prop where
  before : ∀ link ∈ before, low.precedence < link.precedence
  after : ∀ link ∈ after, low.precedence ≤ link.precedence

theorem split_of_lowest {links before after : List Link} {low : Link}
    (cut : lowest? links = some (before, low, after)) :
    links = before ++ low :: after ∧ Lowest before low after := by
  induction links generalizing before low after with
  | nil => cases cut
  | cons link rest ih =>
      rw [lowest?] at cut
      cases found : lowest? rest with
      | none =>
          rw [found] at cut
          cases cut
          rw [eq_nil_of_lowest found]
          exact ⟨rfl, by simp, by simp⟩
      | some split =>
          obtain ⟨inner, lower, outer⟩ := split
          rw [found] at cut
          dsimp only at cut
          obtain ⟨whole, least⟩ := ih found
          split at cut
          next atMost =>
            cases cut
            refine ⟨rfl, by simp, ?_⟩
            rw [whole]
            intro other member
            rcases List.mem_append.mp member with tighter | member
            · exact Nat.le_trans atMost (Nat.le_of_lt (least.before other tighter))
            · rcases List.mem_cons.mp member with rfl | later
              · exact atMost
              · exact Nat.le_trans atMost (least.after other later)
          next above =>
            cases cut
            refine ⟨congrArg (link :: ·) whole, ?_, least.after⟩
            exact List.forall_mem_cons.mpr ⟨Nat.lt_of_not_le above, least.before⟩

theorem lowest_append {before after : List Link} {low : Link} (least : Lowest before low after) :
    lowest? (before ++ low :: after) = some (before, low, after) := by
  induction before with
  | nil =>
      rw [List.nil_append, lowest?]
      cases found : lowest? after with
      | none =>
          rw [eq_nil_of_lowest found]
      | some split =>
          obtain ⟨inner, lower, outer⟩ := split
          have member : lower ∈ after := by simp [(split_of_lowest found).1]
          exact if_pos (least.after lower member)
  | cons link before ih =>
      obtain ⟨above, others⟩ := List.forall_mem_cons.mp least.before
      rw [List.cons_append, lowest?, ih ⟨others, least.after⟩]
      exact if_neg (Nat.not_le.mpr above)

/-- The tree of a chain: a primary stands for itself, and a longer chain is split at the leftmost
operator of the least precedence. -/
def tree (first : Node) (links : List Link) : Node :=
  match _ : lowest? links with
  | none => first
  | some (before, low, after) =>
      .binary low.token.line low.op (tree first before) (tree low.operand after)
termination_by links.length
decreasing_by
  all_goals
    have whole := congrArg List.length (split_of_lowest ‹_›).1
    rw [List.length_append, List.length_cons] at whole
    omega

theorem tree_nil (first : Node) : tree first [] = first := by
  rw [tree]
  rfl

theorem tree_append (first : Node) {before after : List Link} {low : Link}
    (least : Lowest before low after) :
    tree first (before ++ low :: after) =
      .binary low.token.line low.op (tree first before) (tree low.operand after) := by
  rw [tree]
  split
  next none => rw [lowest_append least] at none; cases none
  next inner lower outer cut =>
    rw [lowest_append least] at cut
    cases cut
    rfl

/-- From just after a primary, the links come one after the other: each operator and, at its
position, the primary that stands there. -/
inductive Chained (depth : Nat) : State → List Link → State → Prop
  | nil (state : State) : Chained depth state [] state
  | cons {state advanced reached last : State} {link : Link} {links : List Link}
      (head : state.cursor.ahead.head? = some link.token)
      (moved : advance.Yields state () advanced)
      (operand : (primary depth).Yields advanced link.operand reached)
      (rest : Chained depth reached links last) : Chained depth state (link :: links) last

theorem Chained.split {depth : Nat} {state last : State} (links : List Link) {others : List Link}
    (chained : Chained depth state (links ++ others) last) :
    ∃ middle, Chained depth state links middle ∧ Chained depth middle others last := by
  induction links generalizing state with
  | nil => exact ⟨state, .nil state, chained⟩
  | cons link links ih =>
      cases chained with
      | cons head moved operand rest =>
          obtain ⟨middle, first, second⟩ := ih rest
          exact ⟨middle, .cons head moved operand first, second⟩

section Climb

variable {operand : Nat → Parser Node} {floor : Nat} {state : State}

theorem climb_settled (settled : Settled floor state.cursor.ahead) (rounds : List Token)
    (left : Node) : (climb operand floor rounds left).Yields state left state := by
  cases rounds with
  | nil => rfl
  | cons _ rounds =>
      rw [climb]
      refine yields_bind.mpr ⟨state.cursor.ahead.head?, state, rfl, ?_⟩
      cases head : state.cursor.ahead.head? with
      | none => rfl
      | some token =>
          dsimp only
          cases binary : binaryOperator? token with
          | none => rfl
          | some found =>
              obtain ⟨op, precedence⟩ := found
              dsimp only
              rw [if_pos (settled token op precedence head binary)]
              rfl

theorem climb_step {link : Link} (head : state.cursor.ahead.head? = some link.token)
    (above : floor ≤ link.precedence) {advanced reached last : State} {left right node : Node}
    {round : Token} {rounds : List Token}
    (moved : advance.Yields state () advanced)
    (read : (operand link.precedence).Yields advanced right reached)
    (climbed : (climb operand floor rounds (.binary link.token.line link.op left right)).Yields
      reached node last) :
    (climb operand floor (round :: rounds) left).Yields state node last := by
  rw [climb]
  refine yields_bind.mpr ⟨some link.token, state, head ▸ rfl, ?_⟩
  dsimp only
  rw [link.binary]
  dsimp only
  rw [if_neg (Nat.not_lt.mpr above)]
  exact yields_bind.mpr ⟨(), advanced, moved, yields_bind.mpr ⟨right, reached, read, climbed⟩⟩

end Climb

/-- The links up to the first operator below the floor. -/
def upTo (floor : Nat) (links : List Link) : List Link :=
  links.takeWhile fun link => floor ≤ link.precedence

theorem le_of_mem_upTo {floor : Nat} {links : List Link} :
    ∀ link ∈ upTo floor links, floor ≤ link.precedence := by
  intro link member
  exact of_decide_eq_true (List.all_eq_true.mp List.all_takeWhile link member)

theorem exists_append_upTo (floor : Nat) (links : List Link) :
    ∃ others, links = upTo floor links ++ others ∧
      ∀ link ∈ others.head?, link.precedence < floor := by
  induction links with
  | nil => exact ⟨[], rfl, by simp⟩
  | cons link links ih =>
      unfold upTo at ih ⊢
      rw [List.takeWhile_cons]
      split
      · obtain ⟨others, whole, next⟩ := ih
        exact ⟨others, congrArg (link :: ·) whole, next⟩
      next below =>
        refine ⟨link :: links, rfl, ?_⟩
        rintro _ ⟨⟩
        simpa using below

theorem Chained.settled {depth floor : Nat} {state last : State} {links : List Link}
    (chained : Chained depth state links last)
    (below : ∀ link ∈ links.head?, link.precedence < floor)
    (settled : Settled floor last.cursor.ahead) : Settled floor state.cursor.ahead := by
  cases chained with
  | nil => exact settled
  | @cons _ _ _ _ link links head moved operand rest =>
      intro token op precedence found binary
      rw [head] at found
      cases found
      rw [link.binary] at binary
      cases binary
      exact below link rfl

/-- With fewer links than levels to spare, an expression is the tree of its links. -/
def ReadsChains (depth levels : Nat) : Prop :=
  ∀ {state reached stop : State} {first : Node} {links : List Link} {floor : Nat},
    (primary depth).Yields state first reached → Chained depth reached links stop →
    (∀ link ∈ links, floor ≤ link.precedence) → Settled floor stop.cursor.ahead →
    depth + links.length < levels → (expression levels floor).Yields state (tree first links) stop

/-- The loop has folded the links in `done`, and the next operator binds less tight than they all.
So each operator it comes to is the leftmost of the least precedence so far, and stays it until the
operand after it, which takes the links that do not bind less tight, has been read. -/
theorem climb_chained {depth levels floor : Nat} (reads : ReadsChains depth levels)
    {rounds : List Token} {state stop : State} {first : Node} {done links : List Link}
    (enough : state.cursor.ahead.length ≤ rounds.length) (chained : Chained depth state links stop)
    (above : ∀ link ∈ links, floor ≤ link.precedence) (settled : Settled floor stop.cursor.ahead)
    (spare : depth + links.length ≤ levels)
    (tighter : ∀ low ∈ links.head?, ∀ link ∈ done, low.precedence < link.precedence) :
    (climb (expression levels) floor rounds (tree first done)).Yields state
      (tree first (done ++ links)) stop := by
  induction rounds generalizing state done links with
  | nil =>
      cases chained with
      | nil =>
          rw [List.append_nil]
          exact climb_settled settled _ _
      | cons head =>
          rw [List.eq_nil_of_length_eq_zero (Nat.le_zero.mp enough)] at head
          cases head
  | cons _ rounds ih =>
      cases chained with
      | nil =>
          rw [List.append_nil]
          exact climb_settled settled _ _
      | @cons _ advanced operandEnd _ link links head moved operand rest =>
          obtain ⟨others, whole, next⟩ := exists_append_upTo link.precedence links
          generalize tookAll : upTo link.precedence links = taken at whole
          have high : ∀ other ∈ taken, link.precedence ≤ other.precedence := by
            rw [← tookAll]
            exact le_of_mem_upTo
          subst whole
          obtain ⟨atFloor, aboveRest⟩ := List.forall_mem_cons.mp above
          obtain ⟨middle, near, far⟩ := Chained.split taken rest
          rw [List.length_cons, List.length_append] at spare
          have read : (expression levels link.precedence).Yields advanced
              (tree link.operand taken) middle :=
            reads operand near high (far.settled next (settled.mono atFloor)) (by omega)
          have least : Lowest done link taken := ⟨tighter link rfl, high⟩
          have shorter : middle.cursor.ahead.length ≤ rounds.length := by
            have step := ((expression_makes levels _) _ _ _ read).length_le
            rw [advance_yields moved, List.length_tail] at step
            rw [List.length_cons] at enough
            omega
          have lower : ∀ low ∈ others.head?, ∀ other ∈ done ++ link :: taken,
              low.precedence < other.precedence := by
            intro low found other member
            have below := next low found
            rcases List.mem_append.mp member with before | after
            · exact Nat.lt_trans below (tighter link rfl other before)
            · rcases List.mem_cons.mp after with rfl | after
              · exact below
              · exact Nat.lt_of_lt_of_le below (high other after)
          have climbed := ih shorter far (fun other member => aboveRest other (by simp [member]))
            (by omega) lower
          rw [tree_append first least] at climbed
          rw [show done ++ link :: (taken ++ others) = done ++ link :: taken ++ others by simp]
          exact climb_step head atFloor moved read climbed

theorem reads_chains (depth levels : Nat) : ReadsChains depth levels := by
  induction levels with
  | zero =>
      intro _ _ _ _ links _ _ _ _ _ spare
      omega
  | succ levels ih =>
      intro state reached stop first links floor started chained above settled spare
      have closer : (primary depth).Approximates (primary levels) :=
        .of_le (fun depth => (expression_rules_approximate depth).1) (by omega)
      have climbed : (climb (expression levels) floor reached.cursor.ahead (tree first [])).Yields
          reached (tree first ([] ++ links)) stop :=
        climb_chained ih (Nat.le_refl _) chained above settled (by omega) (by simp)
      rw [tree_nil] at climbed
      rw [expression]
      exact yields_bind.mpr ⟨first, reached, closer.yields started,
        yields_bind.mpr ⟨_, reached, rfl, climbed⟩⟩

/-- The tree of a chain is read, whatever the floor: the expression takes the links up to the first
operator below the floor and ends there. It has enough levels if they exceed those of the primaries
by more than the links it takes; with fewer it may only halt for want of depth. -/
theorem expression_splits_at_leftmost_lowest {depth : Nat} {state reached last : State}
    {first : Node} {links : List Link} (floor : Nat)
    (started : (primary depth).Yields state first reached)
    (chained : Chained depth reached links last)
    (ended : ∀ token, last.cursor.ahead.head? = some token → binaryOperator? token = none) :
    ∃ stop, Chained depth reached (upTo floor links) stop ∧
      ∀ levels,
        (depth + (upTo floor links).length < levels →
          (expression levels floor).Yields state (tree first (upTo floor links)) stop) ∧
        (((expression levels floor).outcome state).1 = .error .tooDeep ∨
          (expression levels floor).Yields state (tree first (upTo floor links)) stop) := by
  obtain ⟨others, whole, next⟩ := exists_append_upTo floor links
  rw [whole] at chained
  obtain ⟨stop, near, far⟩ := chained.split
  have settled : Settled floor stop.cursor.ahead := by
    refine far.settled next ?_
    intro token op precedence head binary
    rw [ended token head] at binary
    cases binary
  have reads (levels : Nat) (spare : depth + (upTo floor links).length < levels) :
      (expression levels floor).Yields state (tree first (upTo floor links)) stop :=
    reads_chains depth levels started near le_of_mem_upTo settled spare
  refine ⟨stop, near, fun levels => ⟨reads levels, ?_⟩⟩
  let ample := max levels (depth + (upTo floor links).length + 1)
  have closer : (expression levels floor).Approximates (expression ample floor) :=
    .of_le (fun levels => expression_approximates levels floor) (Nat.le_max_left _ _)
  rcases closer state with halted | same
  · exact .inl halted
  · exact .inr (same.trans (reads ample (by omega)))

/-- `1 - 2 * 3 - 4 == 5`, over three lines: the last two operators each begin one. -/
def mixedTokens : List Token :=
  [⟨.integer, some (.integer 1), 1⟩, ⟨.operator, some (.text "-"), 1⟩,
    ⟨.integer, some (.integer 2), 1⟩, ⟨.operator, some (.text "*"), 1⟩,
    ⟨.integer, some (.integer 3), 1⟩, ⟨.operator, some (.text "-"), 2⟩,
    ⟨.integer, some (.integer 4), 2⟩, ⟨.operator, some (.text "=="), 3⟩,
    ⟨.integer, some (.integer 5), 3⟩]

def mixedLinks : List Link :=
  [⟨⟨.operator, some (.text "-"), 1⟩, .subtract, 5, .int 1 2, rfl⟩,
    ⟨⟨.operator, some (.text "*"), 1⟩, .multiply, 6, .int 1 3, rfl⟩,
    ⟨⟨.operator, some (.text "-"), 2⟩, .subtract, 5, .int 2 4, rfl⟩,
    ⟨⟨.operator, some (.text "=="), 3⟩, .equal, 3, .int 3 5, rfl⟩]

def mixedAfter (count : Nat) : State :=
  ⟨⟨(mixedTokens.take count).reverse, mixedTokens.drop count, 0, none⟩, []⟩

theorem expression_mixed_splits :
    (primary 1).Yields (mixedAfter 0) (.int 1 1) (mixedAfter 1) ∧
    Chained 1 (mixedAfter 1) mixedLinks (mixedAfter 9) ∧
    (∀ token, (mixedAfter 9).cursor.ahead.head? = some token → binaryOperator? token = none) ∧
    ∃ stop, Chained 1 (mixedAfter 1) (mixedLinks.take 3) stop ∧
      (expression 5 4).Yields (mixedAfter 0)
        (.binary 1 .subtract (.int 1 1)
          (.binary 2 .subtract (.binary 1 .multiply (.int 1 2) (.int 1 3)) (.int 2 4))) stop := by
  have started : (primary 1).Yields (mixedAfter 0) (.int 1 1) (mixedAfter 1) := rfl
  have chained : Chained 1 (mixedAfter 1) mixedLinks (mixedAfter 9) :=
    .cons rfl (rfl : _ = (_, mixedAfter 2)) (rfl : _ = (_, mixedAfter 3)) <|
    .cons rfl (rfl : _ = (_, mixedAfter 4)) (rfl : _ = (_, mixedAfter 5)) <|
    .cons rfl (rfl : _ = (_, mixedAfter 6)) (rfl : _ = (_, mixedAfter 7)) <|
    .cons rfl (rfl : _ = (_, mixedAfter 8)) (rfl : _ = (_, mixedAfter 9)) <| .nil _
  have ended : ∀ token, (mixedAfter 9).cursor.ahead.head? = some token →
      binaryOperator? token = none := nofun
  obtain ⟨stop, taken, reads⟩ := expression_splits_at_leftmost_lowest 4 started chained ended
  have read := (reads 5).1 (by decide)
  refine ⟨started, chained, ended, stop, taken, ?_⟩
  simpa [tree, lowest?, upTo, mixedLinks] using read

end Scriptlet.Grammar
