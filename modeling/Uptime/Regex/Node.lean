import Uptime.Unicode.Named

/-!
# Regular expressions

What a regular expression is built of. Groups are kept only because they count when the size of an
expression is bounded. Whether a repetition prefers few or many rounds has no bearing on whether
there is a match, so it is not kept.
-/

namespace Uptime.Regex

open Unicode

/-- A condition on the place between two characters. -/
inductive Look where
  | textStart
  | textEnd
  /-- After the start of the text or a line feed. -/
  | lineStart
  | lineEnd
  /-- The same where a carriage return ends a line as well, but not one inside a pair with a line
  feed. -/
  | anyLineStart
  | anyLineEnd
  /-- Whether a word character stands before and after, where `unicode` says which ones count. -/
  | word (unicode : Bool) (test : Bool → Bool → Bool)

/-- A regular expression over sets of characters `σ` and conditions `τ`. -/
inductive Node (σ τ : Type) where
  | empty
  /-- One character of the set. -/
  | one (set : σ)
  | look (condition : τ)
  | seq (first second : Node σ τ)
  | alt (left right : Node σ τ)
  /-- At least `low` rounds, and at most `high` if there is a bound. -/
  | rounds (low : Nat) (high : Option Nat) (body : Node σ τ)
  | group (body : Node σ τ)

namespace Node

/-- The same expression over other sets and conditions. -/
def map (f : σ → σ') (g : τ → τ') : Node σ τ → Node σ' τ'
  | .empty => .empty
  | .one set => .one (f set)
  | .look condition => .look (g condition)
  | .seq a b => .seq (a.map f g) (b.map f g)
  | .alt a b => .alt (a.map f g) (b.map f g)
  | .rounds low high body => .rounds low high (body.map f g)
  | .group body => .group (body.map f g)

/-- Whether the expression can take no character at all. -/
def isWidthless : Node σ τ → Bool
  | .empty | .look _ => true
  | .one _ => false
  | .seq a b | .alt a b => a.isWidthless && b.isWidthless
  | .rounds _ high body => high == some 0 || body.isWidthless
  | .group body => body.isWidthless

/-- Whether the expression can do without any character. -/
def isNullable : Node σ τ → Bool
  | .empty | .look _ => true
  | .one _ => false
  | .seq a b => a.isNullable && b.isNullable
  | .alt a b => a.isNullable || b.isNullable
  | .rounds low _ body => low == 0 || body.isNullable
  | .group body => body.isNullable

end Node

/-- A regular expression. -/
abbrev Expr := Node Ranges Look

namespace Expr

/-- One after the other. -/
def append : Expr → Expr → Expr
  | .empty, b => b
  | a, .empty => a
  | a, b => .seq a b

/-- Either of two; two sets of characters become one. -/
def either : Expr → Expr → Expr
  | .one a, .one b => .one (Ranges.union a b)
  | a, b => .alt a b

/-- Rounds of an expression. One that takes no character needs no second round. -/
def repeated (low : Nat) (high : Option Nat) (body : Expr) : Expr :=
  let once := body.isWidthless
  let low := if once then min low 1 else low
  let high := if once then some (min (high.getD 1) 1) else high
  if high = some 0 then .empty
  else if low = 1 ∧ high = some 1 then body
  else .rounds low high body

end Expr

end Uptime.Regex
