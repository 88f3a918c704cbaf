import Uptime.Regex.Reader
import Uptime.Regex.Size

/-!
# Matching

A text with `n` characters has `n + 1` places, and a set of places is a number in binary: place `i`
is in it if bit `i` is set. An expression turns the places where it may start into those where it
may end (`Node.ends`). For that, sets of characters are replaced by the places that such a character
follows, and conditions by the places where they hold.
-/

namespace Uptime.Regex

open Unicode

/-- A set of places of a text, bit by bit. -/
abbrev Places := Nat

/-- The places that are as listed. -/
def Places.ofBools (bs : List Bool) : Places :=
  bs.foldr (fun b n => 2 * n + b.toNat) 0

/-! ## Conditions -/

/-- Whether a word character is at a side of a place. -/
def isWordAt (unicode : Bool) (c : Option Nat) : Bool :=
  match c with
  | none => false
  | some n =>
    if unicode then wordCharacters.has n
    else n < 128 && ((Char.ofNat n).isAlphanum || n == 95)

/-- Whether a condition holds between two characters; there is none beyond an end of the text. -/
def Look.holds (before after : Option Nat) : Look → Bool
  | .textStart => before.isNone
  | .textEnd => after.isNone
  | .lineStart => before.isNone || before == some 10
  | .lineEnd => after.isNone || after == some 10
  | .anyLineStart =>
    before.isNone || before == some 10 || (before == some 13 && after != some 10)
  | .anyLineEnd => after.isNone || after == some 13 || (after == some 10 && before != some 13)
  | .word unicode test => test (isWordAt unicode before) (isWordAt unicode after)

/-- The places of a text where a condition holds. -/
def Look.places (text : List Nat) (l : Look) : Places :=
  let befores := none :: text.map some
  let afters := text.map some ++ [none]
  Places.ofBools ((befores.zip afters).map fun p => l.holds p.1 p.2)

/-- The places of a text that a character of the set follows. -/
def setPlaces (text : List Nat) (rs : Ranges) : Places := Places.ofBools (text.map rs.has)

/-! ## Expressions -/

/-- Applies a function so many times, or until it changes nothing. -/
def repeatedly (f : Places → Places) : Nat → Places → Places
  | 0, s => s
  | n + 1, s =>
    let t := f s
    if t = s then s else repeatedly f n t

/-- Adds what a function reaches so many times, or until it reaches nothing new. -/
def reach (f : Places → Places) : Nat → Places → Places
  | 0, s => s
  | n + 1, s =>
    let t := s ||| f s
    if t = s then s else reach f n t

/-- The places where an expression ends that starts at one of these. No text of `length` characters
needs more rounds than that without a bound. -/
def Node.ends (length : Nat) : Node Places Places → Places → Places
  | .empty, s => s
  | .one places, s => (s &&& places) <<< 1
  | .look places, s => s &&& places
  | .seq a b, s => b.ends length (a.ends length s)
  | .alt a b, s => a.ends length s ||| b.ends length s
  | .rounds low high body, s =>
    let more := match high with
      | some high => high - low
      | none => length + 1
    reach (body.ends length) more (repeatedly (body.ends length) low s)
  | .group body, s => body.ends length s

namespace Expr

/-- The places of a text where an expression ends that starts at one of these. -/
def ends (e : Expr) (text : List Nat) (starts : Places) : Places :=
  (e.map (setPlaces text) (Look.places text)).ends text.length starts

/-- Whether an expression matches a part of a text. -/
def isMatch (e : Expr) (text : List Char) : Bool :=
  let points := text.map Char.toNat
  e.ends points (Nat.pow 2 (points.length + 1) - 1) != 0

end Expr

/-- The expression that a text writes, unless it would need too large an automaton. -/
def compile? (pattern : String) : Option Expr := (Expr.read? pattern.toList).filter Expr.fits

/-- Whether a pattern is an expression that matches a part of a text. -/
def matches? (pattern text : String) : Option Bool :=
  (compile? pattern).map (·.isMatch text.toList)

end Uptime.Regex
