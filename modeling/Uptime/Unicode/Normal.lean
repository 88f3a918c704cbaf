import Uptime.Unicode.Composition
import Uptime.Unicode.Map

/-!
# Composed form

A text in composed form has its letters and marks as single code points wherever there is one for
them. `composed` takes the code points apart, puts the marks of each letter into the order of their
combining classes, and joins what there is a code point for. Code points that only stand for another
one are not treated here: the replacement of host names has removed them before.
-/

namespace Uptime.Unicode

/-- What the tables say about joining: classes, and what pairs of code points are joined to. -/
structure Joins where
  classes : List (Range × String)
  /-- A joined code point and its two parts. -/
  pairs : List (Nat × Nat × Nat)

/-- The joins of the tables. -/
def joins : Joins :=
  { classes := readRuns combiningRuns
    pairs := (readMap compositionTable).filterMap fun p => match p.2 with
      | [a, b] => some (p.1, a, b)
      | _ => none }

namespace Joins

/-- The combining class of a code point; letters have class zero. -/
def classOf (j : Joins) (c : Nat) : Nat :=
  match j.classes.find? fun r => c ≤ r.1.last with
  | some r => r.2.toList.foldl (fun n d => n * 10 + (d.toNat - 48)) 0
  | none => 0

/-- A syllable of Hangul is joined of two or three letters; these are the bounds of their ranges. -/
def hangul : Nat := 0xac00

/-- A syllable taken apart. -/
def takeHangulApart (c : Nat) : List Nat :=
  let s := c - hangul
  let start := [0x1100 + s / 588, 0x1161 + s % 588 / 28]
  if s % 28 = 0 then start else start ++ [0x11a7 + s % 28]

/-- A code point taken apart, in at most so many rounds. -/
def takeApart (j : Joins) : Nat → Nat → List Nat
  | 0, c => [c]
  | rounds + 1, c =>
    if hangul ≤ c && c < hangul + 11172 then takeHangulApart c
    else match j.pairs.find? fun p => p.1 == c with
      | some (_, a, b) => j.takeApart rounds a ++ [b]
      | none => [c]

/-- Puts a mark in its place among those that follow a letter. -/
def placeMark (j : Joins) (c : Nat) : List Nat → List Nat
  | [] => [c]
  | d :: ds =>
    if j.classOf d ≠ 0 && j.classOf d < j.classOf c then d :: j.placeMark c ds else c :: d :: ds

/-- Puts the marks of each letter into the order of their classes. -/
def ordered (j : Joins) : List Nat → List Nat
  | [] => []
  | c :: cs => if j.classOf c = 0 then c :: j.ordered cs else j.placeMark c (j.ordered cs)

/-- The code point that two are joined to. -/
def join? (j : Joins) (a b : Nat) : Option Nat :=
  if 0x1100 ≤ a && a < 0x1113 && 0x1161 ≤ b && b < 0x1176 then
    some (hangul + ((a - 0x1100) * 21 + (b - 0x1161)) * 28)
  else if hangul ≤ a && a < hangul + 11172 && (a - hangul) % 28 = 0 && 0x11a8 ≤ b && b < 0x11c3 then
    some (a + (b - 0x11a7))
  else (j.pairs.find? fun p => p.2.1 == a && p.2.2 == b).map (·.1)

/-- Joins marks to the letter before them. `between` are the marks since the letter that could not
be joined to it, and `last` is the class of the last of them. -/
def joinMarks (j : Joins) (letter : Option Nat) (between : List Nat) (last : Nat) :
    List Nat → List Nat
  | [] => letter.toList ++ between
  | c :: cs =>
    let k := j.classOf c
    let joined : Option Nat :=
      if between.isEmpty || last < k then letter.bind fun a => j.join? a c else none
    match joined with
    | some d => j.joinMarks (some d) between last cs
    | none =>
      if k = 0 then letter.toList ++ between ++ j.joinMarks (some c) [] 0 cs
      else match letter with
        | some _ => j.joinMarks letter (between ++ [c]) k cs
        | none => c :: j.joinMarks none [] 0 cs

end Joins

/-- The composed form of a text. -/
def composed (cs : List Nat) : List Nat :=
  let j := joins
  j.joinMarks none [] 0 (j.ordered (cs.flatMap (j.takeApart 8)))

end Uptime.Unicode
