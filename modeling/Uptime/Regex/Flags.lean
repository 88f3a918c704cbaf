import Uptime.Regex.Node
import Uptime.Unicode.CaseFolding

/-!
# Flags

Flags are letters that change how the rest of a group is read. Without the flag `u` a set of
characters is a set of single bytes; since a text may only be matched at whole characters, such sets
hold nothing beyond ASCII and cannot be inverted.
-/

namespace Uptime.Regex

open Unicode

/-- How an expression is read. -/
structure Flags where
  /-- `i`: letter case does not count. -/
  anyCase : Bool := false
  /-- `m`: lines begin and end inside the text. -/
  lines : Bool := false
  /-- `s`: a point stands for the end of a line as well. -/
  dotAll : Bool := false
  /-- `R`: a carriage return ends a line as well. -/
  returns : Bool := false
  /-- `u`: sets hold characters and not bytes. -/
  unicode : Bool := true
  /-- `x`: blanks and remarks in the expression do not count. -/
  spaced : Bool := false
deriving DecidableEq, Repr

namespace Flags

/-- The flags with one of them set as wanted; one for the preference of repetitions changes nothing
here. There is none for any other letter. -/
def set? (f : Flags) (letter : Char) (on : Bool) : Option Flags :=
  match letter with
  | 'i' => some { f with anyCase := on }
  | 'm' => some { f with lines := on }
  | 's' => some { f with dotAll := on }
  | 'R' => some { f with returns := on }
  | 'u' => some { f with unicode := on }
  | 'x' => some { f with spaced := on }
  | 'U' => some f
  | _ => none

/-- Reads letters up to a colon or a closing parenthesis; a minus sign, which may stand once and not
last, parts those that are set from those that are taken back. No letter may stand twice. The flags,
whether there was any letter, and the text from the mark on. -/
def read? (f : Flags) (seen : List Char) : List Char → Option (Flags × Bool × List Char)
  | [] => none
  | c :: cs =>
    if c = ':' || c = ')' then
      if seen.head? = some '-' then none else some (f, !seen.isEmpty, c :: cs)
    else if seen.contains c then none
    else if c = '-' then f.read? (c :: seen) cs
    else match f.set? c (!seen.contains '-') with
      | some g => g.read? (c :: seen) cs
      | none => none

/-! ## Sets of characters -/

/-- All characters. -/
def everyCharacter : Ranges := Ranges.minus [⟨0, lastCodePoint⟩] surrogates

/-- The ASCII letters of both cases for those of one. -/
def foldAscii (rs : Ranges) : Ranges :=
  let moved (r : Range) (from' to' : Nat) : List Range :=
    let first := max r.first from'
    let last := min r.last (from' + 25)
    if first ≤ last then [⟨first - from' + to', last - from' + to'⟩] else []
  rs.union (Ranges.ofList (rs.flatMap fun r => moved r 65 97 ++ moved r 97 65))

/-- The set as letter case wants it. -/
def fold (f : Flags) (rs : Ranges) : Ranges :=
  if !f.anyCase then rs else if f.unicode then rs.foldCase else foldAscii rs

/-- The set or the characters that are not in it. -/
def inverted? (f : Flags) (negated : Bool) (rs : Ranges) : Option Ranges :=
  if !negated then some rs
  else if f.unicode then some (everyCharacter.minus rs)
  else none

/-- The set as letter case wants it, or the characters that are not in that. -/
def finished? (f : Flags) (negated : Bool) (rs : Ranges) : Option Ranges :=
  f.inverted? negated (f.fold rs)

/-- The characters that a point stands for. -/
def dot? (f : Flags) : Option Ranges :=
  if !f.unicode then none
  else if f.dotAll then some everyCharacter
  else if f.returns then some (everyCharacter.minus [⟨10, 10⟩, ⟨13, 13⟩])
  else some (everyCharacter.minus [⟨10, 10⟩])

/-- The digits, blanks or word characters that the letters `d`, `s` and `w` stand for. -/
def shorthand? (f : Flags) (letter : Char) (negated : Bool) : Option Ranges :=
  let set : Option Ranges :=
    if f.unicode then
      match letter with
      | 'd' => some digits
      | 's' => some blanks
      | 'w' => some wordCharacters
      | _ => none
    else
      match letter with
      | 'd' => some [⟨48, 57⟩]
      | 's' => some [⟨9, 13⟩, ⟨32, 32⟩]
      | 'w' => some [⟨48, 57⟩, ⟨65, 90⟩, ⟨95, 95⟩, ⟨97, 122⟩]
      | _ => none
  set.bind (f.inverted? negated)

/-- The ASCII characters of a class such as `[:alpha:]`. -/
def asciiClass? (name : List Char) : Option Ranges :=
  match String.ofList name with
  | "alnum" => some [⟨48, 57⟩, ⟨65, 90⟩, ⟨97, 122⟩]
  | "alpha" => some [⟨65, 90⟩, ⟨97, 122⟩]
  | "ascii" => some [⟨0, 127⟩]
  | "blank" => some [⟨9, 9⟩, ⟨32, 32⟩]
  | "cntrl" => some [⟨0, 31⟩, ⟨127, 127⟩]
  | "digit" => some [⟨48, 57⟩]
  | "graph" => some [⟨33, 126⟩]
  | "lower" => some [⟨97, 122⟩]
  | "print" => some [⟨32, 126⟩]
  | "punct" => some [⟨33, 47⟩, ⟨58, 64⟩, ⟨91, 96⟩, ⟨123, 126⟩]
  | "space" => some [⟨9, 13⟩, ⟨32, 32⟩]
  | "upper" => some [⟨65, 90⟩]
  | "word" => some [⟨48, 57⟩, ⟨65, 90⟩, ⟨95, 95⟩, ⟨97, 122⟩]
  | "xdigit" => some [⟨48, 57⟩, ⟨65, 70⟩, ⟨97, 102⟩]
  | _ => none

end Flags

end Uptime.Regex
