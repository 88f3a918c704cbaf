import Uptime.Regex.Escape

/-!
# Sets in brackets

A set in brackets lists characters, ranges and other sets, which may be in brackets themselves. What
is listed may be intersected with what follows (`&&`), or reduced by it (`--`), or the two may
exclude each other (`~~`); operators group to the left.
-/

namespace Uptime.Regex

open Unicode

/-- The operators between lists in brackets. -/
inductive SetOperator where
  | both
  | first
  | exactlyOne
deriving DecidableEq, Repr

/-- A set and how deep the brackets and lists of its text are nested. -/
structure Nested where
  set : Ranges
  depth : Nat

/-- An open bracket. -/
structure Bracket where
  negated : Bool
  /-- What stands before the last operator. -/
  left : Option (Nested × SetOperator) := none
  /-- The ranges listed since, in any order. -/
  listed : List Range := []
  /-- How many items are listed. -/
  count : Nat := 0
  /-- How deep the deepest of them is nested. -/
  depth : Nat := 0

namespace Bracket

/-- Lists one more item. -/
def add (b : Bracket) (rs : Ranges) (depth : Nat) : Bracket :=
  { b with listed := rs ++ b.listed, count := b.count + 1, depth := max b.depth depth }

/-- The set of the operator's two sides. -/
def combine (f : Flags) (op : SetOperator) (a b : Ranges) : Ranges :=
  let a := f.fold a
  let b := f.fold b
  match op with
  | .both => a.inter b
  | .first => a.minus b
  | .exactlyOne => (a.minus b).union (b.minus a)

/-- The set of what has been read so far. -/
def contents (f : Flags) (b : Bracket) : Nested :=
  let list : Nested := ⟨Ranges.ofList b.listed, if b.count ≤ 1 then b.depth else b.depth + 1⟩
  match b.left with
  | none => list
  | some (left, op) => ⟨combine f op left.set list.set, max left.depth list.depth + 1⟩

/-- Goes on after an operator. -/
def operate (f : Flags) (b : Bracket) (op : SetOperator) : Bracket :=
  { negated := b.negated, left := some (b.contents f, op) }

/-- The set in the brackets; they count as one more level. -/
def close? (f : Flags) (b : Bracket) : Option Nested :=
  let inner := b.contents f
  (f.finished? b.negated inner.set).map fun set => ⟨set, inner.depth + 1⟩

/-- Minus signs, which stand for themselves after the opening. -/
def signs (f : Flags) (cs : List Char) : Nat × List Char :=
  match cs with
  | [] => (0, [])
  | c :: rest =>
    if c = '-' then
      let (n, rest) := signs f (f.skip rest)
      (n + 1, rest)
    else (0, c :: rest)
termination_by cs.length
decreasing_by
  have := f.length_skip_le rest
  simp
  omega

/-- Opens a bracket; the text is what follows it. A closing bracket stands for itself if it comes
first. -/
def open? (f : Flags) (cs : List Char) : Option (Bracket × List Char) :=
  let cs := f.skip cs
  let (negated, cs) := match cs with
    | '^' :: rest => (true, f.skip rest)
    | _ => (false, cs)
  let (n, cs) := signs f cs
  let b : Bracket := { negated, listed := List.replicate n ⟨45, 45⟩, count := n }
  match n, cs with
  | _, [] => none
  | 0, ']' :: rest =>
    match f.skip rest with
    | [] => none
    | rest => some (b.add [⟨93, 93⟩] 0, rest)
  | _, cs => some (b, cs)

/-- A class such as `[:alpha:]`; the text is what follows its opening bracket. -/
def asciiClass? (cs : List Char) : Option (Bool × Ranges × List Char) :=
  match cs with
  | ':' :: rest =>
    let (negated, rest) := match rest with
      | '^' :: rest => (true, rest)
      | _ => (false, rest)
    match rest.dropWhile (· != ':') with
    | ':' :: ']' :: after =>
      (Flags.asciiClass? (rest.takeWhile (· != ':'))).map fun rs => (negated, rs, after)
    | _ => none
  | _ => none

/-- The character to come, where neither blanks nor the sign of a remark count. -/
def upcoming? (f : Flags) (cs : List Char) : Option Char :=
  if !f.spaced then cs.head?
  else
    let rest := match cs.dropWhile Text.isBlank with
      | '#' :: rest => rest.dropWhile Text.isBlank
      | rest => rest
    rest.head? <|> cs.head?

/-- Reads the atom of a list. -/
def atom? (f : Flags) : List Char → Option (Atom × List Char)
  | [] => none
  | '\\' :: cs => Atom.escaped? f cs
  | c :: cs => some (.char c false, cs)

/-- The set that an atom lists. -/
def listed? (f : Flags) : Atom → Option Ranges
  | .char c byte => (Atom.member? f c byte true).map ([·])
  | .set rs => some rs
  | .look _ => none

/-- The range between two atoms. -/
def between? (f : Flags) : Atom → Atom → Option Ranges
  | .char a aByte, .char b bByte =>
    match Atom.member? f a aByte true, Atom.member? f b bByte true with
    | some low, some high => if low.first ≤ high.last then some [⟨low.first, high.last⟩] else none
    | _, _ => none
  | _, _ => none

/-- Reads an atom or a range. A minus sign before the end of the list or before another one stands
for itself. -/
def item? (f : Flags) (cs : List Char) : Option (Ranges × List Char) :=
  (atom? f cs).bind fun (a, rest) =>
    match f.skip rest with
    | [] => none
    | '-' :: after =>
      if upcoming? f after = some ']' || upcoming? f after = some '-' then
        (listed? f a).map (·, '-' :: after)
      else
        (atom? f (f.skip after)).bind fun (b, rest) => (between? f a b).map (·, rest)
    | rest => (listed? f a).map (·, rest)

/-- Reads up to the end of the outermost bracket. -/
def read? (f : Flags) : Nat → Bracket → List Bracket → List Char → Option (Nested × List Char)
  | 0, _, _, _ => none
  | fuel + 1, b, outer, cs =>
    match f.skip cs with
    | [] => none
    | '[' :: rest =>
      match asciiClass? rest with
      | some (negated, rs, rest) =>
        (f.finished? negated rs).bind fun rs => read? f fuel (b.add rs 0) outer rest
      | none => (open? f rest).bind fun (inner, rest) => read? f fuel inner (b :: outer) rest
    | ']' :: rest =>
      (b.close? f).bind fun closed =>
        match outer with
        | [] => some (closed, rest)
        | o :: outer => read? f fuel (o.add closed.set closed.depth) outer rest
    | '&' :: '&' :: rest => read? f fuel (b.operate f .both) outer rest
    | '-' :: '-' :: rest => read? f fuel (b.operate f .first) outer rest
    | '~' :: '~' :: rest => read? f fuel (b.operate f .exactlyOne) outer rest
    | cs => (item? f cs).bind fun (rs, rest) => read? f fuel (b.add rs 0) outer rest

/-- A set in brackets; the text is what follows the opening one. -/
def whole? (f : Flags) (cs : List Char) : Option (Nested × List Char) :=
  (open? f cs).bind fun (b, rest) => read? f (cs.length + 1) b [] rest

end Bracket

end Uptime.Regex
