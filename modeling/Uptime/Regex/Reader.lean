import Uptime.Regex.Bracket

/-!
# Reading regular expressions

An expression is read from left to right with the groups that are open on a stack. Groups, lists,
alternatives and repetitions may be nested to a bounded depth only (`maxDepth`).
-/

namespace Uptime.Regex

open Unicode

/-- How deep an expression may be nested. -/
def maxDepth : Nat := 250

/-- The greatest number of rounds that can be written. -/
def maxRounds : Nat := 4294967295

/-- A part of an expression that has been read. -/
structure Part where
  expr : Expr
  /-- How deep it is nested. -/
  depth : Nat := 0
  /-- Whether it may be repeated; flags may not. -/
  repeatable : Bool := true

namespace Part

/-- The parts of a list, the last one first, as one. -/
def ofList : List Part → Part
  | [] => { expr := .empty }
  | [p] => p
  | ps => { expr := ps.foldl (fun e p => p.expr.append e) .empty,
            depth := ps.foldl (fun d p => max d p.depth) 0 + 1 }

/-- The alternatives of a group, the last one first, as one. -/
def ofAlternatives : List Part → Part
  | [] => { expr := .empty }
  | [p] => p
  | p :: ps => { expr := ps.foldl (fun e q => q.expr.either e) p.expr,
                 depth := ps.foldl (fun d q => max d q.depth) p.depth + 1 }

end Part

/-- A group that is open, or the whole expression. -/
structure Level where
  captures : Bool := false
  /-- The flags that hold after the group. -/
  outside : Flags := {}
  /-- The alternatives before the current one, the last one first. -/
  alternatives : List Part := []
  /-- The parts of the current one, the last one first. -/
  parts : List Part := []

namespace Level

/-- Adds a part. -/
def push (l : Level) (p : Part) : Level := { l with parts := p :: l.parts }

/-- Begins another alternative. -/
def next (l : Level) : Level :=
  { l with alternatives := .ofList l.parts :: l.alternatives, parts := [] }

/-- All alternatives as one. -/
def contents (l : Level) : Part := .ofAlternatives (Part.ofList l.parts :: l.alternatives)

/-- The group as one part of what is around it. -/
def close (l : Level) : Part :=
  let inner := l.contents
  { expr := if l.captures then .group inner.expr else inner.expr, depth := inner.depth + 1 }

end Level

/-- How far an expression has been read. -/
structure Reading where
  flags : Flags := {}
  /-- The names of groups so far. -/
  names : List (List Char) := []
  level : Level := {}
  /-- The levels around it, the innermost first. -/
  around : List Level := []

namespace Reading

/-- Adds a part. -/
def push (r : Reading) (p : Part) : Reading := { r with level := r.level.push p }

/-- Opens a group that is read with these flags. -/
def enter (r : Reading) (captures : Bool) (inside : Flags) : Reading :=
  { r with
    flags := inside, level := { captures, outside := r.flags }, around := r.level :: r.around }

/-- Closes the current group. -/
def leave? (r : Reading) : Option Reading :=
  match r.around with
  | [] => none
  | outer :: around =>
    some { r with flags := r.level.outside, level := outer.push r.level.close, around }

/-- Whether a character may stand in the name of a group; only letters and `_` may stand first. -/
def isNameChar (first : Bool) (c : Char) : Bool :=
  let letter := (readRanges alphabeticTable).has c.toNat
  if first then c = '_' || letter
  else c = '_' || c = '.' || c = '[' || c = ']' || letter || (categoryRanges "N").has c.toNat

/-- Reads the name of a group up to the closing angle bracket. No name may stand twice. -/
def named? (r : Reading) (cs : List Char) : Option (Reading × List Char) :=
  match cs.takeWhile (· != '>'), cs.dropWhile (· != '>') with
  | c :: name, _ :: rest =>
    if isNameChar true c && name.all (isNameChar false) && !r.names.contains (c :: name) then
      some ({ r.enter true r.flags with names := (c :: name) :: r.names }, rest)
    else none
  | _, _ => none

/-- Reads what follows an opening parenthesis: the marks of a group, or flags for the rest of the
current group. A group cannot look ahead or behind. -/
def opened? (r : Reading) (cs : List Char) : Option (Reading × List Char) :=
  match r.flags.skip cs with
  | '?' :: '=' :: _ | '?' :: '!' :: _ | '?' :: '<' :: '=' :: _ | '?' :: '<' :: '!' :: _ => none
  | '?' :: 'P' :: '<' :: rest => r.named? rest
  | '?' :: '<' :: rest => r.named? rest
  | '?' :: rest =>
    match r.flags.read? [] rest with
    | some (flags, _, ':' :: rest) => some (r.enter false flags, rest)
    | some (flags, true, ')' :: rest) =>
      some ({ r.push { expr := .empty, repeatable := false } with flags }, rest)
    | _ => none
  | rest => some (r.enter true r.flags, rest)

/-! ## Repetitions -/

/-- Repeats the last part. -/
def repeat? (r : Reading) (low : Nat) (high : Option Nat) : Option Reading :=
  match r.level.parts with
  | [] => none
  | p :: ps =>
    if p.repeatable then
      let q : Part := { expr := p.expr.repeated low high, depth := p.depth + 1 }
      some { r with level := { r.level with parts := q :: ps } }
    else none

/-- The text after the mark of a preference for few rounds. -/
def afterPreference : List Char → List Char
  | '?' :: cs => cs
  | cs => cs

/-- Reads the digits of a number of rounds. -/
def digits (f : Flags) (cs : List Char) : List Char × List Char :=
  match cs with
  | [] => ([], [])
  | c :: rest =>
    if c.isDigit then
      let (ds, rest) := digits f (f.skip rest)
      (c :: ds, rest)
    else ([], c :: rest)
termination_by cs.length
decreasing_by
  have := f.length_skip_le rest
  simp
  omega

/-- Reads a number of rounds; blanks may stand around it. -/
def count? (f : Flags) (cs : List Char) : Option (Nat × List Char) :=
  let (ds, rest) := digits f (cs.dropWhile Text.isBlank)
  let n := ds.foldl (fun n c => n * 10 + (c.toNat - 48)) 0
  if ds.isEmpty || maxRounds < n then none else some (n, f.skip (rest.dropWhile Text.isBlank))

/-- Reads bounds in braces; the text is what follows the opening one. -/
def bounds? (f : Flags) (cs : List Char) : Option (Nat × Option Nat × List Char) :=
  (count? f (f.skip cs)).bind fun (low, rest) =>
    match rest with
    | '\x7d' :: rest => some (low, some low, rest)
    | ',' :: rest =>
      match f.skip rest with
      | '\x7d' :: rest => some (low, none, rest)
      | rest =>
        (count? f rest).bind fun (high, rest) =>
          match rest with
          | '\x7d' :: rest => if low ≤ high then some (low, some high, rest) else none
          | _ => none
    | _ => none

/-! ## The whole -/

/-- The condition of a circumflex. -/
def startLook (f : Flags) : Look :=
  if !f.lines then .textStart else if f.returns then .anyLineStart else .lineStart

/-- The condition of a dollar sign. -/
def endLook (f : Flags) : Look :=
  if !f.lines then .textEnd else if f.returns then .anyLineEnd else .lineEnd

/-- Reads one more part or mark, which begins with `c`. -/
def step? (r : Reading) (c : Char) (cs : List Char) : Option (Reading × List Char) :=
  let add (e : Expr) (rest : List Char) : Option (Reading × List Char) :=
    some (r.push { expr := e }, rest)
  match c with
  | '(' => r.opened? cs
  | ')' => r.leave?.map (·, cs)
  | '|' => some ({ r with level := r.level.next }, cs)
  | '[' =>
    (Bracket.whole? r.flags cs).map fun (n, rest) =>
      (r.push { expr := .one n.set, depth := n.depth }, rest)
  | '?' => (r.repeat? 0 (some 1)).map (·, afterPreference cs)
  | '*' => (r.repeat? 0 none).map (·, afterPreference cs)
  | '+' => (r.repeat? 1 none).map (·, afterPreference cs)
  | '\x7b' =>
    (bounds? r.flags cs).bind fun (low, high, rest) =>
      (r.repeat? low high).map (·, afterPreference (r.flags.skip rest))
  | '.' => r.flags.dot?.bind fun set => add (.one set) cs
  | '^' => add (.look (startLook r.flags)) cs
  | '$' => add (.look (endLook r.flags)) cs
  | '\\' =>
    (Atom.escaped? r.flags cs).bind fun (a, rest) => (a.expr? r.flags).bind (add · rest)
  | c => ((Atom.char c false).expr? r.flags).bind (add · cs)

/-- Reads to the end of the text. -/
def run? : Nat → Reading → List Char → Option Reading
  | 0, _, _ => none
  | fuel + 1, r, cs =>
    match r.flags.skip cs with
    | [] => some r
    | c :: rest => (r.step? c rest).bind fun (r, rest) => run? fuel r rest

end Reading

/-- The expression that a text writes. -/
def Expr.read? (cs : List Char) : Option Expr :=
  (Reading.run? (cs.length + 1) {} cs).bind fun r =>
    let whole := r.level.contents
    if r.around.isEmpty && whole.depth ≤ maxDepth then some whole.expr else none

end Uptime.Regex
