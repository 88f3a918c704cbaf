/-!
# Sets of code points

A set of code points is a list of ranges in ascending order that do not touch. Tables of them are
texts: words of hexadecimal digits that list gaps and counts in turn, or runs of a count, a point
and a label.
-/

namespace Uptime.Unicode

/-- The code points from the first to the last one. -/
structure Range where
  first : Nat
  last : Nat
deriving DecidableEq, Repr

/-- A set of code points. -/
abbrev Ranges := List Range

/-- The greatest code point. -/
def lastCodePoint : Nat := 0x10ffff

/-! ## Tables -/

/-- The words of a line: what stands between blanks. -/
def words : List Char → List (List Char)
  | [] => [[]]
  | c :: cs =>
    let rest := words cs
    if c = ' ' then [] :: rest
    else match rest with
      | w :: ws => (c :: w) :: ws
      | [] => [[c]]

/-- The words of all lines. -/
def tableWords (lines : List String) : List (List Char) := lines.flatMap fun l => words l.toList

/-- The value of a hexadecimal digit. -/
def hexDigit (c : Char) : Nat := if c.toNat < 58 then c.toNat - 48 else c.toNat - 87

/-- The value of hexadecimal digits. -/
def hexNumber (cs : List Char) : Nat := cs.foldl (fun n c => n * 16 + hexDigit c) 0

/-- The ranges of gaps and counts from a code point on. -/
def ofGaps (start : Nat) : List Nat → Ranges
  | gap :: count :: rest =>
    ⟨start + gap, start + gap + count - 1⟩ :: ofGaps (start + gap + count) rest
  | _ => []

/-- The ranges of a table of gaps and counts. -/
def readRanges (lines : List String) : Ranges := ofGaps 0 ((tableWords lines).map hexNumber)

/-- The runs of a table from a code point on, each with its label. -/
def runsFrom (start : Nat) : List (List Char) → List (Range × String)
  | [] => []
  | w :: ws =>
    let count := hexNumber (w.takeWhile (· != '.'))
    let label := String.ofList ((w.dropWhile (· != '.')).drop 1)
    (⟨start, start + count - 1⟩, label) :: runsFrom (start + count) ws

/-- The runs of a table, each with its label. -/
def readRuns (lines : List String) : List (Range × String) := runsFrom 0 (tableWords lines)

/-- The label of the run that holds a code point. -/
def runLabel (c : Nat) (lines : List String) : String :=
  match (readRuns lines).find? fun r => c ≤ r.1.last with
  | some r => r.2
  | none => ""

namespace Ranges

/-- Whether the code point is in the set. -/
def has (rs : Ranges) (c : Nat) : Bool := rs.any fun r => r.first ≤ c && c ≤ r.last

/-- Joins neighbouring ranges; they come in ascending order of their beginnings. -/
def merge : Ranges → Ranges
  | [] => []
  | r :: rs =>
    match merge rs with
    | [] => [r]
    | s :: ss =>
      if s.first ≤ r.last + 1 then ⟨r.first, max r.last s.last⟩ :: ss else r :: s :: ss

/-- The set of the code points of some ranges in any order. -/
def ofList (rs : List Range) : Ranges := merge (rs.mergeSort fun a b => a.first ≤ b.first)

/-- The code points of either set. -/
def union (a b : Ranges) : Ranges := ofList (a ++ b)

/-- The code points from `start` on that are not in the set. -/
def complementFrom (start : Nat) : Ranges → Ranges
  | [] => if start ≤ lastCodePoint then [⟨start, lastCodePoint⟩] else []
  | r :: rs =>
    let rest := complementFrom (r.last + 1) rs
    if start < r.first then ⟨start, r.first - 1⟩ :: rest else rest

/-- The code points that are not in the set. -/
def complement (rs : Ranges) : Ranges := complementFrom 0 rs

/-- The code points of both sets. -/
def inter (a b : Ranges) : Ranges := (a.complement.union b.complement).complement

/-- The code points of the first set that are not in the second. -/
def minus (a b : Ranges) : Ranges := (a.complement.union b).complement

end Ranges

/-- The code points of the runs whose label is as wanted. -/
def runRanges (wanted : String → Bool) (lines : List String) : Ranges :=
  Ranges.merge (((readRuns lines).filter fun r => wanted r.2).map (·.1))

end Uptime.Unicode
