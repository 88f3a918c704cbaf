import Uptime.Regex.Node

/-!
# The size of an expression

An expression that would need too large an automaton is refused. The automaton reads bytes, forwards
for finding the end of a match and backwards for finding its start, and both must fit. Its size is
what its states take, so it grows with the number of rounds that a repetition asks for; a set of
characters takes one state for each distinct tail (forwards) or head (backwards) of the encodings of
its members.
-/

namespace Uptime.Regex

open Unicode

/-! ## Encodings -/

/-- The code points of each length of encoding: the first and the last one, the number of bytes that
follow the leading one, and the mark of the leading one. -/
def encodingLengths : List (Range × Nat × Nat) :=
  [(⟨0, 0x7f⟩, 0, 0), (⟨0x80, 0x7ff⟩, 1, 0xc0), (⟨0x800, 0xffff⟩, 2, 0xe0),
   (⟨0x10000, 0x10ffff⟩, 3, 0xf0)]

/-- The sequences of ranges of bytes that encode a range of numbers as a leading byte with a mark
and `n` bytes of six bits each. -/
def byteRanges (mark : Nat) : Nat → Nat → Nat → List (List Range)
  | 0, low, high => [[⟨mark + low, mark + high⟩]]
  | n + 1, low, high =>
    let unit := Nat.pow 64 (n + 1)
    let from' := low / unit
    let to' := high / unit
    let lead (byte : Nat) (tails : List (List Range)) : List (List Range) :=
      tails.map (⟨mark + byte, mark + byte⟩ :: ·)
    if from' = to' then lead from' (byteRanges 0x80 n (low % unit) (high % unit))
    else
      let cutLow := low % unit != 0
      let cutHigh := high % unit != unit - 1
      let first := if cutLow then from' + 1 else from'
      let last := if cutHigh then to' - 1 else to'
      (if cutLow then lead from' (byteRanges 0x80 n (low % unit) (unit - 1)) else []) ++
        (if first ≤ last then
          [⟨mark + first, mark + last⟩ :: List.replicate (n + 1) ⟨0x80, 0xbf⟩] else []) ++
        (if cutHigh then lead to' (byteRanges 0x80 n 0 (high % unit)) else [])

/-- The encodings of the members of a set as sequences of ranges of bytes, in order. -/
def encodings (rs : Ranges) : List (List Range) :=
  (rs.minus surrogates).flatMap fun r => encodingLengths.flatMap fun (range, n, mark) =>
    let low := max r.first range.first
    let high := min r.last range.last
    if low ≤ high then byteRanges mark n low high else []

/-- The length of the part that two sequences have in common at their beginnings. -/
def commonLength : List Range → List Range → Nat
  | a :: as, b :: bs => if a = b then commonLength as bs + 1 else 0
  | _, _ => 0

/-- The number of distinct heads of sequences that come in order. -/
def headCount (before : List Range) : List (List Range) → Nat
  | [] => 0
  | s :: rest => s.length - commonLength before s + headCount s rest

/-- Sequences by their first range, those with the same one being neighbours. -/
def byFirst : List (List Range) → List (Range × List (List Range))
  | [] => []
  | [] :: rest => byFirst rest
  | (r :: tail) :: rest =>
    match byFirst rest with
    | (q, tails) :: groups =>
      if q = r then (r, tail :: tails) :: groups else (r, [tail]) :: (q, tails) :: groups
    | [] => [(r, [tail])]

/-- The states found so far, each as its ranges of bytes and the states that they lead to. -/
abbrev States := List (List (Range × Nat))

/-- The number of the state from which the sequences are read, and the states then; state 0 is the
last one. -/
def stateOf : Nat → List (List Range) → States → Nat × States
  | 0, _, states => (0, states)
  | depth + 1, sequences, states =>
    match byFirst sequences with
    | [] => (0, states)
    | groups =>
      let (steps, states) := groups.foldl (fun (steps, states) (r, tails) =>
        let (next, states) := stateOf depth tails states
        (steps ++ [(r, next)], states)) (([] : List (Range × Nat)), states)
      match states.idxOf? steps with
      | some i => (states.length - i, states)
      | none => (states.length + 1, steps :: states)

/-! ## Sizes in bytes -/

/-- What a state takes. -/
def stateSize : Nat := 32

/-- What a step of a state takes on top of that. -/
def stepSize : Nat := 8

/-- What a choice of a state takes on top of that. -/
def choiceSize : Nat := 4

/-- The sum of some sizes. -/
def total (sizes : List Nat) : Nat := sizes.foldl (· + ·) 0

/-- The size of the automaton of a set. -/
def setSize (backward : Bool) (rs : Ranges) : Nat :=
  match rs with
  | [] => stateSize
  | _ =>
    if rs.all fun r => r.last < 128 then
      if rs.length = 1 && rs.all (fun r => r.first = r.last) then stateSize
      else 2 * stateSize + stepSize * rs.length
    else
      let sequences := encodings rs
      if rs.length = 1 && rs.all (fun r => r.first = r.last) then
        stateSize * total (sequences.map List.length)
      else if backward then
        2 * stateSize + choiceSize * sequences.length + stateSize * headCount [] sequences
      else
        let states := (stateOf 4 sequences []).2
        stateSize + total (states.map fun s => stateSize + stepSize * s.length)

/-- The size of the automaton of rounds, given that of one round. -/
def roundsSize (low : Nat) (high : Option Nat) (nullable : Bool) (once : Nat) : Nat :=
  match high with
  | none =>
    if low = 0 then
      if nullable then once + 3 * stateSize + 4 * choiceSize
      else once + stateSize + 2 * choiceSize
    else low * once + stateSize + 2 * choiceSize
  | some high =>
    if low = high then low * once
    else if low = 0 ∧ high = 1 then once + 2 * stateSize + 2 * choiceSize
    else
      (if low = 0 then stateSize else low * once) + stateSize +
        (high - low) * (stateSize + 2 * choiceSize + once)

/-- The size of the automaton of an expression, and what it adds to one of alternatives. -/
def sizes (backward : Bool) : Expr → Nat × Nat
  | .empty | .look _ => (stateSize, stateSize + choiceSize)
  | .one set =>
    let n := setSize backward set
    (n, n + choiceSize)
  | .seq a b =>
    let n := (sizes backward a).1 + (sizes backward b).1
    (n, n + choiceSize)
  | .alt a b =>
    let n := (sizes backward a).2 + (sizes backward b).2
    (n + 2 * stateSize, n)
  | .rounds low high body =>
    let n := roundsSize low high body.isNullable (sizes backward body).1
    (n, n + choiceSize)
  | .group body =>
    let n := (sizes backward body).1 + (if backward then 0 else 2 * stateSize)
    (n, n + choiceSize)

/-- What an automaton takes for finding the start of a match and for its end. -/
def frameSize (backward : Bool) : Nat :=
  4 * stateSize + 2 * choiceSize + stepSize + (if backward then 0 else 2 * stateSize)

/-- The size that no automaton may exceed: ten mebibytes. -/
def maxSize : Nat := 10 * 1048576

/-- Whether the automatons of an expression fit. -/
def Expr.fits (e : Expr) : Bool :=
  [false, true].all fun backward => frameSize backward + (sizes backward e).1 ≤ maxSize

end Uptime.Regex
