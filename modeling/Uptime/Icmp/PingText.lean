import Uptime.Number.Decimal
import Uptime.Probe.Error
import Uptime.Text.Blank

/-!
# The round-trip time in the output of `ping`

The time of a packet is given as `time=12.3 ms` or `time<1 ms`; the summary gives the least, the
mean and the greatest time. The leftmost time of a packet counts if it is a decimal number, else the
mean of the leftmost summary.
-/

namespace Uptime.Icmp.PingText

open Number (binary64)
open Text (strip? trimStart)

/-- What the reader finds at the first place where it finds anything. -/
def leftmost? (read : List Char → Option α) : List Char → Option α
  | [] => read []
  | c :: cs =>
    match read (c :: cs) with
    | some a => some a
    | none => leftmost? read cs

/-- A digit or a point. -/
def isNumeral (c : Char) : Bool := ('0' ≤ c && c ≤ '9') || c = '.'

/-- A run of digits and points at the front, and the rest. -/
def run? (cs : List Char) : Option (List Char × List Char) :=
  let run := cs.takeWhile isNumeral
  if run.isEmpty then none else some (run, cs.dropWhile isNumeral)

/-- One of two words at the front. -/
def either? (a b : List Char) (cs : List Char) : Option (List Char) :=
  match strip? a cs with
  | some rest => some rest
  | none => strip? b cs

/-- The number in the time of a packet that begins here. -/
def packetTime? (cs : List Char) : Option (List Char) := do
  let rest ← either? "time=".toList "time<".toList cs
  let (run, rest) ← run? rest
  let _ ← strip? "ms".toList (trimStart rest)
  return run

/-- At least one blank, and all that follow. -/
def blanks? (cs : List Char) : Option (List Char) :=
  match cs with
  | c :: rest => if Text.isBlank c then some (trimStart rest) else none
  | [] => none

/-- The mean in a summary that begins here. -/
def mean? (cs : List Char) : Option (List Char) := do
  let rest ← either? "rtt".toList "round-trip".toList cs
  let rest ← blanks? rest
  let rest ← strip? "min/avg/max/".toList rest
  let rest ← either? "mdev".toList "stddev".toList rest
  let rest ← strip? ['='] (trimStart rest)
  let (_, rest) ← run? (trimStart rest)
  let rest ← strip? ['/'] rest
  let (run, rest) ← run? rest
  let _ ← strip? ['/'] rest
  return run

/-- The double nearest to the decimal number that a run is, by its bits. A run has no sign. -/
def value? (run : List Char) : Option Nat := (Number.Decimal.read? run).map (·.bits binary64)

/-- Milliseconds as a duration. A million times as many are rounded to a double first, and then to
whole nanoseconds, of which there are no more than 64 bits hold. -/
def duration (millis : Nat) : Duration :=
  .ofNanos (binary64.toNat 18446744073709551615 (binary64.scaled 1000000 millis))

/-- The milliseconds that the output names. -/
def millis? (output : List Char) : Option Nat :=
  match (leftmost? packetTime? output).bind value? with
  | some x => some x
  | none => (leftmost? mean? output).bind value?

/-- The round-trip time that the output names. -/
def read (output : String) : Except ProbeError Duration :=
  match millis? output.toList with
  | some x => .ok (duration x)
  | none => .error (.command ("failed to parse ping output: " ++ output))

end Uptime.Icmp.PingText
