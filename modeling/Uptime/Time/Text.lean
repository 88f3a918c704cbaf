import Uptime.Number.Digits
import Uptime.Text.Blank
import Uptime.Time.Instant

/-!
# Instants as text

`Instant.text` writes date, blank, time and nine decimals: the form in which records are stored and
which sorts like the instants for the years 0 to 9999. `Instant.zuluText` writes the form with `T`
and `Z` and as many decimals as are needed of none, three, six and nine. `Instant.read?` reads both,
and more liberally: missing zeros, blanks before numbers, any number of decimals, and with `T`, `t`
or a blank also an offset from UTC.
-/

namespace Uptime

open Number (padded digits ofDigits)

/-- Four digits for the years 0 to 9999, a sign and at least four digits for any other year. -/
def yearText (year : Int) : List Char :=
  if 0 ≤ year ∧ year ≤ 9999 then padded 4 year.natAbs
  else (if year < 0 then '-' else '+') :: padded 4 year.natAbs

namespace Civil

/-- Year, month and day with dashes. -/
def dateText (c : Civil) : List Char :=
  yearText c.date.year ++ '-' :: padded 2 c.date.month ++ '-' :: padded 2 c.date.day

/-- Hours, minutes and seconds with colons; a leap second is written `60`. -/
def clockText (c : Civil) : List Char :=
  padded 2 c.hour ++ ':' :: padded 2 c.minute ++ ':' :: padded 2 (c.second + c.nanos / 1000000000)

/-- A point and `places` digits of the fraction of the second. -/
def fractionText (places : Nat) (c : Civil) : List Char :=
  '.' :: padded places (c.nanos % 1000000000 / Nat.pow 10 (9 - places))

/-- The fewest digits of none, three, six and nine that hold the fraction. -/
def places (c : Civil) : Nat :=
  let n := c.nanos % 1000000000
  if n = 0 then 0 else if n % 1000000 = 0 then 3 else if n % 1000 = 0 then 6 else 9

end Civil

/-- Date, blank, time and nine decimals. -/
def Instant.text (t : Instant) : String :=
  let c := t.civil
  String.ofList (c.dateText ++ ' ' :: c.clockText ++ c.fractionText 9)

/-- Date, `T`, time, the decimals that are needed, and `Z`. -/
def Instant.zuluText (t : Instant) : String :=
  let c := t.civil
  let fraction := if c.places = 0 then [] else c.fractionText c.places
  String.ofList (c.dateText ++ 'T' :: c.clockText ++ fraction ++ ['Z'])

namespace TimeReader

/-- One to `most` decimal digits, or at least `least` where that is more than one. -/
def number? (least most : Nat) (cs : List Char) : Option (Nat × List Char) :=
  let ds := (cs.take most).takeWhile Char.isDigit
  if ds.length < least then none else some (ofDigits ds, cs.drop ds.length)

/-- Any number of decimal digits, at least one. -/
def number1? (cs : List Char) : Option (Nat × List Char) := number? 1 cs.length cs

/-- The character given, and what follows it. -/
def char? (c : Char) : List Char → Option (List Char)
  | d :: cs => if d = c then some cs else none
  | [] => none

/-- Nanoseconds from a run of decimals; those after the ninth are left out. -/
def decimals? (cs : List Char) : Option (Nat × List Char) :=
  let ds := cs.takeWhile Char.isDigit
  let kept := ds.take 9
  if ds.isEmpty then none
  else some (ofDigits kept * Nat.pow 10 (9 - kept.length), cs.drop ds.length)

/-- A fraction of the second, if a point stands in front. -/
def fraction? : List Char → Option (Nat × List Char)
  | '.' :: cs => decimals? cs
  | cs => some (0, cs)

/-- A year: four digits at most without a sign, any number of them after one. -/
def year? (cs : List Char) : Option (Int × List Char) :=
  match Text.trimStart cs with
  | '-' :: cs => (number1? cs).map fun q => (-(q.1 : Int), q.2)
  | '+' :: cs => (number1? cs).map fun q => ((q.1 : Int), q.2)
  | cs => (number? 1 4 cs).map fun q => ((q.1 : Int), q.2)

/-- One or two digits, after any blanks. -/
def field? (cs : List Char) : Option (Nat × List Char) := number? 1 2 (Text.trimStart cs)

/-- A date and time of day, if both exist; the second `60` is the leap second after `59`. -/
def civil? (year : Int) (month day hour minute second nanos : Nat) : Option Civil :=
  let date : Date := ⟨year, month, day⟩
  if date.isValid && hour < 24 && minute < 60 && second ≤ 60 then
    some { date, hour, minute,
           second := min second 59
           nanos := nanos + if second = 60 then 1000000000 else 0 }
  else none

/-- Date and time as they are stored, without an offset; the decimals may be missing. -/
def stored? (cs : List Char) : Option Instant := do
  let (year, cs) ← year? cs
  let (month, cs) ← field? (← char? '-' cs)
  let (day, cs) ← field? (← char? '-' cs)
  let (hour, cs) ← field? (Text.trimStart cs)
  let (minute, cs) ← field? (← char? ':' cs)
  let (second, cs) ← field? (← char? ':' cs)
  let (nanos, cs) ← fraction? cs
  if cs.isEmpty then (civil? year month day hour minute second nanos).map (·.instant 0) else none

/-- A date and time are parted by a blank or by a `T` in either case. -/
def separator? : List Char → Option (List Char)
  | c :: cs => if c = 'T' || c = 't' || c = ' ' then some cs else none
  | [] => none

/-- The sign of an offset; a typographic minus is one too. -/
def offsetSign? : List Char → Option (Int × List Char)
  | '+' :: cs => some (1, cs)
  | '-' :: cs => some (-1, cs)
  | '\u2212' :: cs => some (-1, cs)
  | _ => none

/-- Seconds east of UTC: `Z`, or hours and minutes below a whole day. -/
def offset? : List Char → Option (Int × List Char)
  | 'Z' :: cs => some (0, cs)
  | 'z' :: cs => some (0, cs)
  | cs => do
    let (sign, cs) ← offsetSign? cs
    let (hours, cs) ← number? 2 2 cs
    let (minutes, cs) ← number? 2 2 (← char? ':' cs)
    if hours < 24 && minutes < 60 then some (sign * (hours * 3600 + minutes * 60 : Nat), cs)
    else none

/-- Date and time with an offset; every number has its full width. -/
def offsetTime? (cs : List Char) : Option Instant := do
  let (year, cs) ← number? 4 4 cs
  let (month, cs) ← number? 2 2 (← char? '-' cs)
  let (day, cs) ← number? 2 2 (← char? '-' cs)
  let (hour, cs) ← number? 2 2 (← separator? cs)
  let (minute, cs) ← number? 2 2 (← char? ':' cs)
  let (second, cs) ← number? 2 2 (← char? ':' cs)
  let (nanos, cs) ← fraction? cs
  let (offset, cs) ← offset? cs
  if cs.isEmpty then (civil? year month day hour minute second nanos).map (·.instant offset)
  else none

end TimeReader

/-- Reads an instant in the stored form, else in the form with an offset. -/
def Instant.read? (s : String) : Option Instant :=
  TimeReader.stored? s.toList <|> TimeReader.offsetTime? s.toList

end Uptime
