import Uptime.Number.Digits

/-!
# Durations

A duration is a number of nanoseconds. Two texts of it are used: `text`, the exact value in the
largest unit that leaves a whole part, and `readable`, the whole number of the largest unit from
hours to milliseconds.
-/

namespace Uptime

/-- A length of time in nanoseconds. -/
structure Duration where
  nanoseconds : Nat
deriving DecidableEq, Repr, Inhabited

namespace Duration

/-- No time at all. -/
def zero : Duration := ⟨0⟩

def ofNanos (n : Nat) : Duration := ⟨n⟩
def ofMicros (n : Nat) : Duration := ⟨n * 1000⟩
def ofMillis (n : Nat) : Duration := ⟨n * 1000000⟩
def ofSeconds (n : Nat) : Duration := ⟨n * 1000000000⟩

/-- Whole seconds. -/
def seconds (d : Duration) : Nat := d.nanoseconds / 1000000000

/-- Nanoseconds beyond the whole seconds. -/
def subNanos (d : Duration) : Nat := d.nanoseconds % 1000000000

/-- Whole milliseconds. -/
def millis (d : Duration) : Nat := d.nanoseconds / 1000000

instance : Add Duration := ⟨fun a b => ⟨a.nanoseconds + b.nanoseconds⟩⟩
instance : LE Duration := ⟨fun a b => a.nanoseconds ≤ b.nanoseconds⟩
instance : LT Duration := ⟨fun a b => a.nanoseconds < b.nanoseconds⟩
instance (a b : Duration) : Decidable (a ≤ b) :=
  inferInstanceAs (Decidable (a.nanoseconds ≤ b.nanoseconds))
instance (a b : Duration) : Decidable (a < b) :=
  inferInstanceAs (Decidable (a.nanoseconds < b.nanoseconds))

theorem le_iff {a b : Duration} : a ≤ b ↔ a.nanoseconds ≤ b.nanoseconds := Iff.rfl

theorem lt_iff {a b : Duration} : a < b ↔ a.nanoseconds < b.nanoseconds := Iff.rfl

theorem ext_iff {a b : Duration} : a = b ↔ a.nanoseconds = b.nanoseconds :=
  ⟨congrArg nanoseconds, fun h => by cases a; cases b; exact congrArg mk h⟩

@[simp] theorem nanoseconds_add (a b : Duration) :
    (a + b).nanoseconds = a.nanoseconds + b.nanoseconds := rfl

/-- Whether there is room for a duration: its whole seconds have to fit in a word of 64 bits. The
bound is too great to be computed with by unfolding. -/
@[irreducible] def isHeld (d : Duration) : Bool := d.seconds < 18446744073709551616

theorem isHeld_iff {d : Duration} : d.isHeld = true ↔ d.seconds < 18446744073709551616 := by
  rw [isHeld, decide_eq_true_eq]

/-- Seconds as a double: the whole seconds plus the rounded fraction. -/
def toDouble (d : Duration) : Float :=
  (UInt64.ofNat d.seconds).toFloat + (UInt64.ofNat d.subNanos).toFloat / 1e9

/-- A whole part and, unless it is zero, a fraction of `width` digits without its last zeros. -/
def decimal (whole fraction width : Nat) : List Char :=
  let places := ((Number.padded width fraction).reverse.dropWhile (· == '0')).reverse
  Number.digits whole ++ if places.isEmpty then [] else '.' :: places

/-- The exact value in seconds, milliseconds, microseconds or nanoseconds, in the largest of these
units that leaves a whole part. -/
def text (d : Duration) : String :=
  let n := d.nanoseconds
  String.ofList <|
    if 1000000000 ≤ n then decimal d.seconds d.subNanos 9 ++ ['s']
    else if 1000000 ≤ n then decimal (n / 1000000) (n % 1000000) 6 ++ ['m', 's']
    else if 1000 ≤ n then decimal (n / 1000) (n % 1000) 3 ++ ['µ', 's']
    else decimal n 0 0 ++ ['n', 's']

/-- The units in which a downtime is told. -/
inductive Unit where
  | hours
  | minutes
  | seconds
  | milliseconds
deriving DecidableEq, Repr

/-- The length of a unit in nanoseconds. -/
def Unit.nanoseconds : Unit → Nat
  | .hours => 3600000000000
  | .minutes => 60000000000
  | .seconds => 1000000000
  | .milliseconds => 1000000

/-- The largest unit that goes into the duration at least once; milliseconds if none does. -/
def largestUnit (d : Duration) : Unit :=
  if 3600 ≤ d.seconds then .hours
  else if 60 ≤ d.seconds then .minutes
  else if 1 ≤ d.seconds then .seconds
  else .milliseconds

/-- How often the largest unit goes into the duration. -/
def inLargestUnit (d : Duration) : Nat := d.nanoseconds / d.largestUnit.nanoseconds

/-- What follows the number of units. -/
def Unit.suffix : Unit → String
  | .hours => " hours"
  | .minutes => " minutes"
  | .seconds => " seconds"
  | .milliseconds => "ms"

/-- The whole number of the largest unit: hours, minutes, seconds or milliseconds. -/
def readable (d : Duration) : String :=
  String.ofList (Number.digits d.inLargestUnit) ++ d.largestUnit.suffix

end Duration

end Uptime
