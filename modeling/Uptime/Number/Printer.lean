import Uptime.Number.Binary
import Uptime.Number.Digits

/-!
# Writing doubles in decimal

Three ways to write a double. `shortest` finds the fewest significant digits that still read back as
the same double, of those the nearest to its value; `rounded` cuts its exact value to a given number
of significant digits; `fixed` gives it a fixed number of decimal places. A `Layout` says where
positional notation ends and how an exponent is written. `shortest` and `rounded` work on the exact
value `m · 2^e` with natural numbers only.
-/

namespace Uptime.Number

/-- A positive number as an exact quotient. -/
structure Quotient where
  num : Nat
  den : Nat

/-- The quotient `m · 2^e`. -/
def Quotient.ofBinary (m : Nat) (e : Int) : Quotient :=
  if e < 0 then ⟨m, Nat.pow 2 e.natAbs⟩ else ⟨m * Nat.pow 2 e.natAbs, 1⟩

/-- Whether the quotient is at least `10^k`. -/
def Quotient.reaches (q : Quotient) (k : Int) : Bool :=
  if k < 0 then q.den ≤ q.num * Nat.pow 10 k.natAbs else q.den * Nat.pow 10 k.natAbs ≤ q.num

/-- The exponent of the leading decimal digit. -/
def Quotient.leading (q : Quotient) : Int :=
  let guess : Int := (digits q.num).length - (digits q.den).length
  if q.reaches guess then guess else guess - 1

/-- The quotient in units of `10^k`. -/
def Quotient.inUnits (q : Quotient) (k : Int) : Quotient :=
  if k < 0 then ⟨q.num * Nat.pow 10 k.natAbs, q.den⟩ else ⟨q.num, q.den * Nat.pow 10 k.natAbs⟩

/-- Significant digits as one number, and the power of ten of the last of them. -/
structure Significant where
  value : Nat
  power : Int

/-- The same number without the zeros its digits end with; `fuel` bounds how many are taken. -/
def Significant.stripped (fuel : Nat) (s : Significant) : Significant :=
  match fuel with
  | 0 => s
  | fuel + 1 =>
    if s.value ≠ 0 && s.value % 10 = 0 then
      (⟨s.value / 10, s.power + 1⟩ : Significant).stripped fuel
    else s

/-- The reals that round to `m · 2^e`, in quarters of the last place: from `4m - 2`, or `4m - 1`
where the next lower member is only half as far, to `4m + 2`. The ends belong to it iff `m` is even.
-/
def roundingSpan (m : Nat) (e : Int) : Nat × Nat :=
  (if m = 4503599627370496 && e ≠ binary64.lowest then 4 * m - 1 else 4 * m - 2, 4 * m + 2)

/-- Whether `c · 10^k` rounds to `m · 2^e`. -/
def readsBack (m : Nat) (e : Int) (k : Int) (c : Nat) : Bool :=
  let (lo, hi) := roundingSpan m e
  let unit := (Quotient.ofBinary 1 (e - 2)).inUnits k
  let scaled := c * unit.den
  if m % 2 = 0 then lo * unit.num ≤ scaled && scaled ≤ hi * unit.num
  else lo * unit.num < scaled && scaled < hi * unit.num

/-- The neighbour of the value on the grid of `count` significant digits that reads back, the nearer
of two; of two that are equally near, the even one. -/
def onGrid? (m : Nat) (e : Int) (count : Nat) : Option Significant :=
  let value := Quotient.ofBinary m e
  let k := value.leading + 1 - count
  let scaled := value.inUnits k
  let c := scaled.num / scaled.den
  let twice := 2 * (scaled.num % scaled.den)
  let low := twice < scaled.den || (twice = scaled.den && c % 2 = 0)
  let nearer := if low then [c, c + 1] else [c + 1, c]
  (nearer.find? (readsBack m e k)).map fun c => ⟨c, k⟩

/-- The first grid, from one digit on, that has a neighbour which reads back. Seventeen digits
always suffice for a double. -/
def shortestFrom (m : Nat) (e : Int) (count : Nat) : Nat → Significant
  | 0 => ⟨m, e⟩
  | fuel + 1 =>
    match onGrid? m e count with
    | some s => s
    | none => shortestFrom m e (count + 1) fuel

/-- The fewest significant digits that read back as `m · 2^e`, for positive `m`. -/
def shortest (m : Nat) (e : Int) : Significant := (shortestFrom m e 1 17).stripped 20

/-- The value `m · 2^e` in `count` significant digits, a half rounded up. -/
def rounded (count m : Nat) (e : Int) : Significant :=
  let value := Quotient.ofBinary m e
  let k := value.leading + 1 - count
  let scaled := value.inUnits k
  (⟨(2 * scaled.num + scaled.den) / (2 * scaled.den), k⟩ : Significant).stripped (count + 1)

/-- Where positional notation is used and how the rest is written. -/
structure Layout where
  /-- The lowest exponent of the leading digit that is written positionally. -/
  lowest : Int
  /-- The highest exponent of the leading digit that is written positionally. -/
  highest : Int
  /-- Whether a single digit before an exponent is followed by `.0`. -/
  pointBeforeExponent : Bool
  /-- The least number of digits of an exponent. -/
  exponentDigits : Nat

/-- Positional notation of significant digits; a whole number ends in `.0`. -/
def Significant.positional (s : Significant) : List Char :=
  let ds := digits s.value
  if 0 ≤ s.power then ds ++ List.replicate s.power.natAbs '0' ++ ['.', '0']
  else
    let places := s.power.natAbs
    let ds := List.replicate (places + 1 - ds.length) '0' ++ ds
    ds.take (ds.length - places) ++ '.' :: ds.drop (ds.length - places)

/-- Significant digits in the layout given. -/
def Significant.render (layout : Layout) (s : Significant) : List Char :=
  let ds := digits s.value
  let leading : Int := s.power + ds.length - 1
  if layout.lowest ≤ leading && leading ≤ layout.highest then s.positional
  else
    let mantissa := match ds with
      | [d] => if layout.pointBeforeExponent then [d, '.', '0'] else [d]
      | d :: rest => d :: '.' :: rest
      | [] => []
    mantissa ++ 'e' :: (if leading < 0 then '-' else '+') ::
      padded layout.exponentDigits leading.natAbs

/-- A finite double of magnitude `m · 2^e` with `places` decimal places, a half going to the even
neighbour. -/
def fixed (places m : Nat) (e : Int) : List Char :=
  let scaled := (Quotient.ofBinary m e).inUnits (-places)
  let ds := padded (places + 1) (roundDiv scaled.num scaled.den)
  ds.take (ds.length - places) ++ '.' :: ds.drop (ds.length - places)

/-- A double with `places` decimal places; what is not finite is written as a word. -/
def fixedDouble (places : Nat) (x : Float) : String :=
  let sign := if isNegative x then ['-'] else []
  match magnitude x with
  | .nan => "NaN"
  | .infinite => String.ofList (sign ++ ['i', 'n', 'f'])
  | .finite m e => String.ofList (sign ++ fixed places m e)

end Uptime.Number
