import Uptime.Number.Binary
import Uptime.Number.Digits

/-!
# Reading decimal numbers

The grammar of a decimal number in configuration and measurement text: an optional sign, then
digits with at most one point and at least one digit, then an optional exponent; or, in any letter
case, `inf`, `infinity` or `nan`. A number is read exactly (`Decimal.read?`) and only then rounded
to the format that is asked for (`Decimal.bits`).
-/

namespace Uptime.Number

/-- A decimal number as it is written: `digits · 10^exponent` with a sign, or one of the words. -/
inductive Decimal where
  | nan
  | infinite (negative : Bool)
  | finite (negative : Bool) (digits : Nat) (exponent : Int)

namespace Decimal

/-- An optional sign, and what follows it. -/
def sign : List Char → Bool × List Char
  | '-' :: cs => (true, cs)
  | '+' :: cs => (false, cs)
  | cs => (false, cs)

/-- The part from the exponent mark on; nothing at all is the exponent zero. -/
def exponent? : List Char → Option Int
  | [] => some 0
  | c :: cs =>
    if c = 'e' || c = 'E' then
      let (negative, ds) := sign cs
      if ds.isEmpty || ds.any (!·.isDigit) then none
      else some (if negative then -(ofDigits ds : Int) else ofDigits ds)
    else none

/-- The digits, with their point, and the exponent. -/
def finite? (negative : Bool) (cs : List Char) : Option Decimal :=
  let (whole, rest) := spanDigits cs
  let (fraction, rest) := match rest with
    | '.' :: more => spanDigits more
    | more => ([], more)
  if whole.isEmpty && fraction.isEmpty then none
  else (exponent? rest).map fun e =>
    .finite negative (ofDigits (whole ++ fraction)) (e - fraction.length)

/-- Reads a whole text as a decimal number. -/
def read? (cs : List Char) : Option Decimal :=
  let (negative, rest) := sign cs
  let word := String.ofList (rest.map Char.toLower)
  if word = "nan" then some .nan
  else if word = "inf" || word = "infinity" then some (.infinite negative)
  else finite? negative rest

/-- The bit pattern of the nearest member of the format. Far exponents are decided by the number of
digits alone, so no huge power is formed: no format here reaches `10^400` or resolves `10^-400`. -/
def bits (f : Format) : Decimal → Nat
  | .nan => f.infinity + Nat.pow 2 (f.fraction - 1)
  | .infinite negative => f.infinity + if negative then f.sign else 0
  | .finite negative n e =>
    let size := (digits n).length
    let magnitude :=
      if n = 0 then 0
      else if 400 < e + size then f.infinity
      else if e + size < -400 then 0
      else if e < 0 then f.nearest n (Nat.pow 10 e.natAbs)
      else f.nearest (n * Nat.pow 10 e.natAbs) 1
    magnitude + if negative then f.sign else 0

/-- The nearest double. -/
def toDouble (d : Decimal) : Float := Float.ofBits (UInt64.ofNat (d.bits binary64))

/-- The nearest number of the 32-bit format. -/
def toSingle (d : Decimal) : Float32 := Float32.ofBits (UInt32.ofNat (d.bits binary32))

end Decimal

end Uptime.Number
