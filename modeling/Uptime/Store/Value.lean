import Uptime.Number.Decimal
import Uptime.Number.Printer

/-!
# Stored values

A cell of a table holds nothing, an integer, a real number, a text or bytes. A column has an
affinity: what is stored in it is brought into the column's own class where that loses nothing.
-/

namespace Uptime.Store

/-- What a cell can hold. -/
inductive Value where
  | null
  | integer (n : Int64)
  | real (x : Float)
  | text (s : String)
  | blob (bytes : List UInt8)

namespace Value

/-- The class of a value, as it is named in messages. -/
def className : Value → String
  | .null => "Null"
  | .integer _ => "Integer"
  | .real _ => "Real"
  | .text _ => "Text"
  | .blob _ => "Blob"

def isNull : Value → Bool
  | .null => true
  | _ => false

/-- A double as it is stored: what is no number is stored as nothing. -/
def ofDouble (x : Float) : Value := if Number.isNaN x then .null else .real x

/-- A text that may be absent. -/
def ofText? : Option String → Value
  | none => .null
  | some s => .text s

/-- An integer as a double, rounded to the nearest. -/
def toDouble (n : Int64) : Float :=
  Number.ofSigned (n.toInt < 0) (Number.binary64.nearest n.toInt.natAbs 1)

/-- How a real number is written as text: fifteen significant digits, positional from `1e-4` up to
`1e15`, at least two digits of an exponent. -/
def realLayout : Number.Layout := ⟨-4, 14, true, 2⟩

/-- The text of a real number; the two zeros have the same. -/
def realText (x : Float) : String :=
  let sign := if Number.isNegative x then "-" else ""
  match Number.magnitude x with
  | .nan => ""
  | .infinite => sign ++ "Inf"
  | .finite m e =>
    if m = 0 then "0.0"
    else sign ++ String.ofList ((Number.rounded 15 m e).render realLayout)

/-- Whether the value is this integer; a real number is compared exactly. -/
def isInteger (n : Int64) : Value → Bool
  | .integer m => m == n
  | .real x => Number.integral? x == some n.toInt
  | _ => false

end Value

/-- The spaces that may surround a number in a text. -/
def isSpace (c : Char) : Bool := c = ' ' || (9 ≤ c.toNat && c.toNat ≤ 13)

/-- What a text that is a number as a whole stands for. -/
inductive Numeral where
  | integer (n : Int64)
  | real (x : Float)

/-- Whether an integer fits a cell. -/
def fitsInteger (n : Int) : Bool := -9223372036854775808 ≤ n && n < 9223372036854775808

/-- Reads a text that is a number as a whole, spaces around it apart: an integer if it has neither
point nor exponent and fits, else a real number. -/
def Numeral.read? (s : String) : Option Numeral :=
  let cs := s.toList.dropWhile isSpace
  let cs := (cs.reverse.dropWhile isSpace).reverse
  let (negative, rest) := Number.Decimal.sign cs
  (Number.Decimal.finite? negative rest).map fun d =>
    let n : Int := if negative then -(Number.ofDigits rest : Int) else Number.ofDigits rest
    if rest.all Char.isDigit && fitsInteger n then .integer (Int64.ofInt n)
    else .real d.toDouble

/-- What a column makes of the values that are stored in it. -/
inductive Affinity where
  | integer
  | real
  | text
deriving DecidableEq, Repr

namespace Affinity

/-- A real number without a fraction as an integer, short of the two ends of the range. -/
def whole (x : Float) : Value :=
  match Number.integral? x with
  | some n =>
    if -9223372036854775808 < n && n < 9223372036854775807 then .integer (Int64.ofInt n)
    else .real x
  | none => .real x

/-- A real number as a column of real numbers keeps it: the two zeros are one. -/
def kept (x : Float) : Value := if Number.isZero x then .real 0 else .real x

/-- A numeral in a column of integers. -/
def wholeNumeral : Numeral → Value
  | .integer n => .integer n
  | .real x => whole x

/-- A numeral in a column of real numbers. -/
def realNumeral : Numeral → Value
  | .integer n => .real (Value.toDouble n)
  | .real x => kept x

/-- The value as it is stored in a column of this affinity. -/
def apply : Affinity → Value → Value
  | .integer, .real x => whole x
  | .integer, .text s => ((Numeral.read? s).map wholeNumeral).getD (.text s)
  | .real, .integer n => .real (Value.toDouble n)
  | .real, .real x => kept x
  | .real, .text s => ((Numeral.read? s).map realNumeral).getD (.text s)
  | .text, .integer n => .text (String.ofList (Number.signed n.toInt))
  | .text, .real x => .text (Value.realText x)
  | _, v => v

theorem isNull_whole (x : Float) : (whole x).isNull = false := by
  unfold whole; split <;> (try split) <;> rfl

theorem isNull_kept (x : Float) : (kept x).isNull = false := by
  unfold kept; split <;> rfl

/-- Storing brings nothing into being and takes nothing away. -/
theorem isNull_apply (a : Affinity) (v : Value) : (a.apply v).isNull = v.isNull := by
  have hw (n : Numeral) : (wholeNumeral n).isNull = false := by
    cases n with
    | integer => rfl
    | real x => exact isNull_whole x
  have hr (n : Numeral) : (realNumeral n).isNull = false := by
    cases n with
    | integer => rfl
    | real x => exact isNull_kept x
  cases a <;> cases v <;> simp only [apply, isNull_whole, isNull_kept] <;> try rfl
  · cases Numeral.read? _ with
    | none => rfl
    | some n => exact hw n
  · cases Numeral.read? _ with
    | none => rfl
    | some n => exact hr n

end Affinity

end Uptime.Store
