/-!
# Binary floating-point formats

A binary interchange format holds numbers `m · 2^e` with a bounded `m`. This module decodes the bit
pattern of a format into such a pair (`Format.magnitude`), and finds for an exact quotient the bit
pattern of the nearest member of the format, a tie going to the even one (`Format.nearest`). Members
are multiplied (`Format.scaled`) and rounded to whole numbers (`Format.toNat`) by their patterns.
All arithmetic is on natural numbers, so what is rounded, and how often, can be read off the terms.
-/

namespace Uptime.Number

/-- The quotient rounded to the nearest natural number, a tie going to the even one. -/
def roundDiv (num den : Nat) : Nat :=
  let q := num / den
  let r := num % den
  if 2 * r < den then q else if den < 2 * r then q + 1 else if q % 2 = 0 then q else q + 1

/-- A rounded quotient is within half a unit of the exact one. -/
theorem roundDiv_close (num : Nat) {den : Nat} (h : 0 < den) :
    2 * (roundDiv num den * den) ≤ 2 * num + den ∧
      2 * num ≤ 2 * (roundDiv num den * den) + den := by
  have hd := Nat.div_add_mod num den
  have hr := Nat.mod_lt num h
  have he : den * (num / den) = num / den * den := Nat.mul_comm ..
  have hs : (num / den + 1) * den = num / den * den + den := by rw [Nat.add_mul, Nat.one_mul]
  simp only [roundDiv]
  split
  · omega
  · split
    · omega
    · split <;> omega

/-- A binary interchange format: the bits of the stored fraction and of the exponent. -/
structure Format where
  fraction : Nat
  exponent : Nat

/-- The format of 32 bits. -/
def binary32 : Format := ⟨23, 8⟩

/-- The format of 64 bits. -/
def binary64 : Format := ⟨52, 11⟩

namespace Format

/-- The exponent of the last place of the smallest members, `-1074` for 64 bits. -/
def lowest (f : Format) : Int := 2 - Nat.pow 2 (f.exponent - 1) - f.fraction

/-- The bit pattern of infinity without its sign. -/
def infinity (f : Format) : Nat := (Nat.pow 2 f.exponent - 1) * Nat.pow 2 f.fraction

/-- The sign bit. -/
def sign (f : Format) : Nat := Nat.pow 2 (f.fraction + f.exponent)

/-- The pattern of the positive member nearest to `num / den`; infinity from the midpoint beyond the
largest member on. The quotient is first scaled so that its integral part has as many bits as the
format keeps. -/
def nearest (f : Format) (num den : Nat) : Nat :=
  if num = 0 then 0
  else
    let guess : Int := (Nat.log2 num : Int) - Nat.log2 den - f.fraction
    let scaled (e : Int) : Nat × Nat :=
      if e < 0 then (num * Nat.pow 2 e.natAbs, den) else (num, den * Nat.pow 2 e.natAbs)
    let below := (scaled guess).1 < (scaled guess).2 * Nat.pow 2 f.fraction
    let e := max f.lowest (if below then guess - 1 else guess)
    let m := roundDiv (scaled e).1 (scaled e).2
    min f.infinity (m + (e - f.lowest).toNat * Nat.pow 2 f.fraction)

/-- What a bit pattern without its sign stands for. -/
inductive Magnitude where
  | nan
  | infinite
  /-- The number `m · 2^e`. -/
  | finite (m : Nat) (e : Int)

/-- The pair `m`, `e` with the value `m · 2^e` of a bit pattern without its sign. -/
def magnitude (f : Format) (bits : Nat) : Magnitude :=
  let fraction := bits % Nat.pow 2 f.fraction
  let exponent := bits / Nat.pow 2 f.fraction
  if exponent = Nat.pow 2 f.exponent - 1 then if fraction = 0 then .infinite else .nan
  else if exponent = 0 then .finite fraction f.lowest
  else .finite (Nat.pow 2 f.fraction + fraction) (f.lowest + (exponent - 1))

/-- The number `m · 2^e` as a quotient. -/
def quotient (m : Nat) (e : Int) : Nat × Nat :=
  if e < 0 then (m, Nat.pow 2 e.natAbs) else (m * Nat.pow 2 e.natAbs, 1)

/-- The pattern of the positive member nearest to `factor` times what a pattern stands for. -/
def scaled (f : Format) (factor bits : Nat) : Nat :=
  match f.magnitude bits with
  | .nan | .infinite => bits
  | .finite m e => f.nearest ((quotient m e).1 * factor) (quotient m e).2

/-- The natural number nearest to what a pattern stands for, a tie going up. What is greater than
`most` becomes `most`, and what is no number zero. -/
def toNat (f : Format) (most bits : Nat) : Nat :=
  match f.magnitude bits with
  | .nan => 0
  | .infinite => most
  | .finite m e =>
    let (num, den) := quotient m e
    min most ((2 * num + den) / (2 * den))

end Format

/-- Whether the double is negative, negative zero included. -/
def isNegative (x : Float) : Bool := 9223372036854775808 ≤ x.toBits.toNat

/-- What the double stands for apart from its sign. -/
def magnitude (x : Float) : Format.Magnitude :=
  binary64.magnitude (x.toBits.toNat % 9223372036854775808)

/-- Whether the double is no number. -/
def isNaN (x : Float) : Bool :=
  match magnitude x with
  | .nan => true
  | _ => false

/-- Whether the double is one of the two zeros. -/
def isZero (x : Float) : Bool := x.toBits.toNat % 9223372036854775808 == 0

/-- The double with the sign and the magnitude pattern given. -/
def ofSigned (negative : Bool) (bits : Nat) : Float :=
  Float.ofBits (UInt64.ofNat (if negative then 9223372036854775808 + bits else bits))

/-- The integer that a double is, if it is one. -/
def integral? (x : Float) : Option Int :=
  let sign : Int := if isNegative x then -1 else 1
  match magnitude x with
  | .finite m e =>
    if 0 ≤ e then some (sign * (m * Nat.pow 2 e.natAbs : Nat))
    else if m % Nat.pow 2 e.natAbs = 0 then some (sign * (m / Nat.pow 2 e.natAbs : Nat))
    else none
  | _ => none

end Uptime.Number
