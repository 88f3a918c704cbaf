import Uptime.Text.Utf8

/-!
# Percent signs in addresses

A character that may not stand in a part of an address is written as the bytes of its UTF-8 form,
each as a percent sign and two hexadecimal digits. Which characters that are depends on the part.
-/

namespace Uptime.Url

/-- A set of ASCII characters that may not stand in some part. -/
abbrev Reserved := Char → Bool

namespace Reserved

/-- Control characters. -/
def control : Reserved := fun c => c.toNat < 32 || c.toNat = 127

/-- The control characters and some more. -/
def controlAnd (more : String) : Reserved := fun c => control c || more.toList.contains c

/-- What may not stand after the number sign. -/
def fragment : Reserved := controlAnd " \"<>\x60"

/-- What may not stand in a path. -/
def path : Reserved := fun c => fragment c || "#?\x7b\x7d".toList.contains c

/-- What may not stand in a user's name or password. -/
def user : Reserved := fun c => path c || "/:;=@[\\]^|".toList.contains c

/-- What may not stand in a query. -/
def query : Reserved := controlAnd " \"#<>"

/-- What may not stand in a query of an address of the web. -/
def webQuery : Reserved := fun c => query c || c = '\''

end Reserved

/-- A hexadecimal digit in upper case. -/
def hexUpper (n : Nat) : Char := Char.ofNat (if n < 10 then 48 + n else 55 + n)

/-- A byte behind a percent sign. -/
def percentByte (b : UInt8) : List Char := ['%', hexUpper (b.toNat / 16), hexUpper (b.toNat % 16)]

/-- A character as it is written in a part where some may not stand. -/
def percentChar (r : Reserved) (c : Char) : List Char :=
  if c.toNat < 128 && !r c then [c] else (String.singleton c).toUTF8.toList.flatMap percentByte

/-- A text as it is written in a part where some characters may not stand. -/
def percentText (r : Reserved) (cs : List Char) : List Char := cs.flatMap (percentChar r)

/-- The value of a hexadecimal digit. -/
def hexDigit? (c : Char) : Option Nat :=
  let n := c.toNat
  if 48 ≤ n && n ≤ 57 then some (n - 48)
  else if 97 ≤ n && n ≤ 102 then some (n - 87)
  else if 65 ≤ n && n ≤ 70 then some (n - 55)
  else none

/-- The bytes of a text, those behind percent signs taken as what they stand for. -/
def percentDecode : List Char → List UInt8
  | [] => []
  | '%' :: a :: b :: cs =>
    match hexDigit? a, hexDigit? b with
    | some x, some y => UInt8.ofNat (x * 16 + y) :: percentDecode cs
    | _, _ => 37 :: percentDecode (a :: b :: cs)
  | c :: cs => (String.singleton c).toUTF8.toList ++ percentDecode cs

end Uptime.Url
