import Uptime.Json.Reader
import Uptime.Proofs.Number.Padded

/-!
# The grammar of JSON

Which texts stand for which values. A text is put together from the texts of its parts, with any
blanks between them; a number keeps apart its whole digits, its places and its exponent; a string is
a sequence of 16-bit units, some written as characters and some as escapes, and stands for the
characters that are encoded so, if there are any. Nesting has no bound.
-/

namespace Uptime.Json

open Number (IsRun ofDigits)

/-! ## Strings -/

/-- The 16-bit units that encode a character. -/
def unitsOf (c : Char) : List Nat :=
  if c.toNat < 0x10000 then [c.toNat]
  else [0xD800 + (c.toNat - 0x10000) / 1024, 0xDC00 + (c.toNat - 0x10000) % 1024]

/-- The string that units encode; `none` if they encode no string. -/
def Encode (us : List Nat) : Option String → Prop
  | some s => us = s.toList.flatMap unitsOf
  | none => ∀ s : String, us ≠ s.toList.flatMap unitsOf

/-- The text between the quotes of a string, and its units. -/
inductive Spelling : List Nat → List Char → Prop
  | nil : Spelling [] []
  | plain {c : Char} {us : List Nat} {cs : List Char} (visible : 32 ≤ c.toNat) (quote : c ≠ '"')
      (backslash : c ≠ '\\') (more : Spelling us cs) : Spelling (unitsOf c ++ us) (c :: cs)
  | short {e c : Char} {us : List Nat} {cs : List Char} (escape : unescape? e = some c)
      (more : Spelling us cs) : Spelling (unitsOf c ++ us) ('\\' :: e :: cs)
  | unit {a b c d : Char} {w x y z : Nat} {us : List Nat} {cs : List Char}
      (ha : hexValue? a = some w) (hb : hexValue? b = some x) (hc : hexValue? c = some y)
      (hd : hexValue? d = some z) (more : Spelling us cs) :
      Spelling ((((w * 16 + x) * 16 + y) * 16 + z) :: us) ('\\' :: 'u' :: a :: b :: c :: d :: cs)

/-- The texts of a string, with their quotes. -/
inductive Quoted : Option String → List Char → Prop
  | mk {us : List Nat} {cs : List Char} {s : Option String} (spelling : Spelling us cs)
      (encode : Encode us s) : Quoted s ('"' :: (cs ++ ['"']))

/-! ## Numbers -/

/-- A run of at least one decimal digit. -/
structure Digits where
  chars : List Char
  run : IsRun chars
  ne_nil : chars ≠ []

/-- The part of a number from the exponent mark on. -/
structure Exponent where
  mark : Char
  isMark : mark = 'e' ∨ mark = 'E'
  sign : Option Bool
  digits : Digits

namespace Exponent

/-- The text of an exponent; a plus sign may be left out. -/
def text (e : Exponent) : List Char :=
  e.mark :: (match e.sign with
    | none => e.digits.chars
    | some negative => (if negative then '-' else '+') :: e.digits.chars)

/-- The power of ten. -/
def value (e : Exponent) : Int :=
  if e.sign = some true then -(ofDigits e.digits.chars : Int) else ofDigits e.digits.chars

end Exponent

/-- A number as it is written. Its whole digits begin with a zero only if that is all of them. -/
structure Numeral where
  negative : Bool
  whole : Digits
  noZero : whole.chars.head? = some '0' → whole.chars = ['0']
  places : Option Digits := none
  exponent : Option Exponent := none

namespace Numeral

/-- The digits after the point. -/
def fraction (n : Numeral) : List Char := (n.places.map (·.chars)).getD []

/-- The text of a number behind its whole digits. -/
def tail (n : Numeral) : List Char :=
  (n.places.map fun p => '.' :: p.chars).getD [] ++ (n.exponent.map (·.text)).getD []

/-- The text of a number. -/
def text (n : Numeral) : List Char :=
  (if n.negative then ['-'] else []) ++ (n.whole.chars ++ n.tail)

/-- The value of a number: an integer if there is neither a point nor an exponent, `-0` apart. -/
def value (n : Numeral) : Json :=
  let whole := ofDigits n.whole.chars
  if n.places.isNone ∧ n.exponent.isNone ∧ ¬(n.negative = true ∧ whole = 0) then
    .integer (if n.negative then -(whole : Int) else whole)
  else
    .real (.finite n.negative (ofDigits (n.whole.chars ++ n.fraction))
      ((n.exponent.map (·.value)).getD 0 - n.fraction.length))

end Numeral

/-! ## Values -/

/-- Blanks, as many as there are. -/
def Blank (cs : List Char) : Prop := ∀ c ∈ cs, isSpace c = true

/-- A part of a JSON text. -/
inductive Phrase where
  /-- A value, from its first character to its last. -/
  | value (v : Json)
  /-- A value with blanks around it. -/
  | padded (v : Json)
  /-- What stands between the brackets of an array that is not empty. -/
  | items (vs : List Json)
  /-- A member of an object. -/
  | member (m : Option String × Json)
  /-- What stands between the braces of an object that is not empty. -/
  | members (ms : List (Option String × Json))

/-- The texts of a phrase. -/
inductive Spells : Phrase → List Char → Prop
  | null : Spells (.value .null) "null".toList
  | true : Spells (.value (.bool .true)) "true".toList
  | false : Spells (.value (.bool .false)) "false".toList
  | number (n : Numeral) : Spells (.value n.value) n.text
  | string {s : Option String} {cs : List Char} (h : Quoted s cs) : Spells (.value (.string s)) cs
  | noItems {b : List Char} (hb : Blank b) : Spells (.value (.array [])) ('[' :: (b ++ [']']))
  | array {vs : List Json} {cs : List Char} (h : Spells (.items vs) cs) :
      Spells (.value (.array vs)) ('[' :: (cs ++ [']']))
  | noMembers {b : List Char} (hb : Blank b) : Spells (.value (.object [])) ('{' :: (b ++ ['}']))
  | object {ms : List (Option String × Json)} {cs : List Char} (h : Spells (.members ms) cs) :
      Spells (.value (.object ms)) ('{' :: (cs ++ ['}']))
  | padded {v : Json} {a b cs : List Char} (ha : Blank a) (hb : Blank b)
      (h : Spells (.value v) cs) : Spells (.padded v) (a ++ (cs ++ b))
  | lastItem {v : Json} {cs : List Char} (h : Spells (.padded v) cs) : Spells (.items [v]) cs
  | items {v : Json} {vs : List Json} {cs more : List Char} (h : Spells (.padded v) cs)
      (hs : Spells (.items vs) more) : Spells (.items (v :: vs)) (cs ++ ',' :: more)
  | member {k : Option String} {v : Json} {a b key cs : List Char} (ha : Blank a) (hb : Blank b)
      (hk : Quoted k key) (h : Spells (.padded v) cs) :
      Spells (.member (k, v)) (a ++ (key ++ (b ++ ':' :: cs)))
  | lastMember {m : Option String × Json} {cs : List Char} (h : Spells (.member m) cs) :
      Spells (.members [m]) cs
  | members {m : Option String × Json} {ms : List (Option String × Json)} {cs more : List Char}
      (h : Spells (.member m) cs) (hs : Spells (.members ms) more) :
      Spells (.members (m :: ms)) (cs ++ ',' :: more)

end Uptime.Json
