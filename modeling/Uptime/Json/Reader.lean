import Uptime.Json.Value

/-!
# Reading JSON

A reader takes a list of characters and gives back what it read and what is left. Blanks are space,
tab, line feed and carriage return. A string may hold any character but a quote, a backslash or a
control character; `\u` escapes name 16-bit units, of which two halves of a surrogate pair make one
character and a lone half makes the string `none`. Nesting is not limited. `read?` reads a whole
text; its recursion is bounded by twice the length of the text, since every level and every item
takes a character.
-/

namespace Uptime.Json

/-- The blanks that may stand between tokens. -/
def isSpace (c : Char) : Bool := c = ' ' || c = '\n' || c = '\t' || c = '\r'

/-- What follows the blanks in front. -/
def skipSpace (cs : List Char) : List Char := cs.dropWhile isSpace

/-- What follows the word given. -/
def word? (w : List Char) (cs : List Char) : Option (List Char) :=
  if w.isPrefixOf cs then some (cs.drop w.length) else none

/-- The value of a hexadecimal digit. -/
def hexValue? (c : Char) : Option Nat :=
  if '0' ≤ c && c ≤ '9' then some (c.toNat - 48)
  else if 'a' ≤ c && c ≤ 'f' then some (c.toNat - 87)
  else if 'A' ≤ c && c ≤ 'F' then some (c.toNat - 55)
  else none

/-- Four hexadecimal digits as one 16-bit unit. -/
def unit? : List Char → Option (Nat × List Char)
  | a :: b :: c :: d :: cs => do
    let a ← hexValue? a
    let b ← hexValue? b
    let c ← hexValue? c
    let d ← hexValue? d
    pure (((a * 16 + b) * 16 + c) * 16 + d, cs)
  | _ => none

/-- The character of a short escape. -/
def unescape? (c : Char) : Option Char :=
  if c = '"' || c = '\\' || c = '/' then some c
  else if c = 'b' then some '\x08'
  else if c = 'f' then some '\x0c'
  else if c = 'n' then some '\n'
  else if c = 'r' then some '\r'
  else if c = 't' then some '\t'
  else none

/-- One element of a string: a character, or one 16-bit unit of an escape. -/
inductive Element where
  | char (c : Char)
  | unit (u : Nat)

/-- The elements of a string up to its closing quote, and what follows that. -/
def elements? : List Char → Option (List Element × List Char)
  | [] => none
  | '"' :: cs => some ([], cs)
  | '\\' :: 'u' :: cs =>
    match _h : unit? cs with
    | some (u, rest) => if rest.length < cs.length + 2 then
        (elements? rest).map fun q => (.unit u :: q.1, q.2) else none
    | none => none
  | '\\' :: c :: cs =>
    match unescape? c with
    | some d => (elements? cs).map fun q => (.char d :: q.1, q.2)
    | none => none
  | c :: cs =>
    if c = '\\' || c.toNat < 32 then none
    else (elements? cs).map fun q => (.char c :: q.1, q.2)
termination_by cs => cs.length
decreasing_by all_goals (simp only [List.length_cons]; omega)

/-- The characters of a string's elements: a high and a low half in a row are one character, and a
half on its own is none. -/
def ofElements? : List Element → Option (List Char)
  | [] => some []
  | .char c :: rest => (ofElements? rest).map (c :: ·)
  | .unit u :: rest =>
    if 0xD800 ≤ u ∧ u < 0xDC00 then
      match rest with
      | .unit v :: more =>
        if 0xDC00 ≤ v ∧ v < 0xE000 then
          (ofElements? more).map (Char.ofNat (0x10000 + (u - 0xD800) * 1024 + (v - 0xDC00)) :: ·)
        else none
      | _ => none
    else if 0xDC00 ≤ u ∧ u < 0xE000 then none
    else (ofElements? rest).map (Char.ofNat u :: ·)

/-- A string after its opening quote. -/
def string? (cs : List Char) : Option (Option String × List Char) :=
  (elements? cs).map fun q => ((ofElements? q.1).map String.ofList, q.2)

/-- The digits after a point, if there is one. -/
def fraction? : List Char → Option (Option (List Char) × List Char)
  | '.' :: cs =>
    let (ds, rest) := Number.spanDigits cs
    if ds.isEmpty then none else some (some ds, rest)
  | cs => some (none, cs)

/-- The exponent, if there is one. -/
def exponent? : List Char → Option (Option Int × List Char)
  | c :: cs =>
    if c = 'e' || c = 'E' then
      let (negative, cs) := Number.Decimal.sign cs
      let (ds, rest) := Number.spanDigits cs
      if ds.isEmpty then none
      else some (some (if negative then -(Number.ofDigits ds : Int) else Number.ofDigits ds), rest)
    else some (none, c :: cs)
  | [] => some (none, [])

/-- A minus sign, if there is one, and what follows it. -/
def minus : List Char → Bool × List Char
  | '-' :: cs => (true, cs)
  | cs => (false, cs)

/-- The value of a number: an integer if there is neither a point nor an exponent, `-0` apart. -/
def numberOf (negative : Bool) (ds : List Char) :
    Option (List Char) → Option Int → Json
  | none, none =>
    let n := Number.ofDigits ds
    if negative && n = 0 then .real (.finite true 0 0)
    else .integer (if negative then -(n : Int) else n)
  | f, e =>
    let places := f.getD []
    .real (.finite negative (Number.ofDigits (ds ++ places)) (e.getD 0 - places.length))

/-- A number: no leading zeros, at least one digit after a point or an exponent mark. -/
def number? (cs : List Char) : Option (Json × List Char) := do
  let (negative, cs) := minus cs
  let (ds, cs) := Number.spanDigits cs
  if ds.isEmpty || (ds.head? = some '0' && ds.length ≠ 1) then none
  else
    let (fraction, cs) ← fraction? cs
    let (exponent, cs) ← exponent? cs
    pure (numberOf negative ds fraction exponent, cs)

mutual

/-- A value, after any blanks. -/
def value? : Nat → List Char → Option (Json × List Char)
  | 0, _ => none
  | fuel + 1, cs =>
    match skipSpace cs with
    | '"' :: cs => (string? cs).map fun q => (.string q.1, q.2)
    | '[' :: cs =>
      match skipSpace cs with
      | ']' :: rest => some (.array [], rest)
      | cs => (items? fuel cs).map fun q => (.array q.1, q.2)
    | '{' :: cs =>
      match skipSpace cs with
      | '}' :: rest => some (.object [], rest)
      | cs => (members? fuel cs).map fun q => (.object q.1, q.2)
    | cs =>
      match word? "null".toList cs, word? "true".toList cs, word? "false".toList cs with
      | some rest, _, _ => some (.null, rest)
      | _, some rest, _ => some (.bool true, rest)
      | _, _, some rest => some (.bool false, rest)
      | none, none, none => number? cs

/-- The items of an array up to its closing bracket; there is at least one. -/
def items? : Nat → List Char → Option (List Json × List Char)
  | 0, _ => none
  | fuel + 1, cs => do
    let (v, cs) ← value? fuel cs
    match skipSpace cs with
    | ']' :: rest => pure ([v], rest)
    | ',' :: cs => (items? fuel cs).map fun q => (v :: q.1, q.2)
    | _ => none

/-- The members of an object up to its closing brace; there is at least one. -/
def members? : Nat → List Char → Option (List (Option String × Json) × List Char)
  | 0, _ => none
  | fuel + 1, cs => do
    match skipSpace cs with
    | '"' :: cs =>
      let (key, cs) ← string? cs
      match skipSpace cs with
      | ':' :: cs =>
        let (v, cs) ← value? fuel cs
        match skipSpace cs with
        | '}' :: rest => pure ([(key, v)], rest)
        | ',' :: cs => (members? fuel cs).map fun q => ((key, v) :: q.1, q.2)
        | _ => none
      | _ => none
    | _ => none

end

/-- Reads a whole text as one value. -/
def read? (cs : List Char) : Option Json := do
  let (v, rest) ← value? (2 * cs.length + 2) cs
  if (skipSpace rest).isEmpty then some v else none

end Uptime.Json
