import Uptime.Json.Value
import Uptime.Number.Printer

/-!
# Writing JSON

The compact form: no blanks, members in the order given, and in strings only the escapes that the
format requires, short ones where they exist. `render` writes a tree; `objectText` joins members
whose values are already written. A double is written in its shortest form, or `null` if it is not
finite.
-/

namespace Uptime.Json

/-- A hexadecimal digit in lower case. -/
def hexDigit (n : Nat) : Char := if n < 10 then Char.ofNat (48 + n) else Char.ofNat (87 + n)

/-- The letter of a short escape. -/
def shortEscape? (c : Char) : Option Char :=
  if c = '"' then some '"'
  else if c = '\\' then some '\\'
  else if c = '\x08' then some 'b'
  else if c = '\t' then some 't'
  else if c = '\n' then some 'n'
  else if c = '\x0c' then some 'f'
  else if c = '\r' then some 'r'
  else none

/-- One character inside a string. -/
def escape (c : Char) : List Char :=
  match shortEscape? c with
  | some e => ['\\', e]
  | none =>
    if c.toNat < 32 then
      ['\\', 'u', '0', '0', hexDigit (c.toNat / 16), hexDigit (c.toNat % 16)]
    else [c]

/-- The characters of a string and the closing quote. -/
def stringTail (cs : List Char) : List Char := cs.flatMap escape ++ ['"']

/-- A string with its quotes. -/
def stringText (s : String) : List Char := '"' :: stringTail s.toList

/-- The parts with commas between them. -/
def commaJoined : List (List Char) → List Char
  | [] => []
  | [x] => x
  | x :: rest => x ++ ',' :: commaJoined rest

/-- An object of members whose values are already written. -/
def objectText (members : List (String × List Char)) : List Char :=
  '{' :: commaJoined (members.map fun m => stringText m.1 ++ ':' :: m.2) ++ ['}']

/-- Doubles are positional from `10^-5` to below `10^16`; an exponent keeps its sign. -/
def doubleLayout : Number.Layout := ⟨-5, 15, false, 1⟩

/-- A double in its shortest form, `null` if it is not finite. -/
def doubleText (x : Float) : List Char :=
  let sign := if Number.isNegative x then ['-'] else []
  match Number.magnitude x with
  | .nan => "null".toList
  | .infinite => "null".toList
  | .finite m e =>
    sign ++ if m = 0 then ['0', '.', '0'] else (Number.shortest m e).render doubleLayout

mutual

/-- The compact text of a value. -/
def render : Json → List Char
  | .null => "null".toList
  | .bool true => "true".toList
  | .bool false => "false".toList
  | .integer n => Number.signed n
  | .real d => doubleText d.toDouble
  | .string s => stringText (s.getD "")
  | .array items => '[' :: renderItems items
  | .object members => '{' :: renderMembers members

/-- The items of an array and its closing bracket. -/
def renderItems : List Json → List Char
  | [] => [']']
  | [v] => render v ++ [']']
  | v :: rest => render v ++ ',' :: renderItems rest

/-- The members of an object and its closing brace. -/
def renderMembers : List (Option String × Json) → List Char
  | [] => ['}']
  | [(k, v)] => stringText (k.getD "") ++ ':' :: render v ++ ['}']
  | (k, v) :: rest => stringText (k.getD "") ++ ':' :: render v ++ ',' :: renderMembers rest

end

end Uptime.Json
