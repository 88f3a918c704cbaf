import Uptime.Log
import Uptime.Text.Blank

/-!
# Header fields

The header fields of a request are configured as pairs of a name and a value with `=` between them,
parted by commas. A pair that lacks either is left out; one that cannot be sent is left out with a
warning. Names are kept in lower case and each occurs once: a later pair replaces an earlier one
(`Headers.get?_insert`, `Headers.get?_insert_ne`).
-/

namespace Uptime.Http

/-- The header fields of a request: names in lower case, values as bytes. -/
abbrev Headers := List (String × List UInt8)

namespace Headers

/-- The value of the first field with that name. -/
def get? (hs : Headers) (name : String) : Option (List UInt8) := List.lookup name hs

/-- Sets a field; the value that it had is replaced. -/
def insert (name : String) (value : List UInt8) : Headers → Headers
  | [] => [(name, value)]
  | h :: hs => if h.1 = name then (name, value) :: hs else h :: insert name value hs

/-- Adds a field beside those of the same name. -/
def append (hs : Headers) (name : String) (value : List UInt8) : Headers := hs ++ [(name, value)]

/-- All values of the fields with that name. -/
def values (hs : Headers) (name : String) : List (List UInt8) :=
  (hs.filter fun h => h.1 = name).map (·.2)

theorem get?_insert (hs : Headers) (name : String) (value : List UInt8) :
    (hs.insert name value).get? name = some value := by
  induction hs with
  | nil => simp [insert, get?]
  | cons h hs ih =>
    obtain ⟨key, old⟩ := h
    rw [insert]
    split
    · simp [get?]
    · next hn =>
      have hk : (name == key) = false := beq_eq_false_iff_ne.2 (Ne.symm hn)
      simpa [get?, List.lookup_cons, hk] using ih

theorem get?_insert_ne (hs : Headers) {name other : String} (value : List UInt8)
    (h : other ≠ name) : (hs.insert name value).get? other = hs.get? other := by
  have ho : (other == name) = false := beq_eq_false_iff_ne.2 h
  induction hs with
  | nil => simp [insert, get?, List.lookup_cons, ho]
  | cons p hs ih =>
    obtain ⟨key, old⟩ := p
    rw [insert]
    split
    · next hk =>
      obtain rfl : key = name := hk
      simp [get?, List.lookup_cons, ho]
    · by_cases hq : other = key
      · simp [get?, hq]
      · have hk : (other == key) = false := beq_eq_false_iff_ne.2 hq
        simpa [get?, List.lookup_cons, hk] using ih

end Headers

/-- The characters that words of the protocol are made of. -/
def isTokenChar (c : Char) : Bool := c.isAlphanum || "!#$%&'*+-.^_`|~".toList.contains c

/-- The longest name that a header field can have. -/
def maxNameLength : Nat := 65535

/-- A header name as it is kept: token characters in lower case. -/
def headerName? (cs : List Char) : Option String :=
  if !cs.isEmpty && cs.length ≤ maxNameLength && cs.all isTokenChar then
    some (String.ofList (Text.lower cs))
  else none

/-- Whether a byte may stand in a header value: control characters may not, except the tab. -/
def isValueByte (b : UInt8) : Bool := b = 9 || (32 ≤ b && b ≠ 127)

/-- A header value as it is sent. -/
def headerValue? (cs : List Char) : Option (List UInt8) :=
  let bytes := (String.ofList cs).toUTF8.toList
  if bytes.all isValueByte then some bytes else none

namespace Headers

/-- What one piece between commas says. -/
inductive Pair where
  /-- No name or no value. -/
  | void
  | field (name : String) (value : List UInt8)
  /-- It cannot be sent. -/
  | invalid (text : List Char)
deriving DecidableEq, Repr

/-- Reads one piece between commas; name and value are trimmed. -/
def Pair.read (piece : List Char) : Pair :=
  match Text.cut? (· = '=') piece with
  | none => .void
  | some (left, right) =>
    let name := Text.trim left
    let value := Text.trim right
    if name.isEmpty || value.isEmpty then .void
    else match headerName? name, headerValue? value with
      | some name, some value => .field name value
      | _, _ => .invalid (Text.trim piece)

/-- The fields after one more piece. -/
def Pair.apply (hs : Headers) : Pair → Headers
  | .field name value => hs.insert name value
  | .void | .invalid _ => hs

/-- The warning about a piece, if it deserves one. -/
def Pair.warning? : Pair → Option Log.Entry
  | .invalid text => some
    { level := .warn, source := .http,
      message := "Ignoring invalid header '" ++ String.ofList text ++ "'" }
  | .void | .field .. => none

/-- The pieces of a configuration as pairs. -/
def pairs (text : List Char) : List Pair := (Text.pieces (· = ',') text).map Pair.read

/-- The header fields of a configuration, and the warnings about it. -/
def read (text : Option String) : Headers × List Log.Entry :=
  match text with
  | none => ([], [])
  | some s =>
    let ps := pairs s.toList
    (ps.foldl Pair.apply [], ps.filterMap Pair.warning?)

end Headers

end Uptime.Http
