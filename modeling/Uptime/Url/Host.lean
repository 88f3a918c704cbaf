import Uptime.Idna.Name
import Uptime.Url.Basic
import Uptime.Text.Blank
import Uptime.Url.Percent

/-!
# Reading hosts

The host of an address of the web is an address of the second family in brackets, or a name whose
percent signs are resolved and which is brought into ASCII. A name whose last label is a number is
an address of the first family: up to four numbers in decimal, octal or hexadecimal, the last of
which fills the bytes that are left. Other schemes take the text of a host as it is.
-/

namespace Uptime.Url

/-- A number: `0x` begins a hexadecimal one and `0` an octal one. The outer `none` is no number. -/
def ipNumber? (cs : List Char) : Option Nat :=
  let value (base : Nat) (ds : List Char) : Option Nat :=
    if ds.all fun c => (Ip.digitIn? base c).isSome then
      some (ds.foldl (fun n c => n * base + (Ip.digitIn? base c).getD 0) 0)
    else none
  match cs with
  | [] => none
  | '0' :: 'x' :: ds => value 16 ds
  | '0' :: 'X' :: ds => value 16 ds
  | '0' :: d :: ds => value 8 (d :: ds)
  | ds => value 10 ds

/-- The labels of a name; an empty one at the end does not count. -/
def labelsOf (name : List Char) : List (List Char) :=
  let ls := Text.pieces (· = '.') name
  if ls.length > 1 && ls.getLast? = some [] then ls.dropLast else ls

/-- Whether the last label of a name is a number. -/
def endsInNumber (name : List Char) : Bool :=
  match (labelsOf name).getLast? with
  | some l => (!l.isEmpty && l.all Char.isDigit) || (ipNumber? l).isSome
  | none => false

/-- All of a list, or none. -/
def every? : List (Option α) → Option (List α)
  | [] => some []
  | none :: _ => none
  | some a :: rest => (every? rest).map (a :: ·)

/-- The four bytes of a number, the high one first. -/
def octetsOf (n : Nat) : Vector UInt8 4 :=
  #v[UInt8.ofNat (n / 16777216), UInt8.ofNat (n / 65536 % 256), UInt8.ofNat (n / 256 % 256),
    UInt8.ofNat (n % 256)]

/-- The address of the first family that a name is. -/
def ipOfName? (name : List Char) : Option Ip :=
  let ls := labelsOf name
  if 4 < ls.length then none
  else match every? (ls.map ipNumber?) with
    | none => none
    | some numbers =>
      match numbers.getLast? with
      | none => none
      | some last =>
        let rest := numbers.dropLast
        if Nat.pow 2 (8 * (4 - rest.length)) ≤ last || rest.any (255 < ·) then none
        else
          let high := rest.zipIdx.foldl (fun n p => n + p.1 * Nat.pow 2 (8 * (3 - p.2))) 0
          some (.v4 (octetsOf (high + last)))

/-- The address of the second family in brackets. -/
def bracketed? (cs : List Char) : Option Host :=
  match cs.getLast? with
  | some ']' =>
    match Ip.groups? (cs.drop 1).dropLast with
    | some (gs, []) => some (.ip (.v6 gs))
    | _ => none
  | _ => none

/-- The host of an address of the web. -/
def webHost? (cs : List Char) : Option Host :=
  if cs.head? = some '[' then bracketed? cs
  else
    match (Text.Utf8.decode? (percentDecode cs)).bind Idna.toAscii? with
    | none => none
    | some [] => none
    | some name => if endsInNumber name then (ipOfName? name).map .ip else some (.domain name)

/-- The characters that no host may hold. -/
def isForbidden (c : Char) : Bool :=
  c = '\x00' || c = '\t' || c = '\n' || c = '\r' || " #/:<>?@[\\]^|".toList.contains c

/-- The host of an address of another scheme; `some none` is an empty one. -/
def otherHost? (cs : List Char) : Option (Option Host) :=
  if cs.head? = some '[' then (bracketed? cs).map some
  else if cs.any isForbidden then none
  else if cs.isEmpty then some none
  else some (some (.domain (percentText Reserved.control cs)))

end Uptime.Url
