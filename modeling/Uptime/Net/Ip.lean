import Uptime.Number.Digits

/-!
# IP addresses

Addresses of the two families, their texts, and the reader of such texts. Numbers of the first
family are decimal without leading zeros; groups of the second have up to four hexadecimal digits,
one run of zero groups may be left out, and the last two groups may be written as an address of the
first family.
-/

namespace Uptime

/-- An IP address. -/
inductive Ip where
  | v4 (octets : Vector UInt8 4)
  | v6 (groups : Vector UInt16 8)
deriving DecidableEq, Repr

namespace Ip

/-- Whether the address is of the second family. -/
def isV6 : Ip → Bool
  | .v4 _ => false
  | .v6 _ => true

/-- The four numbers with points between them. -/
def octetsText (o : Vector UInt8 4) : List Char :=
  ['.'].intercalate (o.toList.map fun n => Number.digits n.toNat)

/-- A group in hexadecimal without leading zeros. -/
def groupText (g : UInt16) : List Char := Nat.toDigits 16 g.toNat

/-- Groups with colons between them. -/
def groupsText (gs : List UInt16) : List Char := [':'].intercalate (gs.map groupText)

/-- The length of the run of zeros that a list begins with. -/
def zeroRun (gs : List UInt16) : Nat := (gs.takeWhile (· == 0)).length

/-- The beginning and the length of the first of the longest runs of zeros; `start` is the place of
the first group. -/
def longestRun (start : Nat) : List UInt16 → Nat × Nat
  | [] => (start, 0)
  | g :: gs =>
    let here := zeroRun (g :: gs)
    let later := longestRun (start + 1) gs
    if later.2 ≤ here then (start, here) else later

/-- Groups with the first of the longest runs of two or more zeros left out. -/
def compressed (gs : List UInt16) : List Char :=
  let (start, length) := longestRun 0 gs
  if length < 2 then groupsText gs
  else groupsText (gs.take start) ++ [':', ':'] ++ groupsText (gs.drop (start + length))

/-- The text of an address of the second family; one that stands for an address of the first family
ends in that. -/
def groupsDisplay (gs : Vector UInt16 8) : List Char :=
  match gs.toList with
  | [0, 0, 0, 0, 0, 0xffff, a, b] =>
    let octets : Vector UInt8 4 := #v[(a >>> 8).toUInt8, a.toUInt8, (b >>> 8).toUInt8, b.toUInt8]
    [':', ':', 'f', 'f', 'f', 'f', ':'] ++ octetsText octets
  | groups => compressed groups

/-- The text of an address. -/
def text : Ip → String
  | .v4 o => String.ofList (octetsText o)
  | .v6 gs => String.ofList (groupsDisplay gs)

/-! ## Reading -/

/-- The value of a digit in the base given. -/
def digitIn? (base : Nat) (c : Char) : Option Nat :=
  let n := c.toNat
  let v :=
    if 48 ≤ n && n ≤ 57 then n - 48
    else if 97 ≤ n && n ≤ 122 then n - 87
    else if 65 ≤ n && n ≤ 90 then n - 55
    else base
  if v < base then some v else none

/-- A number at the front: all digits there are, at least one and at most `most`, with a value up to
`limit`, and without a leading zero unless that is allowed. -/
def number? (base most limit : Nat) (leadingZero : Bool) (cs : List Char) :
    Option (Nat × List Char) :=
  let ds := cs.takeWhile fun c => (digitIn? base c).isSome
  let value := ds.foldl (fun n c => n * base + (digitIn? base c).getD 0) 0
  if ds.isEmpty || most < ds.length || limit < value then none
  else if !leadingZero && ds.head? = some '0' && 1 < ds.length then none
  else some (value, cs.drop ds.length)

/-- The character at the front. -/
def mark? (c : Char) : List Char → Option (List Char)
  | d :: cs => if d = c then some cs else none
  | [] => none

/-- A number from 0 to 255. -/
def octet? (cs : List Char) : Option (UInt8 × List Char) :=
  (number? 10 3 255 false cs).map fun q => (UInt8.ofNat q.1, q.2)

/-- Four numbers with points between them, at the front. -/
def octets? (cs : List Char) : Option (Vector UInt8 4 × List Char) := do
  let (a, cs) ← octet? cs
  let (b, cs) ← mark? '.' cs >>= octet?
  let (c, cs) ← mark? '.' cs >>= octet?
  let (d, cs) ← mark? '.' cs >>= octet?
  return (#v[a, b, c, d], cs)

/-- The two groups that four numbers make. -/
def groupsOf (o : Vector UInt8 4) : List UInt16 :=
  let pair (a b : UInt8) : UInt16 := UInt16.ofNat (a.toNat * 256 + b.toNat)
  [pair o[0] o[1], pair o[2] o[3]]

/-- Groups with colons between them at the front, at most `room`; whether they end in an address of
the first family; and the rest. -/
def groups (room : Nat) (first : Bool) (cs : List Char) : List UInt16 × Bool × List Char :=
  match room with
  | 0 => ([], false, cs)
  | room + 1 =>
    match if first then some cs else mark? ':' cs with
    | none => ([], false, cs)
    | some body =>
      match if 1 ≤ room then octets? body else none with
      | some (o, rest) => (groupsOf o, true, rest)
      | none =>
        match number? 16 4 0xffff true body with
        | none => ([], false, cs)
        | some (g, rest) =>
          let (gs, mapped, rest) := groups room false rest
          (UInt16.ofNat g :: gs, mapped, rest)

/-- The eight groups of a list; too few are filled up and too many cut. -/
def eight (gs : List UInt16) : Vector UInt16 8 := Vector.ofFn fun i => (gs[i.val]?).getD 0

/-- Eight groups, or fewer with two colons in place of those left out, at the front. -/
def groups? (cs : List Char) : Option (Vector UInt16 8 × List Char) :=
  let (head, mapped, rest) := groups 8 true cs
  if head.length = 8 then some (eight head, rest)
  else if mapped then none
  else do
    let rest ← mark? ':' rest >>= mark? ':'
    let (tail, _, rest) := groups (7 - head.length) true rest
    return (eight (head ++ List.replicate (8 - head.length - tail.length) 0 ++ tail), rest)

/-- Reads a whole text as an address. -/
def read? (cs : List Char) : Option Ip :=
  match octets? cs with
  | some (o, rest) => if rest.isEmpty then some (.v4 o) else none
  | none =>
    match groups? cs with
    | some (gs, []) => some (.v6 gs)
    | _ => none

/-- The address of the machine itself. -/
def loopback : Ip := .v4 #v[127, 0, 0, 1]

end Ip

/-- An address and a port. -/
structure Endpoint where
  ip : Ip
  port : UInt16
deriving DecidableEq, Repr

namespace Endpoint

/-- A port after a colon, as the rest of the text. -/
def port? (cs : List Char) : Option UInt16 := do
  let (n, rest) ← Ip.mark? ':' cs >>= Ip.number? 10 cs.length 65535 true
  if rest.isEmpty then some (UInt16.ofNat n) else none

/-- A zone after a percent sign, at the front; there need not be one. -/
def skipZone (cs : List Char) : List Char :=
  match Ip.mark? '%' cs >>= Ip.number? 10 cs.length 4294967295 true with
  | some (_, rest) => rest
  | none => cs

/-- Reads a whole text as an address and a port; an address of the second family stands in
brackets. -/
def read? (cs : List Char) : Option Endpoint :=
  match Ip.octets? cs with
  | some (o, rest) => (port? rest).map (⟨.v4 o, ·⟩)
  | none => do
    let (gs, rest) ← Ip.mark? '[' cs >>= Ip.groups?
    let port ← Ip.mark? ']' (skipZone rest) >>= port?
    return ⟨.v6 gs, port⟩

end Endpoint

end Uptime
