import Uptime.Idna.Punycode
import Uptime.Idna.Table
import Uptime.Unicode.Category
import Uptime.Unicode.Direction
import Uptime.Unicode.Joining
import Uptime.Unicode.Normal

/-!
# Host names in ASCII

A host name in any script is brought into one form (letters in lower case, composed, without the
code points that carry no meaning) and each label with other characters than ASCII is written as
`xn--` and Punycode. A name is refused if it holds a forbidden code point, a label that decodes to
something that is not in this form, a misplaced joiner, or a mixture of writing directions.
-/

namespace Uptime.Idna

open Unicode (Ranges Range)

/-- The tables, read once for a name. -/
structure Tables where
  replacements : List (Nat × List Nat)
  ignored : Ranges
  forbidden : Ranges

/-- The tables as they stand. -/
def tables : Tables :=
  ⟨Unicode.readMap replacementTable, Unicode.readRanges ignoredTable,
   Unicode.readRanges forbiddenTable⟩

/-- What becomes of a code point. -/
inductive Fate where
  | kept
  | replaced (image : List Nat)
  | leftOut
  | refused

/-- What becomes of a code point. -/
def Tables.fate (t : Tables) (c : Nat) : Fate :=
  match t.replacements.find? fun p => p.1 == c with
  | some (_, image) => .replaced image
  | none => if t.ignored.has c then .leftOut else if t.forbidden.has c then .refused else .kept

/-- The text after the replacement of its code points. -/
def Tables.replace (t : Tables) : List Nat → Option (List Nat)
  | [] => some []
  | c :: cs =>
    match t.fate c with
    | .kept => (t.replace cs).map (c :: ·)
    | .replaced image => (t.replace cs).map (image ++ ·)
    | .leftOut => t.replace cs
    | .refused => none

/-- The pieces between points. -/
def labels : List Nat → List (List Nat)
  | [] => [[]]
  | c :: cs =>
    let rest := labels cs
    if c = 46 then [] :: rest
    else match rest with
      | l :: ls => (c :: l) :: ls
      | [] => [[c]]

/-! ## Joiners -/

/-- The two joiners, which must stand after a sign that suppresses a vowel. The first may also stand
between letters that join over it. -/
def joiners : Nat × Nat := (0x200c, 0x200d)

/-- The class of signs that suppress a vowel. -/
def viramaClass : Nat := 9

/-- The joining type of the first code point that is not transparent. -/
def firstJoining (cs : List Nat) : String :=
  ((cs.map Unicode.joining).find? (· != "T")).getD "U"

/-- Whether the joiner between these two parts of a label may stand there; `before` is reversed. -/
def joinerAllowed (j : Unicode.Joins) (joiner : Nat) (before after : List Nat) : Bool :=
  let afterVirama := match before with
    | c :: _ => j.classOf c == viramaClass
    | [] => false
  afterVirama ||
    (joiner == joiners.1 && ["L", "D"].contains (firstJoining before) &&
      ["R", "D"].contains (firstJoining after))

/-- Whether all joiners of a label may stand where they stand. -/
def joinersAllowed (j : Unicode.Joins) (before : List Nat) : List Nat → Bool
  | [] => true
  | c :: cs =>
    (if c = joiners.1 || c = joiners.2 then joinerAllowed j c before cs else true) &&
      joinersAllowed j (c :: before) cs

/-! ## Directions -/

/-- Whether a code point is written from right to left, or is a number of such a script. -/
def isLeftward (c : Nat) : Bool := ["R", "AL", "AN"].contains (Unicode.direction c)

/-- Whether a label keeps to one direction. -/
def keepsDirection (l : List Nat) : Bool :=
  let ds := l.map Unicode.direction
  let last := (ds.reverse.find? (· != "NSM")).getD ""
  let neutral := ["EN", "ES", "CS", "ET", "ON", "BN", "NSM"]
  match ds with
  | [] => true
  | "L" :: _ => ds.all (fun d => d == "L" || neutral.contains d) && (last == "L" || last == "EN")
  | d :: _ =>
    (d == "R" || d == "AL") &&
      ds.all (fun d => ["R", "AL", "AN"].contains d || neutral.contains d) &&
      ["R", "AL", "EN", "AN"].contains last && !(ds.contains "EN" && ds.contains "AN")

/-! ## Labels -/

/-- The mark of an encoded label. -/
def encodedMark : List Nat := "xn--".toList.map Char.toNat

/-- Whether a label is in the form that names are brought into. -/
def Tables.isProper (t : Tables) (l : List Nat) : Bool :=
  Unicode.composed l == l && !encodedMark.isPrefixOf l &&
    l.all (fun c => match t.fate c with
      | .kept => c != 46
      | _ => false) &&
    (match l with
      | c :: _ => !Unicode.isMark c
      | [] => true) &&
    joinersAllowed Unicode.joins [] l

/-- A label as it is read and as it is written. -/
structure Label where
  readable : List Nat
  written : List Nat

/-- The label that a piece of a name is. -/
def Tables.label? (t : Tables) (l : List Nat) : Option Label :=
  if encodedMark.isPrefixOf l then
    if l.all (· < 128) then
      match Punycode.decode? ((l.drop 4).map Char.ofNat) with
      | some r => if r.any (128 ≤ ·) && t.isProper r then some ⟨r, l⟩ else none
      | none => none
    else none
  else if l.all (· < 128) then some ⟨l, l⟩
  else if t.isProper l then some ⟨l, encodedMark ++ (Punycode.encode l).map Char.toNat⟩
  else none

/-- The ASCII characters that no host name may hold. -/
def isForbiddenAscii (c : Nat) : Bool :=
  c ≤ 32 || c = 127 || ("%#/:<>?@[\\]^|".toList.map Char.toNat).contains c

/-- The labels of a name, if all are allowed. -/
def Tables.labels? (t : Tables) : List (List Nat) → Option (List Label)
  | [] => some []
  | l :: ls =>
    match t.label? l, t.labels? ls with
    | some a, some rest => some (a :: rest)
    | _, _ => none

/-- The name of a host in ASCII, if it is a name. -/
def toAscii? (name : List Char) : Option (List Char) :=
  let t := tables
  match t.replace (name.map Char.toNat) with
  | none => none
  | some cs =>
    let ls := labels (if cs.all (· < 128) then cs else Unicode.composed cs)
    match t.labels? ls with
    | none => none
    | some ls =>
      let directed := !ls.any (fun l => l.readable.any isLeftward) ||
        ls.all fun l => keepsDirection l.readable
      let written := [46].intercalate (ls.map (·.written))
      if directed && !written.any isForbiddenAscii then some (written.map Char.ofNat) else none

end Uptime.Idna
