import Uptime.Regex.Flags
import Uptime.Text.Blank

/-!
# Escapes

What a backslash and the characters after it stand for. Where blanks and remarks do not count, they
may stand inside an escape as well.
-/

namespace Uptime.Regex

open Unicode

/-- The text after blanks and remarks; a remark goes from `#` to the end of the line. -/
def afterRemarks : Bool → List Char → List Char
  | _, [] => []
  | true, c :: cs => afterRemarks (c != '\n') cs
  | false, c :: cs =>
    if Text.isBlank c then afterRemarks false cs
    else if c = '#' then afterRemarks true cs
    else c :: cs

theorem length_afterRemarks_le (b : Bool) (cs : List Char) :
    (afterRemarks b cs).length ≤ cs.length := by
  fun_induction afterRemarks b cs <;> simp_all <;> omega

/-- The text from what counts next on. -/
def Flags.skip (f : Flags) (cs : List Char) : List Char :=
  if f.spaced then afterRemarks false cs else cs

theorem Flags.length_skip_le (f : Flags) (cs : List Char) : (f.skip cs).length ≤ cs.length := by
  unfold Flags.skip
  split
  · exact length_afterRemarks_le false cs
  · exact Nat.le_refl _

/-- What a place of an expression that is no operator stands for. -/
inductive Atom where
  /-- A character, and whether it was written as a byte. -/
  | char (c : Char) (byte : Bool)
  | set (rs : Ranges)
  | look (condition : Look)

namespace Atom

/-- The code point of a hexadecimal digit's value. -/
def hexValue? (c : Char) : Option Nat :=
  if '0' ≤ c ∧ c ≤ '9' then some (c.toNat - 48)
  else if 'a' ≤ c ∧ c ≤ 'f' then some (c.toNat - 87)
  else if 'A' ≤ c ∧ c ≤ 'F' then some (c.toNat - 55)
  else none

/-- The character with a code point. -/
def charOf? (n : Nat) : Option Char :=
  if h : n.isValidChar then some (Char.ofNatAux n h) else none

/-- Reads so many hexadecimal digits. -/
def hexDigits? (f : Flags) (value : Nat) : Nat → List Char → Option (Nat × List Char)
  | 0, cs => some (value, cs)
  | n + 1, c :: cs => (hexValue? c).bind fun d => hexDigits? f (value * 16 + d) n (f.skip cs)
  | _ + 1, [] => none

/-- Reads hexadecimal digits up to a closing brace. There must be one digit at least. -/
def bracedHex? (f : Flags) (value : Option Nat) (cs : List Char) : Option (Nat × List Char) :=
  match _h : f.skip cs with
  | [] => none
  | c :: rest =>
    if c = '\x7d' then value.map fun n => (n, f.skip rest)
    else match hexValue? c with
      | some d => bracedHex? f (some (value.getD 0 * 16 + d)) rest
      | none => none
termination_by cs.length
decreasing_by
  have := f.length_skip_le cs
  rw [_h] at this
  simp at this
  omega

/-- A character by its code point: `width` digits, or any number of them in braces. -/
def hex? (f : Flags) (width : Nat) (cs : List Char) : Option (Atom × List Char) :=
  match f.skip cs with
  | '\x7b' :: rest =>
    (bracedHex? f none rest).bind fun (n, rest) => (charOf? n).map fun c => (.char c false, rest)
  | rest =>
    (hexDigits? f 0 width rest).bind fun (n, rest) =>
      (charOf? n).map fun c => (.char c (width == 2), rest)

/-- The characters up to a closing brace, and the text after it. -/
def braced? (f : Flags) (cs : List Char) : Option (List Char × List Char) :=
  match _h : f.skip cs with
  | [] => none
  | c :: rest =>
    if c = '\x7d' then some ([], rest)
    else (braced? f rest).map fun p => (c :: p.1, p.2)
termination_by cs.length
decreasing_by
  have := f.length_skip_le cs
  rw [_h] at this
  simp at this
  omega

/-- The parts before and after the first `!=`. -/
def cutUnequal? : List Char → Option (List Char × List Char)
  | [] => none
  | c :: cs =>
    match c, cs with
    | '!', '=' :: rest => some ([], rest)
    | _, _ => (cutUnequal? cs).map fun p => (c :: p.1, p.2)

/-- The code points that a name in braces stands for: the name alone, or a property and its value
with a colon or an equals sign between them, or with `!=` for all other code points. -/
def propertySet? (f : Flags) (negated : Bool) (name : List Char) : Option Ranges :=
  match cutUnequal? name with
  | some (property, value) => (valued? property value).bind (f.finished? !negated)
  | none =>
    match Text.cut? (· = ':') name <|> Text.cut? (· = '=') name with
    | some (property, value) => (valued? property value).bind (f.finished? negated)
    | none => (named? name).bind (f.finished? negated)

/-- A set by a property: a letter, or a name in braces. -/
def property? (f : Flags) (negated : Bool) (cs : List Char) : Option (Atom × List Char) :=
  if !f.unicode then none
  else match f.skip cs with
    | [] | '\\' :: _ => none
    | '\x7b' :: rest =>
      (braced? f rest).bind fun (name, rest) =>
        (propertySet? f negated name).map fun rs => (.set rs, rest)
    | c :: rest => (propertySet? f negated [c]).map fun rs => (.set rs, f.skip rest)

/-- The characters with a meaning, which lose it after a backslash. -/
def isMeta (c : Char) : Bool := "\\.+*?()|[]\x7b\x7d^$#&-~".toList.contains c

/-- Whether a character may stand after a backslash just for itself. -/
def isEscapable (c : Char) : Bool :=
  isMeta c || (c.toNat < 128 && !c.isAlphanum && c != '<' && c != '>')

/-- Whether a word begins between two characters. -/
def begins (before after : Bool) : Bool := !before && after

/-- Whether a word ends between two characters. -/
def ends (before after : Bool) : Bool := before && !after

/-- The characters of the name of a kind of word bound. -/
def isBoundChar (c : Char) : Bool := c.isAlpha || c = '-'

/-- Reads the characters of the name of a kind of word bound. -/
def boundName (f : Flags) (cs : List Char) : List Char × List Char :=
  match cs with
  | [] => ([], [])
  | c :: rest =>
    if isBoundChar c then
      let (name, rest) := boundName f (f.skip rest)
      (c :: name, rest)
    else ([], c :: rest)
termination_by cs.length
decreasing_by
  have := f.length_skip_le rest
  simp
  omega

/-- A word bound, of which the kind may be named in braces. Braces that do not begin with a letter
or a minus sign are left to be read as a repetition. -/
def bound? (f : Flags) (cs : List Char) : Option (Atom × List Char) :=
  let of (test : Bool → Bool → Bool) : Atom := .look (.word f.unicode test)
  let plain : Atom := of (· != ·)
  match cs with
  | '\x7b' :: rest =>
    let rest := f.skip rest
    match rest with
    | [] => none
    | c :: _ =>
      if !isBoundChar c then some (plain, cs)
      else match boundName f rest with
        | (name, '\x7d' :: rest) =>
          match String.ofList name with
          | "start" => some (of begins, rest)
          | "end" => some (of ends, rest)
          | "start-half" => some (of fun before _ => !before, rest)
          | "end-half" => some (of fun _ after => !after, rest)
          | _ => none
        | _ => none
  | _ => some (plain, cs)

/-- What the characters after a backslash stand for, and the text after them. -/
def escaped? (f : Flags) : List Char → Option (Atom × List Char)
  | [] => none
  | c :: cs =>
    let char (n : Nat) : Option (Atom × List Char) := some (.char (Char.ofNat n) false, cs)
    let shorthand (letter : Char) (negated : Bool) : Option (Atom × List Char) :=
      (f.shorthand? letter negated).map fun rs => (.set rs, cs)
    match c with
    | 'x' => hex? f 2 cs
    | 'u' => hex? f 4 cs
    | 'U' => hex? f 8 cs
    | 'p' => property? f false cs
    | 'P' => property? f true cs
    | 'd' => shorthand 'd' false
    | 's' => shorthand 's' false
    | 'w' => shorthand 'w' false
    | 'D' => shorthand 'd' true
    | 'S' => shorthand 's' true
    | 'W' => shorthand 'w' true
    | 'a' => char 7
    | 'f' => char 12
    | 't' => char 9
    | 'n' => char 10
    | 'r' => char 13
    | 'v' => char 11
    | 'A' => some (.look .textStart, cs)
    | 'z' => some (.look .textEnd, cs)
    | 'b' => bound? f cs
    | 'B' => some (.look (.word f.unicode (· == ·)), cs)
    | '<' => some (.look (.word f.unicode begins), cs)
    | '>' => some (.look (.word f.unicode ends), cs)
    | _ => if isEscapable c then some (.char c false, cs) else none

/-- The set of one character. A byte beyond ASCII is no character without the flag `u`; neither has
a set of bytes room for any other character. -/
def member? (f : Flags) (c : Char) (byte : Bool) (inSet : Bool) : Option Range :=
  if !f.unicode && 128 ≤ c.toNat && (byte || inSet) then none else some ⟨c.toNat, c.toNat⟩

/-- The expression that an atom is by itself. -/
def expr? (f : Flags) : Atom → Option Expr
  | .char c byte => (member? f c byte false).map fun r => .one (f.fold [r])
  | .set rs => some (.one rs)
  | .look condition => some (.look condition)

end Atom

end Uptime.Regex
