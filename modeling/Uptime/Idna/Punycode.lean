/-!
# Punycode

A label of a host name in letters, digits and hyphens that stands for any code points. The ASCII
characters come first and are followed by a hyphen; the rest says where the others go, in numbers of
variable length whose digits are weighted by an adapting bias.
-/

namespace Uptime.Idna.Punycode

/-- The bias after a number was read or written. -/
def bias (delta points : Nat) (first : Bool) : Nat :=
  let delta := if first then delta / 700 else delta / 2
  go 10 (delta + delta / points) 0
where
  go : Nat → Nat → Nat → Nat
    | 0, d, k => k + 36 * d / (d + 38)
    | fuel + 1, d, k => if 455 < d then go fuel (d / 35) (k + 36) else k + 36 * d / (d + 38)

/-- The threshold of the digit at place `k`. -/
def threshold (k bias : Nat) : Nat := if k ≤ bias then 1 else if bias + 26 ≤ k then 26 else k - bias

/-- The value of a digit. -/
def digit? (c : Char) : Option Nat :=
  let n := c.toNat
  if 97 ≤ n && n ≤ 122 then some (n - 97)
  else if 48 ≤ n && n ≤ 57 then some (n - 22)
  else if 65 ≤ n && n ≤ 90 then some (n - 65)
  else none

/-- The digit with a value. -/
def digit (d : Nat) : Char := Char.ofNat (if d < 26 then 97 + d else 22 + d)

/-- A number at the front: its value and the rest. -/
def number? (bias : Nat) : Nat → Nat → Nat → List Char → Option (Nat × List Char)
  | _, _, _, [] => none
  | k, weight, sum, c :: cs =>
    match digit? c with
    | none => none
    | some d =>
      let sum := sum + d * weight
      let t := threshold k bias
      if 4294967296 ≤ sum then none
      else if d < t then some (sum, cs)
      else number? bias (k + 36) (weight * (36 - t)) sum cs

theorem length_of_number? {b k w s n : Nat} {cs rest : List Char}
    (h : number? b k w s cs = some (n, rest)) : rest.length < cs.length := by
  fun_induction number? b k w s cs with
  | case1 => simp at h
  | case2 => simp at h
  | case3 => simp at h
  | case4 => simp_all
  | case5 _ _ _ _ _ _ _ _ _ _ _ ih => have := ih h; simp; omega

/-- A code point that a text can hold. -/
def isScalar (c : Nat) : Bool := c < 0xd800 || (0xdfff < c && c ≤ 0x10ffff)

/-- Puts in the code points that the numbers say. `point` is the least code point that the next one
can be, and `place` the least place for it. -/
def insertAll (point place b : Nat) (first : Bool) (out : List Nat) (cs : List Char) :
    Option (List Nat) :=
  match cs with
  | [] => some out
  | c :: rest =>
    match _h : number? b 36 1 0 (c :: rest) with
    | none => none
    | some (delta, more) =>
      let spot := place + delta
      let length := out.length + 1
      let point := point + spot / length
      let spot := spot % length
      if isScalar point then
        insertAll point (spot + 1) (bias delta length first) false
          (out.take spot ++ point :: out.drop spot) more
      else none
termination_by cs.length
decreasing_by exact length_of_number? _h

/-- The parts before and after the last hyphen; without one there is nothing before. -/
def parts (cs : List Char) : List Char × List Char :=
  let tail := (cs.reverse.takeWhile (· != '-')).reverse
  (cs.take (cs.length - tail.length - 1), tail)

/-- The code points that a label without its mark stands for. -/
def decode? (cs : List Char) : Option (List Nat) :=
  let (ascii, numbers) := parts cs
  if ascii.all fun c => c.toNat < 128 then
    insertAll 128 0 72 true (ascii.map Char.toNat) numbers
  else none

/-- The digits of a number. -/
def digits (b : Nat) : Nat → Nat → Nat → List Char
  | 0, _, q => [digit q]
  | fuel + 1, k, q =>
    let t := threshold k b
    if q < t then [digit q]
    else digit (t + (q - t) % (36 - t)) :: digits b fuel (k + 36) ((q - t) / (36 - t))

/-- How far the writing has come: the number to be written next, the bias, whether nothing was
written yet, and how many code points were. -/
abbrev Progress := Nat × Nat × Bool × Nat

/-- Writes the code points of a text that are `point`, in the order of their places. -/
def writePoint (point : Nat) : List Nat → Progress → List Char × Progress
  | [], state => ([], state)
  | c :: cs, (delta, b, first, written) =>
    if c < point then writePoint point cs (delta + 1, b, first, written)
    else if c = point then
      let ds := digits b 20 36 delta
      let (rest, state) := writePoint point cs
        (0, bias delta (written + 1) first, false, written + 1)
      (ds ++ rest, state)
    else writePoint point cs (delta, b, first, written)

/-- Writes the code points from `points` in turn. -/
def writeAll (text : List Nat) (last : Nat) : List Nat → Progress → List Char
  | [], _ => []
  | p :: ps, (delta, b, first, written) =>
    let delta := delta + (p - last) * (written + 1)
    let (ds, (delta, b, first, written)) := writePoint p text (delta, b, first, written)
    ds ++ writeAll text (p + 1) ps (delta + 1, b, first, written)

/-- The code points from 128 on that a text holds, in ascending order and each once. -/
def others (text : List Nat) : List Nat :=
  ((text.filter (128 ≤ ·)).mergeSort (· ≤ ·)).eraseDups

/-- The label for some code points, without its mark. -/
def encode (text : List Nat) : List Char :=
  let ascii := (text.filter (· < 128)).map Char.ofNat
  let start := if ascii.isEmpty then [] else ascii ++ ['-']
  start ++ writeAll text 128 (others text) (0, 72, true, ascii.length)

end Uptime.Idna.Punycode
