import Uptime.Unicode.Ranges

/-!
# Maps from code points

A table of a map is a text of words: how far the code point is from the one before, how many follow
alike, and what they are mapped to. After `*` consecutive code points have consecutive images, after
`/` every other one has, and after `=` all have the same image. An image of several code points has
a `+` between them.
-/

namespace Uptime.Unicode

/-- The part of a word up to a mark, and the part after it. -/
def splitAt (mark : Char) (cs : List Char) : List Char × List Char :=
  (cs.takeWhile (· != mark), (cs.dropWhile (· != mark)).drop 1)

/-- The numbers between plus signs. -/
def sumParts : List Char → List (List Char)
  | [] => [[]]
  | c :: cs =>
    let rest := sumParts cs
    if c = '+' then [] :: rest
    else match rest with
      | w :: ws => (c :: w) :: ws
      | [] => [[c]]

/-- How far apart the code points of a word are, and their images. -/
def strides : Char → Nat × Nat
  | '*' => (1, 1)
  | '/' => (2, 2)
  | _ => (1, 0)

/-- Consecutive entries: the code points and their images grow by these steps. -/
def pairsFrom (step imageStep : Nat) (image : List Nat) (c : Nat) : Nat → List (Nat × List Nat)
  | 0 => []
  | n + 1 =>
    (c, image) :: pairsFrom step imageStep (image.map (· + imageStep)) (c + step) n

/-- The entries of one word, and the code point that the next one counts from. -/
def wordPairs (start : Nat) (w : List Char) : List (Nat × List Nat) × Nat :=
  let (source, target) := splitAt '>' w
  let image := (sumParts target).map hexNumber
  let isMark (c : Char) : Bool := c = '*' || c = '/' || c = '='
  let first := start + hexNumber (source.takeWhile fun c => !isMark c)
  match source.dropWhile fun c => !isMark c with
  | mark :: count =>
    let (step, imageStep) := strides mark
    (pairsFrom step imageStep image first (hexNumber count), first)
  | [] => ([(first, image)], first)

/-- The entries of all words from a code point on. -/
def mapFrom (start : Nat) : List (List Char) → List (Nat × List Nat)
  | [] => []
  | w :: ws =>
    let (es, next) := wordPairs start w
    es ++ mapFrom next ws

/-- The entries of a table. -/
def readMap (lines : List String) : List (Nat × List Nat) := mapFrom 0 (tableWords lines)

end Uptime.Unicode
