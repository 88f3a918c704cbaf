/-!
# Blank characters, letter case and cutting of text

The text functions that reading a configuration needs: trimming of blanks in the sense of
Unicode's `White_Space`, the ASCII case maps, cutting at a first separator, and occurrence of one
text in another. Everything is a function on `List Char` with a `String` version beside it where
callers hold strings. Main facts: a trimmed end shows no blank (`head?_trimStart`,
`getLast?_trimEnd`), trimming takes nothing but blanks (`trimStart_eq_iff`), and cutting loses
nothing, be it at the first separator (`cut?_eq_some`), at the last (`cutLast?_eq_some`), or at all
of them (`pieces_eq_splitOnP`).
-/

namespace Uptime.Text

/-- White space in the sense of Unicode's `White_Space` property. -/
def isBlank (c : Char) : Bool :=
  let n := c.toNat
  (9 ≤ n && n ≤ 13) || n == 0x20 || n == 0x85 || n == 0xA0 || n == 0x1680 ||
    (0x2000 ≤ n && n ≤ 0x200A) || n == 0x2028 || n == 0x2029 || n == 0x202F || n == 0x205F ||
    n == 0x3000

/-- The text without the blanks it begins with. -/
def trimStart (cs : List Char) : List Char := cs.dropWhile isBlank

/-- The text without the blanks it ends with. -/
def trimEnd (cs : List Char) : List Char := (cs.reverse.dropWhile isBlank).reverse

/-- The text without the blanks at either end. -/
def trim (cs : List Char) : List Char := trimEnd (trimStart cs)

/-- ASCII letters in lower case, every other character as it is. -/
def lower (cs : List Char) : List Char := cs.map Char.toLower

/-- ASCII letters in upper case, every other character as it is. -/
def upper (cs : List Char) : List Char := cs.map Char.toUpper

/-- The parts before and after the first character that satisfies `p`, which is left out. -/
def cut? (p : Char → Bool) : List Char → Option (List Char × List Char)
  | [] => none
  | c :: cs => if p c then some ([], cs) else (cut? p cs).map fun q => (c :: q.1, q.2)

/-- The parts before and after the last character that satisfies `p`, which is left out. -/
def cutLast? (p : Char → Bool) (cs : List Char) : Option (List Char × List Char) :=
  (cut? p cs.reverse).map fun q => (q.2.reverse, q.1.reverse)

/-- The pieces between the characters that satisfy `p`; there is always at least one piece. -/
def pieces (p : Char → Bool) : List Char → List (List Char)
  | [] => [[]]
  | c :: cs =>
    if p c then [] :: pieces p cs
    else match pieces p cs with
      | [] => [[c]]
      | piece :: rest => (c :: piece) :: rest

/-- Whether `needle` occurs in `cs`, at any place. -/
def occursIn (needle : List Char) : List Char → Bool
  | [] => needle.isEmpty
  | c :: cs => needle.isPrefixOf (c :: cs) || occursIn needle cs

/-- What follows `word` at the front of the text, if it stands there. -/
def strip? (word : List Char) (cs : List Char) : Option (List Char) :=
  if word.isPrefixOf cs then some (cs.drop word.length) else none

theorem head?_trimStart {cs : List Char} {c : Char} (h : (trimStart cs).head? = some c) :
    isBlank c = false := by
  have := List.head?_dropWhile_not isBlank cs
  rw [trimStart] at h
  simpa [h] using this

theorem getLast?_trimEnd {cs : List Char} {c : Char} (h : (trimEnd cs).getLast? = some c) :
    isBlank c = false := by
  have := List.head?_dropWhile_not isBlank cs.reverse
  rw [trimEnd, List.getLast?_reverse] at h
  simpa [h] using this

theorem lower_lower (cs : List Char) : lower (lower cs) = lower cs := by
  have twice (c : Char) : c.toLower.toLower = c.toLower := by
    unfold Char.toLower
    grind
  simp [lower, twice]

theorem cut?_eq_some {p : Char → Bool} {cs a b : List Char} (h : cut? p cs = some (a, b)) :
    ∃ c, p c = true ∧ cs = a ++ c :: b ∧ ∀ x ∈ a, p x = false := by
  induction cs generalizing a b with
  | nil => simp [cut?] at h
  | cons c cs ih =>
    rw [cut?] at h
    split at h
    · next hc =>
      obtain ⟨rfl, rfl⟩ := Prod.mk.injEq .. ▸ Option.some.injEq .. ▸ h
      exact ⟨c, hc, rfl, by simp⟩
    · next hc =>
      obtain ⟨q, hq, he⟩ := Option.map_eq_some_iff.1 h
      obtain ⟨rfl, rfl⟩ := Prod.mk.injEq .. ▸ he
      obtain ⟨d, hd, h1, h2⟩ := ih hq
      refine ⟨d, hd, by rw [h1]; rfl, ?_⟩
      intro x hx
      rcases List.mem_cons.1 hx with rfl | hx
      · simpa using hc
      · exact h2 x hx

theorem cut?_eq_none_iff {p : Char → Bool} {cs : List Char} :
    cut? p cs = none ↔ ∀ c ∈ cs, p c = false := by
  induction cs with
  | nil => simp [cut?]
  | cons c cs ih => by_cases h : p c = true <;> simp [cut?, h, ih]

theorem cut?_append {p : Char → Bool} {a b : List Char} {c : Char} (ha : ∀ x ∈ a, p x = false)
    (hc : p c = true) : cut? p (a ++ c :: b) = some (a, b) := by
  induction a with
  | nil => simp [cut?, hc]
  | cons x a ih =>
    have first : p x = false := ha x List.mem_cons_self
    have rest : cut? p (a ++ c :: b) = some (a, b) :=
      ih fun y hy => ha y (List.mem_cons_of_mem x hy)
    simp [cut?, first, rest]

theorem cutLast?_append {p : Char → Bool} {a b : List Char} {c : Char} (hc : p c = true)
    (hb : ∀ x ∈ b, p x = false) : cutLast? p (a ++ c :: b) = some (a, b) := by
  have turned : (a ++ c :: b).reverse = b.reverse ++ c :: a.reverse := by simp
  have behind : ∀ x ∈ b.reverse, p x = false := fun x hx => hb x (List.mem_reverse.1 hx)
  rw [cutLast?, turned, cut?_append behind hc]
  simp

theorem cutLast?_eq_some {p : Char → Bool} {cs a b : List Char} (h : cutLast? p cs = some (a, b)) :
    ∃ c, p c = true ∧ cs = a ++ c :: b ∧ ∀ x ∈ b, p x = false := by
  obtain ⟨q, hq, he⟩ := Option.map_eq_some_iff.1 h
  obtain ⟨rfl, rfl⟩ := Prod.mk.injEq .. ▸ he
  obtain ⟨c, hc, turned, behind⟩ := cut?_eq_some hq
  refine ⟨c, hc, ?_, fun x hx => behind x (List.mem_reverse.1 hx)⟩
  rw [← List.reverse_reverse cs, turned]
  simp

theorem cutLast?_eq_none_iff {p : Char → Bool} {cs : List Char} :
    cutLast? p cs = none ↔ ∀ c ∈ cs, p c = false := by
  rw [cutLast?, Option.map_eq_none_iff, cut?_eq_none_iff]
  simp only [List.mem_reverse]

theorem strip?_eq_some_iff {word cs rest : List Char} :
    strip? word cs = some rest ↔ cs = word ++ rest := by
  rw [strip?]
  constructor
  · intro found
    split at found
    · next front =>
      obtain rfl := Option.some.inj found
      exact List.prefix_iff_eq_append.1 (List.isPrefixOf_iff_prefix.1 front) |>.symm
    · cases found
  · rintro rfl
    rw [if_pos (List.isPrefixOf_iff_prefix.2 (List.prefix_append ..)), List.drop_left]

/-- A text parts in one way into characters that satisfy `p` and a rest that begins with none. -/
theorem span_eq_iff {p : Char → Bool} {cs a b : List Char} :
    (cs.takeWhile p, cs.dropWhile p) = (a, b) ↔
      cs = a ++ b ∧ (∀ c ∈ a, p c = true) ∧ ∀ c, b.head? = some c → p c = false := by
  constructor
  · rintro ⟨⟩
    refine ⟨List.takeWhile_append_dropWhile.symm, List.all_eq_true.1 List.all_takeWhile, ?_⟩
    intro c first
    have stop := List.head?_dropWhile_not p cs
    rw [first] at stop
    simpa using stop
  · rintro ⟨rfl, all, stop⟩
    rw [List.takeWhile_append_of_pos all, List.dropWhile_append_of_pos all]
    cases b with
    | nil => simp
    | cons c b => simp [stop c rfl]

/-- Trimming takes the blanks at the front and nothing else. -/
theorem trimStart_eq_iff {cs rest : List Char} : trimStart cs = rest ↔
    ∃ blanks, cs = blanks ++ rest ∧ (∀ c ∈ blanks, isBlank c = true) ∧
      ∀ c, rest.head? = some c → isBlank c = false := by
  simp only [← span_eq_iff, Prod.mk.injEq, exists_eq_left', trimStart]

theorem pieces_ne_nil (p : Char → Bool) (cs : List Char) : pieces p cs ≠ [] := by
  cases cs with
  | nil => simp [pieces]
  | cons c cs => rw [pieces]; split <;> (try split) <;> simp

theorem pieces_eq_splitOnP (p : Char → Bool) (cs : List Char) : pieces p cs = cs.splitOnP p := by
  induction cs with
  | nil => rfl
  | cons c cs ih =>
    rw [pieces, List.splitOnP_cons_eq_if_modifyHead, ← ih]
    split
    · rfl
    · split
      · next none => exact absurd none (pieces_ne_nil p cs)
      · next some => rw [some]; rfl

end Uptime.Text

/-- The text without the blanks at either end. -/
def String.trimBlanks (s : String) : String := String.ofList (Uptime.Text.trim s.toList)

/-- ASCII letters in lower case, every other character as it is. -/
def String.asciiLower (s : String) : String := String.ofList (Uptime.Text.lower s.toList)

/-- ASCII letters in upper case, every other character as it is. -/
def String.asciiUpper (s : String) : String := String.ofList (Uptime.Text.upper s.toList)

/-- Whether the text holds nothing but blanks. -/
def String.isBlankText (s : String) : Bool := s.toList.all Uptime.Text.isBlank
