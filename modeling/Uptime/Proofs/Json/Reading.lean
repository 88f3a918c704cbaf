import Mathlib.Data.List.DropRight
import Uptime.Proofs.Json.Numbers
import Uptime.Proofs.Json.Strings

/-!
# Reading JSON

The reader takes every text of the grammar, however deeply it is nested and whatever blanks stand in
it (`read?_of_spells`).
-/

namespace Uptime.Json

attribute [local simp] value? items? members?

variable {fuel : Nat} {cs rest : List Char}

/-! ## Blanks -/

theorem skipSpace_append {a : List Char} (ha : Blank a) (cs : List Char) :
    skipSpace (a ++ cs) = skipSpace cs :=
  List.dropWhile_append_of_pos ha

theorem skipSpace_cons {c : Char} (h : isSpace c = false) (cs : List Char) :
    skipSpace (c :: cs) = c :: cs := by
  rw [skipSpace, List.dropWhile_cons_of_neg (by simp [h])]

theorem skipSpace_skipSpace (cs : List Char) : skipSpace (skipSpace cs) = skipSpace cs :=
  List.dropWhile_idempotent ..

/-- Blanks in front make no difference. -/
theorem value?_congr {cs ds : List Char} (h : skipSpace cs = skipSpace ds) :
    value? fuel cs = value? fuel ds := by
  cases fuel with
  | zero => rfl
  | succ fuel => rw [value?, value?, h]

theorem items?_congr {cs ds : List Char} (h : skipSpace cs = skipSpace ds) :
    items? fuel cs = items? fuel ds := by
  cases fuel with
  | zero => rfl
  | succ fuel => rw [items?, items?, value?_congr h]

theorem members?_congr {cs ds : List Char} (h : skipSpace cs = skipSpace ds) :
    members? fuel cs = members? fuel ds := by
  cases fuel with
  | zero => rfl
  | succ fuel => rw [members?, members?, h]

/-! ## Values without parts -/

theorem value?_null (fuel : Nat) (rest : List Char) :
    value? (fuel + 1) ("null".toList ++ rest) = some (.null, rest) := by
  simp [skipSpace, isSpace, word?]

theorem value?_true (fuel : Nat) (rest : List Char) :
    value? (fuel + 1) ("true".toList ++ rest) = some (.bool true, rest) := by
  simp [skipSpace, isSpace, word?]

theorem value?_false (fuel : Nat) (rest : List Char) :
    value? (fuel + 1) ("false".toList ++ rest) = some (.bool false, rest) := by
  simp [skipSpace, isSpace, word?]

theorem value?_number {c : Char} (h : c = '-' ∨ c.isDigit = true) (cs : List Char) :
    value? (fuel + 1) (c :: cs) = number? (c :: cs) := by
  have other : ∀ d, d.isDigit = false → d ≠ '-' → c ≠ d := by
    rintro d digit minus rfl
    rcases h with rfl | h
    · exact minus rfl
    · simp [digit] at h
  have blank : isSpace c = false := by
    simp [isSpace, other]
  have quote := other '"' rfl (by decide)
  have bracket := other '[' rfl (by decide)
  have brace := other '{' rfl (by decide)
  have n := other 'n' rfl (by decide)
  have t := other 't' rfl (by decide)
  have f := other 'f' rfl (by decide)
  have word : ∀ (d : Char) (w : List Char), c ≠ d → word? (d :: w) (c :: cs) = none := by
    intro d w ne
    simp [word?, ne.symm]
  rw [value?, skipSpace_cons blank]
  split <;> simp_all

theorem value?_text (fuel : Nat) (n : Numeral) (h : Ends rest) :
    value? (fuel + 1) (n.text ++ rest) = some (n.value, rest) := by
  have first : ∃ c cs, n.text ++ rest = c :: cs ∧ (c = '-' ∨ c.isDigit = true) := by
    obtain ⟨c, cs, eq, digit⟩ := n.whole.exists_cons
    rw [Numeral.text, eq]
    cases n.negative with
    | true => exact ⟨'-', _, rfl, .inl rfl⟩
    | false => exact ⟨c, _, rfl, .inr digit⟩
  obtain ⟨c, cs, eq, sort⟩ := first
  rw [eq, value?_number sort, ← eq, number?_text n h]

theorem value?_string (fuel : Nat) {s : Option String} {cs : List Char} (h : Quoted s cs)
    (rest : List Char) : value? (fuel + 1) (cs ++ rest) = some (.string s, rest) := by
  obtain ⟨spelling, encode⟩ := h
  simp [skipSpace, isSpace, string?_of_spelling spelling encode]

/-! ## Arrays and objects -/

/-- No value begins with a closing bracket. -/
theorem items?_close (fuel : Nat) (rest : List Char) : items? fuel (']' :: rest) = none := by
  have none : ∀ fuel, value? fuel (']' :: rest) = none := by
    rintro (_ | fuel)
    · rfl
    · simp [skipSpace, isSpace, word?, number?, minus, Number.spanDigits]
  cases fuel with
  | zero => rfl
  | succ fuel => simp [items?, none]

/-- No member begins with a closing brace. -/
theorem members?_close (fuel : Nat) (rest : List Char) : members? fuel ('}' :: rest) = none := by
  cases fuel with
  | zero => rfl
  | succ fuel => simp [skipSpace, isSpace]

theorem value?_array {vs : List Json} (h : items? fuel cs = some (vs, rest)) :
    value? (fuel + 1) ('[' :: cs) = some (.array vs, rest) := by
  rw [value?, skipSpace_cons rfl]
  simp only
  rw [items?_congr (skipSpace_skipSpace cs).symm] at h
  split
  · next close => rw [close, items?_close] at h; cases h
  · rw [h]; rfl

theorem value?_object {ms : List (Option String × Json)} (h : members? fuel cs = some (ms, rest)) :
    value? (fuel + 1) ('{' :: cs) = some (.object ms, rest) := by
  rw [value?, skipSpace_cons rfl]
  simp only
  rw [members?_congr (skipSpace_skipSpace cs).symm] at h
  split
  · next close => rw [close, members?_close] at h; cases h
  · rw [h]; rfl

theorem value?_noItems (fuel : Nat) {b : List Char} (hb : Blank b) (rest : List Char) :
    value? (fuel + 1) ('[' :: (b ++ ']' :: rest)) = some (.array [], rest) := by
  simp [skipSpace_cons, skipSpace_append hb, isSpace]

theorem value?_noMembers (fuel : Nat) {b : List Char} (hb : Blank b) (rest : List Char) :
    value? (fuel + 1) ('{' :: (b ++ '}' :: rest)) = some (.object [], rest) := by
  simp [skipSpace_cons, skipSpace_append hb, isSpace]

theorem ends_append {b : List Char} (hb : Blank b) (h : Ends rest) : Ends (b ++ rest) := by
  cases b with
  | nil => exact h
  | cons c b =>
    have blank := hb c List.mem_cons_self
    simp only [isSpace, Bool.or_eq_true, decide_eq_true_eq] at blank
    rcases blank with ((rfl | rfl) | rfl) | rfl <;>
      exact ends_cons rfl (by decide) (by decide) (by decide) _

theorem ends_comma (rest : List Char) : Ends (',' :: rest) :=
  ends_cons rfl (by decide) (by decide) (by decide) rest

theorem ends_bracket (rest : List Char) : Ends (']' :: rest) :=
  ends_cons rfl (by decide) (by decide) (by decide) rest

theorem ends_brace (rest : List Char) : Ends ('}' :: rest) :=
  ends_cons rfl (by decide) (by decide) (by decide) rest

/-! ## Phrases -/

/-- What the reader makes of the text of a phrase, if it may go deep enough and no number goes on
behind the text. -/
def Phrase.Read : Phrase → List Char → Prop
  | .value v, cs => ∀ fuel rest, 2 * cs.length ≤ fuel → Ends rest →
      value? (fuel + 1) (cs ++ rest) = some (v, rest)
  | .padded v, cs => ∀ fuel rest, 2 * cs.length ≤ fuel → Ends rest →
      ∃ left, value? (fuel + 1) (cs ++ rest) = some (v, left) ∧ skipSpace left = skipSpace rest
  | .items vs, cs => ∀ fuel rest, 2 * cs.length < fuel →
      items? (fuel + 1) (cs ++ ']' :: rest) = some (vs, rest)
  | .member m, cs => ∀ fuel rest, 2 * cs.length ≤ fuel → Ends rest →
      ∃ key colon value left, skipSpace (cs ++ rest) = '"' :: key ∧
        string? key = some (m.1, colon) ∧ skipSpace colon = ':' :: value ∧
        value? (fuel + 1) value = some (m.2, left) ∧ skipSpace left = skipSpace rest
  | .members ms, cs => ∀ fuel rest, 2 * cs.length < fuel →
      members? (fuel + 1) (cs ++ '}' :: rest) = some (ms, rest)

theorem items?_last {v : Json} {left : List Char} (h : value? fuel cs = some (v, left))
    (close : skipSpace left = ']' :: rest) : items? (fuel + 1) cs = some ([v], rest) := by
  simp [h, close]

theorem items?_cons {v : Json} {vs : List Json} {left more : List Char}
    (h : value? fuel cs = some (v, left)) (comma : skipSpace left = ',' :: more)
    (hs : items? fuel more = some (vs, rest)) : items? (fuel + 1) cs = some (v :: vs, rest) := by
  simp [h, comma, hs]

section

variable {k : Option String} {v : Json} {key colon value left : List Char}

theorem members?_last (quote : skipSpace cs = '"' :: key) (hk : string? key = some (k, colon))
    (hc : skipSpace colon = ':' :: value) (hv : value? fuel value = some (v, left))
    (close : skipSpace left = '}' :: rest) : members? (fuel + 1) cs = some ([(k, v)], rest) := by
  simp [quote, hk, hc, hv, close]

theorem members?_cons {ms : List (Option String × Json)} {more : List Char}
    (quote : skipSpace cs = '"' :: key) (hk : string? key = some (k, colon))
    (hc : skipSpace colon = ':' :: value) (hv : value? fuel value = some (v, left))
    (comma : skipSpace left = ',' :: more) (hs : members? fuel more = some (ms, rest)) :
    members? (fuel + 1) cs = some ((k, v) :: ms, rest) := by
  simp [quote, hk, hc, hv, comma, hs]

end

/-- Every text of a phrase is read. The texts of the parts are shorter, and each level of the reader
takes one character at least. -/
theorem read_of_spells {p : Phrase} {cs : List Char} (h : Spells p cs) : p.Read cs := by
  induction h with
  | null => exact fun fuel rest _ _ => value?_null fuel rest
  | true => exact fun fuel rest _ _ => value?_true fuel rest
  | false => exact fun fuel rest _ _ => value?_false fuel rest
  | number n => exact fun fuel rest _ ends => value?_text fuel n ends
  | string h => exact fun fuel rest _ _ => value?_string fuel h rest
  | noItems hb =>
    intro fuel rest _ _
    simpa using value?_noItems fuel hb rest
  | noMembers hb =>
    intro fuel rest _ _
    simpa using value?_noMembers fuel hb rest
  | array h ih =>
    intro fuel rest deep _
    simp only [List.length_cons, List.length_append] at deep
    obtain ⟨fuel, rfl⟩ := Nat.exists_eq_add_one.2 (show 0 < fuel by omega)
    simpa using value?_array (ih fuel rest (by omega))
  | object h ih =>
    intro fuel rest deep _
    simp only [List.length_cons, List.length_append] at deep
    obtain ⟨fuel, rfl⟩ := Nat.exists_eq_add_one.2 (show 0 < fuel by omega)
    simpa using value?_object (ih fuel rest (by omega))
  | @padded v a b cs ha hb h ih =>
    intro fuel rest deep ends
    simp only [List.length_append] at deep
    refine ⟨b ++ rest, ?_, skipSpace_append hb rest⟩
    rw [List.append_assoc, value?_congr (skipSpace_append ha _), List.append_assoc]
    exact ih fuel (b ++ rest) (by omega) (ends_append hb ends)
  | lastItem h ih =>
    intro fuel rest deep
    obtain ⟨fuel, rfl⟩ := Nat.exists_eq_add_one.2 (show 0 < fuel by omega)
    obtain ⟨left, read, close⟩ := ih fuel (']' :: rest) (by omega) (ends_bracket rest)
    exact items?_last read (close.trans (skipSpace_cons rfl rest))
  | @items v vs cs more h hs ih ihs =>
    intro fuel rest deep
    simp only [List.length_cons, List.length_append] at deep
    obtain ⟨fuel, rfl⟩ := Nat.exists_eq_add_one.2 (show 0 < fuel by omega)
    rw [List.append_assoc, List.cons_append]
    obtain ⟨left, read, comma⟩ := ih fuel (',' :: (more ++ ']' :: rest)) (by omega) (ends_comma _)
    exact items?_cons read (comma.trans (skipSpace_cons rfl _)) (ihs fuel rest (by omega))
  | @member k v a b key cs ha hb hk h ih =>
    intro fuel rest deep ends
    obtain ⟨spelling, encode⟩ := hk
    simp only [List.length_cons, List.length_append] at deep
    obtain ⟨left, read, close⟩ := ih fuel rest (by omega) ends
    refine ⟨_, _, _, left, ?_, string?_of_spelling spelling encode (b ++ ':' :: (cs ++ rest)), ?_,
      read, close⟩
    · rw [List.append_assoc, skipSpace_append ha]
      simp [skipSpace_cons, isSpace]
    · rw [skipSpace_append hb, skipSpace_cons rfl]
  | @lastMember m cs h ih =>
    intro fuel rest deep
    obtain ⟨fuel, rfl⟩ := Nat.exists_eq_add_one.2 (show 0 < fuel by omega)
    obtain ⟨key, colon, value, left, quote, hk, hc, hv, close⟩ :=
      ih fuel ('}' :: rest) (by omega) (ends_brace rest)
    exact members?_last quote hk hc hv (close.trans (skipSpace_cons rfl rest))
  | @members m ms cs more h hs ih ihs =>
    intro fuel rest deep
    simp only [List.length_cons, List.length_append] at deep
    obtain ⟨fuel, rfl⟩ := Nat.exists_eq_add_one.2 (show 0 < fuel by omega)
    rw [List.append_assoc, List.cons_append]
    obtain ⟨key, colon, value, left, quote, hk, hc, hv, comma⟩ :=
      ih fuel (',' :: (more ++ '}' :: rest)) (by omega) (ends_comma _)
    exact members?_cons quote hk hc hv (comma.trans (skipSpace_cons rfl _))
      (ihs fuel rest (by omega))

/-- A text that spells a value, with any blanks around it, is read as that value. -/
theorem read?_of_spells {v : Json} {cs : List Char} (h : Spells (.padded v) cs) :
    read? cs = some v := by
  obtain ⟨left, read, rest⟩ := read_of_spells h (2 * cs.length + 1) [] (by omega) ends_nil
  have rest : skipSpace left = [] := rest
  rw [List.append_nil] at read
  rw [read?, read]
  simp [rest]

end Uptime.Json
