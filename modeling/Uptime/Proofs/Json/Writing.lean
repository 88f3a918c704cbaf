import Uptime.Json.Printer
import Uptime.Proofs.Json.Grammar

/-!
# Writing JSON

What is written keeps to the grammar: strings (`quoted_stringText`), integers (`spells_integer`),
and objects of what keeps to it (`spells_object`).
-/

namespace Uptime.Json

open Number (digits ofDigits digits_isDigit digits_ne_nil ofDigits_digits)

/-! ## Strings -/

theorem unescape?_shortEscape? {c e : Char} (h : shortEscape? c = some e) :
    unescape? e = some c := by
  unfold shortEscape? at h
  repeat' split at h
  all_goals cases h <;> subst_vars <;> decide

theorem hexValue?_hexDigit {n : Nat} (h : n < 16) : hexValue? (hexDigit n) = some n := by
  have : ∀ n, n < 16 → hexValue? (hexDigit n) = some n := by decide
  exact this n h

/-- The escaped form of a character spells it. -/
theorem spelling_escape (c : Char) {us : List Nat} {cs : List Char} (more : Spelling us cs) :
    Spelling (unitsOf c ++ us) (escape c ++ cs) := by
  unfold escape
  split
  · next e short => exact .short (unescape?_shortEscape? short) more
  · next long =>
    split
    · next control =>
      have value : unitsOf c =
          [((0 * 16 + 0) * 16 + c.toNat / 16) * 16 + c.toNat % 16] := by
        rw [unitsOf, if_pos (by omega)]
        congr 1
        omega
      rw [value]
      exact .unit rfl rfl (hexValue?_hexDigit (by omega)) (hexValue?_hexDigit (by omega)) more
    · next visible =>
      have other : c ≠ '"' ∧ c ≠ '\\' := by
        constructor <;> rintro rfl <;> cases long
      exact .plain (by omega) other.1 other.2 more

theorem quoted_stringText (s : String) : Quoted (some s) (stringText s) := by
  have spelling : ∀ cs : List Char, Spelling (cs.flatMap unitsOf) (cs.flatMap escape) := by
    intro cs
    induction cs with
    | nil => exact .nil
    | cons c cs ih => exact spelling_escape c ih
  exact .mk (spelling s.toList) rfl

/-! ## Integers -/

/-- Digits begin with a zero only if that is all of them. -/
theorem digits_noZero (n : Nat) (zero : (digits n).head? = some '0') : digits n = ['0'] := by
  rw [digits] at zero ⊢
  split
  · next small => simpa [small] using zero
  · next large =>
    have rest : (digits (n / 10)).head? = some '0' := by
      obtain ⟨c, cs, eq⟩ := List.exists_cons_of_ne_nil (digits_ne_nil (n / 10))
      rw [if_neg large, eq] at zero
      rw [eq]
      exact zero
    have value := ofDigits_digits (n / 10)
    rw [digits_noZero (n / 10) rest] at value
    have : n / 10 = 0 := value.symm
    omega
termination_by n
decreasing_by omega

/-- The numeral of an integer. -/
def numeralOf (n : Int) : Numeral where
  negative := n < 0
  whole := ⟨digits n.natAbs, digits_isDigit n.natAbs, digits_ne_nil n.natAbs⟩
  noZero := digits_noZero n.natAbs

theorem text_numeralOf (n : Int) : (numeralOf n).text = Number.signed n := by
  have tail : (numeralOf n).tail = [] := rfl
  rw [Numeral.text, tail, List.append_nil, Number.signed]
  by_cases negative : n < 0 <;> simp [numeralOf, negative]

theorem value_numeralOf (n : Int) : (numeralOf n).value = .integer n := by
  have whole : ofDigits (numeralOf n).whole.chars = n.natAbs := ofDigits_digits n.natAbs
  have sign : (numeralOf n).negative = true ↔ n < 0 := decide_eq_true_iff
  have plain : (numeralOf n).places.isNone ∧ (numeralOf n).exponent.isNone ∧
      ¬((numeralOf n).negative = true ∧ n.natAbs = 0) := ⟨rfl, rfl, by rw [sign]; omega⟩
  simp only [Numeral.value, whole]
  rw [if_pos plain]
  simp only [sign]
  congr 1
  split <;> omega

theorem spells_integer (n : Int) : Spells (.value (.integer n)) (Number.signed n) :=
  value_numeralOf n ▸ text_numeralOf n ▸ .number (numeralOf n)

/-! ## Values and their parts -/

theorem padded_of_value {v : Json} {cs : List Char} (h : Spells (.value v) cs) :
    Spells (.padded v) cs := by
  simpa using Spells.padded (a := []) (b := []) nofun nofun h

theorem member_of_value {k : Option String} {v : Json} {key cs : List Char} (hk : Quoted k key)
    (h : Spells (.value v) cs) : Spells (.member (k, v)) (key ++ ':' :: cs) :=
  Spells.member (a := []) (b := []) nofun nofun hk (padded_of_value h)

/-- Members are written with commas between them and a brace behind them. -/
theorem exists_renderMembers {ms : List (Option String × Json)} (ne : ms ≠ [])
    (h : ∀ m ∈ ms, m.1.isSome ∧ Spells (.value m.2) m.2.render) :
    ∃ cs, renderMembers ms = cs ++ ['}'] ∧ Spells (.members ms) cs := by
  induction ms with
  | nil => exact absurd rfl ne
  | cons m ms ih =>
    obtain ⟨⟨some, value⟩, rest⟩ := List.forall_mem_cons.1 h
    obtain ⟨key, v⟩ := m
    obtain ⟨k, rfl⟩ := Option.isSome_iff_exists.1 some
    have member := member_of_value (quoted_stringText k) value
    cases ms with
    | nil => exact ⟨_, by simp [renderMembers], .lastMember member⟩
    | cons n ms =>
      obtain ⟨cs, text, spells⟩ := ih nofun rest
      exact ⟨_, by simp [renderMembers, text], .members member spells⟩

/-- An object is written by the grammar if its names are strings and its values are. -/
theorem spells_object {ms : List (Option String × Json)} (ne : ms ≠ [])
    (h : ∀ m ∈ ms, m.1.isSome ∧ Spells (.value m.2) m.2.render) :
    Spells (.value (.object ms)) (Json.object ms).render := by
  obtain ⟨cs, text, spells⟩ := exists_renderMembers ne h
  rw [render, text]
  exact .object spells

end Uptime.Json
