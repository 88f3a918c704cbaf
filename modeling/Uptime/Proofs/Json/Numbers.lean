import Uptime.Proofs.Json.Grammar

/-!
# Numbers in JSON

The reader takes every numeral and gives its value (`number?_text`).
-/

namespace Uptime.Json

open Number (IsRun ofDigits spanDigits spanDigits_append)

/-- A rest that no number goes on into. -/
def Ends (rest : List Char) : Prop :=
  ∀ c, rest.head? = some c → c.isDigit = false ∧ c ≠ '.' ∧ c ≠ 'e' ∧ c ≠ 'E'

theorem ends_nil : Ends [] := nofun

theorem ends_cons {c : Char} (digit : c.isDigit = false) (point : c ≠ '.') (lower : c ≠ 'e')
    (upper : c ≠ 'E') (rest : List Char) : Ends (c :: rest) := by
  rintro d ⟨⟩
  exact ⟨digit, point, lower, upper⟩

theorem Digits.spanDigits (p : Digits) {rest : List Char}
    (h : ∀ c, rest.head? = some c → c.isDigit = false) :
    spanDigits (p.chars ++ rest) = (p.chars, rest) :=
  spanDigits_append p.run h

theorem fraction?_point (p : Digits) {rest : List Char}
    (h : ∀ c, rest.head? = some c → c.isDigit = false) :
    fraction? ('.' :: (p.chars ++ rest)) = some (some p.chars, rest) := by
  simp [fraction?, p.spanDigits h, p.ne_nil]

theorem fraction?_none {rest : List Char} (h : rest.head? ≠ some '.') :
    fraction? rest = some (none, rest) := by
  unfold fraction?
  split
  · exact absurd rfl h
  · rfl

theorem exponent?_none {rest : List Char} (h : Ends rest) : exponent? rest = some (none, rest) := by
  cases rest with
  | nil => rfl
  | cons c rest =>
    obtain ⟨-, -, lower, upper⟩ := h c rfl
    simp [exponent?, lower, upper]

theorem Digits.exists_cons (p : Digits) : ∃ c cs, p.chars = c :: cs ∧ c.isDigit = true := by
  obtain ⟨c, cs, eq⟩ := List.exists_cons_of_ne_nil p.ne_nil
  exact ⟨c, cs, eq, p.run c (eq ▸ List.mem_cons_self)⟩

/-- Digits do not begin with a sign. -/
theorem Digits.no_sign (p : Digits) (rest : List Char) :
    Number.Decimal.sign (p.chars ++ rest) = (false, p.chars ++ rest) ∧
      minus (p.chars ++ rest) = (false, p.chars ++ rest) := by
  obtain ⟨c, cs, eq, digit⟩ := p.exists_cons
  have other : c ≠ '-' ∧ c ≠ '+' := by
    constructor <;> rintro rfl <;> exact absurd digit (by decide)
  rw [eq, List.cons_append, Number.Decimal.sign.eq_def, minus.eq_def]
  grind

/-- After its mark and its sign an exponent is a run of digits. -/
theorem exponent?_mark {mark : Char} (isMark : mark = 'e' ∨ mark = 'E') {cs rest : List Char}
    {negative : Bool} {p : Digits} (sign : Number.Decimal.sign cs = (negative, p.chars ++ rest))
    (h : Ends rest) : exponent? (mark :: cs) =
      some (some (if negative then -(ofDigits p.chars : Int) else ofDigits p.chars), rest) := by
  simp [exponent?, isMark, sign, p.spanDigits fun c hc => (h c hc).1, p.ne_nil]

theorem exponent?_text (e : Exponent) {rest : List Char} (h : Ends rest) :
    exponent? (e.text ++ rest) = some (some e.value, rest) := by
  obtain ⟨mark, isMark, sign, p⟩ := e
  cases sign with
  | none => exact exponent?_mark isMark ((p.no_sign rest).1) h
  | some negative =>
    have sign : Number.Decimal.sign ((if negative then '-' else '+') :: (p.chars ++ rest)) =
        (negative, p.chars ++ rest) := by
      cases negative <;> rfl
    have read := exponent?_mark isMark sign h
    cases negative <;> exact read

/-- What stands behind the whole digits is no digit. -/
theorem Numeral.tail_head (n : Numeral) {rest : List Char} (h : Ends rest) :
    ∀ c, (n.tail ++ rest).head? = some c → c.isDigit = false := by
  obtain ⟨negative, whole, noZero, places, exponent⟩ := n
  cases places with
  | some p => rintro c ⟨⟩; rfl
  | none =>
    cases exponent with
    | none => exact fun c hc => (h c hc).1
    | some e =>
      rintro c ⟨⟩
      rcases e.isMark with mark | mark <;> rw [mark] <;> rfl

/-- The places and the exponent are read from what stands behind the whole digits. -/
theorem Numeral.read_tail (n : Numeral) {rest : List Char} (h : Ends rest) :
    ∃ cs, fraction? (n.tail ++ rest) = some (n.places.map (·.chars), cs) ∧
      exponent? cs = some (n.exponent.map (·.value), rest) := by
  obtain ⟨negative, whole, noZero, places, exponent⟩ := n
  have power : ∃ cs, cs = (exponent.map (·.text)).getD [] ++ rest ∧
      (∀ c, cs.head? = some c → c.isDigit = false ∧ c ≠ '.') ∧
      exponent? cs = some (exponent.map (·.value), rest) := by
    cases exponent with
    | none => exact ⟨_, rfl, fun c hc => ⟨(h c hc).1, (h c hc).2.1⟩, exponent?_none h⟩
    | some e =>
      refine ⟨_, rfl, ?_, exponent?_text e h⟩
      rintro c ⟨⟩
      rcases e.isMark with mark | mark <;> rw [mark] <;> decide
  obtain ⟨cs, rfl, head, read⟩ := power
  refine ⟨_, ?_, read⟩
  cases places with
  | none =>
    exact fraction?_none fun point => (head '.' point).2 rfl
  | some p =>
    show fraction? ('.' :: (p.chars ++ _ ++ rest)) = _
    rw [List.append_assoc]
    exact fraction?_point p fun c hc => (head c hc).1

theorem Numeral.value_eq (n : Numeral) : n.value =
    numberOf n.negative n.whole.chars (n.places.map (·.chars)) (n.exponent.map (·.value)) := by
  obtain ⟨negative, whole, noZero, places, exponent⟩ := n
  cases places with
  | some p => cases exponent <;> simp [value, numberOf, fraction]
  | none =>
    cases exponent with
    | some e => simp [value, numberOf, fraction]
    | none =>
      by_cases minusZero : negative = true ∧ ofDigits whole.chars = 0
      · obtain ⟨rfl, zero⟩ := minusZero
        simp [value, numberOf, fraction, zero]
      · simp only [value, numberOf, minusZero, Option.map_none, Option.isNone_none, true_and,
          not_false_iff, if_true, Bool.and_eq_true, decide_eq_true_eq, if_false]

/-- A number is read from each of its texts. -/
theorem number?_text (n : Numeral) {rest : List Char} (h : Ends rest) :
    number? (n.text ++ rest) = some (n.value, rest) := by
  have sign : minus (n.text ++ rest) = (n.negative, n.whole.chars ++ (n.tail ++ rest)) := by
    rw [Numeral.text]
    cases n.negative with
    | true => simp [minus]
    | false => simpa using (n.whole.no_sign (n.tail ++ rest)).2
  obtain ⟨cs, places, power⟩ := n.read_tail h
  have whole := n.whole.spanDigits (n.tail_head h)
  have noZero : n.whole.chars.head? = some '0' → n.whole.chars.length = 1 := fun zero => by
    rw [n.noZero zero]
    rfl
  simpa [number?, sign, whole, places, power, n.value_eq] using ⟨n.whole.ne_nil, noZero⟩

end Uptime.Json
