/-!
# Decimal digits

Natural numbers as runs of decimal digits and back. Main facts: `ofDigits_digits` (writing and
reading give the same number), `digits_isDigit` and `digits_ne_nil` (what is written is a non-empty
run of digits), `toString_eq_digits` (it is the usual text), and `spanDigits_append`, which finds a
run of digits in front of a text that goes on with something else.
-/

namespace Uptime.Number

/-- The value of a decimal digit. -/
def digitValue (c : Char) : Nat := c.toNat - 48

/-- The decimal digit of a value below ten. -/
def digitChar (d : Nat) : Char := Char.ofNat (48 + d)

/-- The decimal digits of a number, without leading zeros. -/
def digits (n : Nat) : List Char :=
  if n < 10 then [digitChar n] else digits (n / 10) ++ [digitChar (n % 10)]
termination_by n
decreasing_by omega

/-- The number that a run of decimal digits stands for. -/
def ofDigits (cs : List Char) : Nat := cs.foldl (fun n c => n * 10 + digitValue c) 0

/-- The decimal digits of a number, with zeros in front up to `width` characters. -/
def padded (width n : Nat) : List Char :=
  let ds := digits n
  List.replicate (width - ds.length) '0' ++ ds

/-- The digits of an integer after its sign; only a minus sign is written. -/
def signed (n : Int) : List Char :=
  if n < 0 then '-' :: digits n.natAbs else digits n.natAbs

/-- The longest run of decimal digits in front, and what follows it. -/
def spanDigits (cs : List Char) : List Char × List Char :=
  (cs.takeWhile Char.isDigit, cs.dropWhile Char.isDigit)

theorem digitValue_digitChar {d : Nat} (h : d < 10) : digitValue (digitChar d) = d := by
  have : ∀ d, d < 10 → digitValue (digitChar d) = d := by decide
  exact this d h

theorem isDigit_digitChar {d : Nat} (h : d < 10) : (digitChar d).isDigit = true := by
  have : ∀ d, d < 10 → (digitChar d).isDigit = true := by decide
  exact this d h

theorem digits_isDigit (n : Nat) : ∀ c ∈ digits n, c.isDigit = true := by
  rw [digits]
  split
  · simpa using isDigit_digitChar (by assumption)
  · intro c hc
    rcases List.mem_append.1 hc with hc | hc
    · exact digits_isDigit (n / 10) c hc
    · rw [List.mem_singleton.1 hc]
      exact isDigit_digitChar (by omega)
termination_by n
decreasing_by omega

theorem digits_ne_nil (n : Nat) : digits n ≠ [] := by
  rw [digits]; split <;> simp

theorem ofDigits_append (xs : List Char) (c : Char) :
    ofDigits (xs ++ [c]) = ofDigits xs * 10 + digitValue c := by
  simp [ofDigits]

@[simp] theorem ofDigits_digits (n : Nat) : ofDigits (digits n) = n := by
  rw [digits]
  split
  · simp [ofDigits, digitValue_digitChar (by assumption)]
  · rw [ofDigits_append, ofDigits_digits (n / 10), digitValue_digitChar (by omega)]
    omega
termination_by n
decreasing_by omega

theorem digits_eq_toDigits (n : Nat) : digits n = Nat.toDigits 10 n := by
  have same : ∀ d, d < 10 → digitChar d = d.digitChar := by decide
  induction n using digits.induct with
  | case1 n one => rw [digits, if_pos one, Nat.toDigits_of_lt_base one, same n one]
  | case2 n more ih =>
    rw [digits, if_neg more, ih, same _ (Nat.mod_lt n (by decide)),
      Nat.toDigits_of_base_le (by decide) (Nat.not_lt.1 more)]

theorem toString_eq_digits (n : Nat) : toString n = String.ofList (digits n) := by
  rw [digits_eq_toDigits, Nat.toString_eq_ofList_toDigits]

/-- A run of digits that is followed by no digit is found whole. -/
theorem spanDigits_append {xs ys : List Char} (hx : ∀ c ∈ xs, c.isDigit = true)
    (hy : ∀ c, ys.head? = some c → c.isDigit = false) : spanDigits (xs ++ ys) = (xs, ys) := by
  rw [spanDigits, List.takeWhile_append_of_pos hx, List.dropWhile_append_of_pos hx]
  cases ys with
  | nil => simp
  | cons y ys => simp [hy y rfl]

theorem spanDigits_digits (n : Nat) {ys : List Char}
    (hy : ∀ c, ys.head? = some c → c.isDigit = false) :
    spanDigits (digits n ++ ys) = (digits n, ys) :=
  spanDigits_append (digits_isDigit n) hy

end Uptime.Number
