import Uptime.Number.Digits

/-!
# Numbers of one width

Runs of digits of one length sort like the numbers they stand for, and what follows them counts only
where these are equal (`lex_append_iff`). So numbers that are written with zeros up to one width
sort like numbers (`padded_lex_iff`).
-/

namespace Uptime.Number

/-- A run of decimal digits. -/
def IsRun (cs : List Char) : Prop := ∀ c ∈ cs, c.isDigit = true

theorem IsRun.tail {c : Char} {cs : List Char} (h : IsRun (c :: cs)) : IsRun cs :=
  fun d hd => h d (List.mem_cons_of_mem c hd)

theorem toNat_of_isDigit {c : Char} (h : c.isDigit = true) : 48 ≤ c.toNat ∧ c.toNat ≤ 57 := by
  simpa [Char.isDigit, UInt32.le_iff_toNat_le] using h

theorem digitValue_le {c : Char} (h : c.isDigit = true) : digitValue c ≤ 9 := by
  have range := toNat_of_isDigit h
  unfold digitValue
  omega

/-- Digits are ordered like their values. -/
theorem lt_iff_digitValue_lt {c d : Char} (hc : c.isDigit = true) (hd : d.isDigit = true) :
    c < d ↔ digitValue c < digitValue d := by
  have order : c < d ↔ c.toNat < d.toNat := Iff.rfl
  have lowc := (toNat_of_isDigit hc).1
  have lowd := (toNat_of_isDigit hd).1
  rw [order]
  unfold digitValue
  omega

theorem eq_of_digitValue_eq {c d : Char} (hc : c.isDigit = true) (hd : d.isDigit = true)
    (h : digitValue c = digitValue d) : c = d := by
  have forth := lt_iff_digitValue_lt hc hd
  have back := lt_iff_digitValue_lt hd hc
  rw [h] at forth back
  exact Char.le_antisymm (Char.not_lt.1 fun lt => Nat.lt_irrefl _ (back.1 lt))
    (Char.not_lt.1 fun lt => Nat.lt_irrefl _ (forth.1 lt))

theorem pow_ten_succ (k : Nat) : Nat.pow 10 (k + 1) = Nat.pow 10 k * 10 := rfl

theorem foldl_digits (n : Nat) (cs : List Char) :
    cs.foldl (fun n c => n * 10 + digitValue c) n = n * Nat.pow 10 cs.length + ofDigits cs := by
  induction cs generalizing n with
  | nil => simp [ofDigits]
  | cons c cs ih =>
    have head : ofDigits (c :: cs) = digitValue c * Nat.pow 10 cs.length + ofDigits cs := by
      rw [ofDigits, List.foldl_cons, ih, Nat.zero_mul, Nat.zero_add]
    rw [List.foldl_cons, ih, head, List.length_cons, pow_ten_succ, Nat.add_mul, Nat.mul_assoc,
      Nat.mul_comm 10, Nat.add_assoc]

theorem ofDigits_cons (c : Char) (cs : List Char) :
    ofDigits (c :: cs) = digitValue c * Nat.pow 10 cs.length + ofDigits cs := by
  rw [ofDigits, List.foldl_cons, foldl_digits, Nat.zero_mul, Nat.zero_add]

theorem ofDigits_lt {cs : List Char} (h : IsRun cs) : ofDigits cs < Nat.pow 10 cs.length := by
  induction cs with
  | nil => exact Nat.one_pos
  | cons c cs ih =>
    have rest := ih h.tail
    have head :=
      Nat.mul_le_mul_right (Nat.pow 10 cs.length) (digitValue_le (h c List.mem_cons_self))
    rw [ofDigits_cons, List.length_cons, pow_ten_succ]
    omega

/-- Runs of digits of one length sort like the numbers they stand for, and what follows counts only
where these are equal. -/
theorem lex_append_iff {xs ys as bs : List Char} (hx : IsRun xs) (hy : IsRun ys)
    (same : xs.length = ys.length) :
    List.Lex (· < ·) (xs ++ as) (ys ++ bs) ↔
      ofDigits xs < ofDigits ys ∨ ofDigits xs = ofDigits ys ∧ List.Lex (· < ·) as bs := by
  induction xs generalizing ys with
  | nil =>
    rw [List.length_eq_zero_iff.1 same.symm]
    simp
  | cons c xs ih =>
    obtain ⟨d, ys, rfl⟩ :=
      List.exists_cons_of_length_pos (same ▸ Nat.succ_pos xs.length : 0 < ys.length)
    have same : xs.length = ys.length := Nat.succ.inj same
    have lx := ofDigits_lt hx.tail
    have ly := ofDigits_lt hy.tail
    rw [List.cons_append, List.cons_append, List.cons_lex_cons_iff, ih hx.tail hy.tail same,
      ofDigits_cons, ofDigits_cons,
      lt_iff_digitValue_lt (hx c List.mem_cons_self) (hy d List.mem_cons_self)]
    rw [same] at lx ⊢
    -- The first digits decide unless they are equal, since what follows stays below their unit.
    generalize Nat.pow 10 ys.length = unit at *
    rcases Nat.lt_trichotomy (digitValue c) (digitValue d) with lt | eq | gt
    · have step := Nat.mul_le_mul_right unit (Nat.succ_le_of_lt lt)
      rw [Nat.succ_mul] at step
      exact ⟨fun _ => .inl (by omega), fun _ => .inl lt⟩
    · rw [eq_of_digitValue_eq (hx c List.mem_cons_self) (hy d List.mem_cons_self) eq]
      simp
    · have step := Nat.mul_le_mul_right unit (Nat.succ_le_of_lt gt)
      rw [Nat.succ_mul] at step
      constructor
      · rintro (lt | ⟨rfl, -⟩) <;> omega
      · rintro (lt | ⟨eq, -⟩) <;> omega

/-! ## Zeros in front -/

theorem length_digits_le {width : Nat} (pos : 0 < width) {n : Nat} (lt : n < Nat.pow 10 width) :
    (digits n).length ≤ width := by
  induction width generalizing n with
  | zero => exact absurd pos (Nat.lt_irrefl 0)
  | succ width ih =>
    rw [digits]
    split
    · simp
    · next two =>
      rw [pow_ten_succ] at lt
      rcases Nat.eq_zero_or_pos width with rfl | pos
      · exact absurd lt two
      · have rest := ih pos (n := n / 10) (by omega)
        simpa using rest

theorem length_padded {width n : Nat} (pos : 0 < width) (lt : n < Nat.pow 10 width) :
    (padded width n).length = width := by
  have short := length_digits_le pos lt
  simp only [padded, List.length_append, List.length_replicate]
  omega

theorem isRun_padded (width n : Nat) : IsRun (padded width n) := by
  intro c hc
  rcases List.mem_append.1 hc with zero | digit
  · rw [(List.mem_replicate.1 zero).2]
    rfl
  · exact digits_isDigit n c digit

theorem padded_ne_nil (width n : Nat) : padded width n ≠ [] := fun nil =>
  digits_ne_nil n (List.append_eq_nil_iff.1 nil).2

@[simp] theorem ofDigits_padded (width n : Nat) : ofDigits (padded width n) = n := by
  have zeros : ∀ k, ofDigits (List.replicate k '0' ++ digits n) = ofDigits (digits n) := by
    intro k
    induction k with
    | zero => rfl
    | succ k ih => exact ih
  exact (zeros _).trans (ofDigits_digits n)

/-- Numbers that are written with one width sort like numbers. -/
theorem padded_lex_iff {width m n : Nat} (pos : 0 < width) (hm : m < Nat.pow 10 width)
    (hn : n < Nat.pow 10 width) {as bs : List Char} :
    List.Lex (· < ·) (padded width m ++ as) (padded width n ++ bs) ↔
      m < n ∨ m = n ∧ List.Lex (· < ·) as bs := by
  rw [lex_append_iff (isRun_padded width m) (isRun_padded width n)
    ((length_padded pos hm).trans (length_padded pos hn).symm), ofDigits_padded, ofDigits_padded]

end Uptime.Number
