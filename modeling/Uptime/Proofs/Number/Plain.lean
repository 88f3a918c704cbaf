import Uptime.Number.Decimal
import Uptime.Proofs.Number.Nearest
import Uptime.Proofs.Number.Padded

/-!
# Plain decimals

A run of digits and points is a number if it has a digit and no more than one point
(`isDecimal_iff`). Just then it is read, and as what its digits and its point say
(`Decimal.read?_eq_some_iff`), of which the double is taken (`Decimal.isDoubleOf_bits`).
-/

namespace Uptime.Number

/-- Digits and points only. -/
def IsPlain (run : List Char) : Prop := ∀ c ∈ run, c.isDigit = true ∨ c = '.'

/-- A run of digits and points that is a decimal number: it has a digit, and one point at most. -/
structure IsDecimal (run : List Char) : Prop where
  digit : ∃ c ∈ run, c.isDigit = true
  point : run.count '.' ≤ 1

/-- The number `n / 10^k` that digits with at most one point among them are. -/
inductive Denotes : List Char → Nat → Nat → Prop
  | whole {digits : List Char} (run : IsRun digits) (some : digits ≠ []) :
      Denotes digits (ofDigits digits) 0
  | point {whole fraction : List Char} (run : IsRun (whole ++ fraction))
      (some : whole ++ fraction ≠ []) :
      Denotes (whole ++ '.' :: fraction) (ofDigits (whole ++ fraction)) fraction.length

/-- What a run of digits and points can be. -/
inductive Shape (run : List Char) : Prop
  | number {n k : Nat} (denotes : Denotes run n k)
  | blank (nothing : run = [] ∨ run = ['.'])
  | points {whole fraction more : List Char} (first : IsRun whole) (second : IsRun fraction)
      (split : run = whole ++ '.' :: (fraction ++ '.' :: more))

theorem isRun_nil : IsRun [] := nofun

theorem isRun_append {xs ys : List Char} : IsRun (xs ++ ys) ↔ IsRun xs ∧ IsRun ys := by
  simp only [IsRun, List.mem_append, or_imp, forall_and]

/-- A run of digits and points has digits up to its first point. -/
theorem IsPlain.exists_whole {run : List Char} (plain : IsPlain run) :
    IsRun run ∨ ∃ whole more, run = whole ++ '.' :: more ∧ IsRun whole ∧ IsPlain more := by
  induction run with
  | nil => exact .inl isRun_nil
  | cons c run ih =>
    have tail : IsPlain run := fun d hd => plain d (List.mem_cons_of_mem c hd)
    rcases plain c List.mem_cons_self with digit | rfl
    · rcases ih tail with run | ⟨whole, more, rfl, first, rest⟩
      · exact .inl (List.forall_mem_cons.2 ⟨digit, run⟩)
      · exact .inr ⟨c :: whole, more, rfl, List.forall_mem_cons.2 ⟨digit, first⟩, rest⟩
    · exact .inr ⟨[], run, rfl, isRun_nil, tail⟩

theorem IsPlain.shape {run : List Char} (plain : IsPlain run) : Shape run := by
  rcases plain.exists_whole with digits | ⟨whole, more, rfl, first, rest⟩
  · by_cases nil : run = []
    · exact .blank (.inl nil)
    · exact .number (.whole digits nil)
  · rcases rest.exists_whole with digits | ⟨fraction, more, rfl, second, -⟩
    · by_cases nil : whole ++ more = []
      · obtain ⟨rfl, rfl⟩ := List.append_eq_nil_iff.1 nil
        exact .blank (.inr rfl)
      · exact .number (.point (isRun_append.2 ⟨first, digits⟩) nil)
    · exact .points first second rfl

theorem IsRun.count_point {xs : List Char} (h : IsRun xs) : xs.count '.' = 0 := by
  rw [List.count_eq_zero]
  intro mem
  exact absurd (h '.' mem) (by decide)

theorem IsRun.exists_digit {xs : List Char} (h : IsRun xs) (some : xs ≠ []) :
    ∃ c ∈ xs, c.isDigit = true := by
  obtain ⟨c, cs, rfl⟩ := List.exists_cons_of_ne_nil some
  exact ⟨c, List.mem_cons_self, h c List.mem_cons_self⟩

theorem Denotes.isDecimal {run : List Char} {n k : Nat} (h : Denotes run n k) : IsDecimal run := by
  cases h with
  | whole digits some => exact ⟨digits.exists_digit some, digits.count_point ▸ Nat.zero_le 1⟩
  | @point whole fraction digits some =>
    obtain ⟨c, mem, digit⟩ := digits.exists_digit some
    obtain ⟨first, second⟩ := isRun_append.1 digits
    refine ⟨⟨c, ?_, digit⟩, ?_⟩
    · rcases List.mem_append.1 mem with mem | mem
      · exact List.mem_append_left _ mem
      · exact List.mem_append_right _ (List.mem_cons_of_mem _ mem)
    · rw [List.count_append, List.count_cons_self, first.count_point, second.count_point]

/-- A run is a number just if its digits and points denote one. -/
theorem isDecimal_iff {run : List Char} (plain : IsPlain run) :
    IsDecimal run ↔ ∃ n k, Denotes run n k := by
  constructor
  · intro decimal
    cases plain.shape with
    | @number n k denotes => exact ⟨n, k, denotes⟩
    | blank nothing =>
      obtain ⟨c, mem, digit⟩ := decimal.digit
      rcases nothing with rfl | rfl
      · cases mem
      · rw [List.mem_singleton.1 mem] at digit
        exact absurd digit (by decide)
    | points first second split =>
      have two := decimal.point
      rw [split, List.count_append, List.count_cons_self, List.count_append,
        List.count_cons_self] at two
      omega
  · rintro ⟨n, k, denotes⟩
    exact denotes.isDecimal

/-! ## Reading -/

namespace Decimal

/-- Digits and points begin with no sign and spell no word. -/
theorem read?_plain {run : List Char} (plain : IsPlain run) : read? run = finite? false run := by
  have noSign : sign run = (false, run) := by
    unfold sign
    split
    · exact absurd (plain '-' List.mem_cons_self) (by decide)
    · exact absurd (plain '+' List.mem_cons_self) (by decide)
    · rfl
  have lower : run.map Char.toLower = run := by
    refine List.map_congr_left (fun c mem => ?_) |>.trans (List.map_id run)
    rcases plain c mem with digit | rfl
    · have range : c.val.toNat ≤ 57 := (toNat_of_isDigit digit).2
      refine dif_neg fun letter => ?_
      have letter : 65 ≤ c.val.toNat := UInt32.le_iff_toNat_le.1 letter.1
      omega
    · rfl
  have noWord : ∀ word : String, (∃ c ∈ word.toList, ¬(c.isDigit = true ∨ c = '.')) →
      String.ofList run ≠ word := by
    rintro word ⟨c, mem, other⟩ rfl
    rw [String.toList_ofList] at mem
    exact other (plain c mem)
  unfold read?
  simp only [noSign, lower]
  rw [if_neg (noWord _ ⟨'n', by decide, by decide⟩), if_neg]
  simp only [Bool.or_eq_true, decide_eq_true_eq, not_or]
  exact ⟨noWord _ ⟨'n', by decide, by decide⟩, noWord _ ⟨'n', by decide, by decide⟩⟩

theorem spanDigits_point {xs : List Char} (h : IsRun xs) (rest : List Char) :
    spanDigits (xs ++ '.' :: rest) = (xs, '.' :: rest) := by
  refine spanDigits_append h ?_
  rintro c ⟨⟩
  rfl

theorem spanDigits_run {xs : List Char} (h : IsRun xs) : spanDigits xs = (xs, []) := by
  have all : spanDigits (xs ++ []) = (xs, []) := spanDigits_append h nofun
  rwa [List.append_nil] at all

/-- Digits behind a point. -/
theorem finite?_point {whole rest : List Char} (h : IsRun whole) :
    finite? false (whole ++ '.' :: rest) =
      if whole.isEmpty && (spanDigits rest).1.isEmpty then none
      else (exponent? (spanDigits rest).2).map fun e => .finite false
        (ofDigits (whole ++ (spanDigits rest).1)) (e - (spanDigits rest).1.length) := by
  unfold finite?
  simp only [spanDigits_point h]

theorem finite?_run {digits : List Char} (h : IsRun digits) : finite? false digits =
    if digits.isEmpty then none else some (.finite false (ofDigits digits) 0) := by
  unfold finite?
  simp only [spanDigits_run h]
  simp [exponent?]

theorem read?_of_denotes {run : List Char} {n k : Nat} (h : Denotes run n k) :
    finite? false run = some (.finite false n (-k)) := by
  cases h with
  | whole digits some =>
    rw [finite?_run digits, if_neg (by simpa using some)]
    rfl
  | @point whole fraction digits some =>
    obtain ⟨first, second⟩ := isRun_append.1 digits
    have present : ¬(whole.isEmpty && fraction.isEmpty) = true := by simpa using some
    rw [finite?_point first, spanDigits_run second, if_neg present]
    simp [exponent?]

/-- Just the numbers among runs of digits and points are read, as what they denote. -/
theorem read?_eq_some_iff {run : List Char} (plain : IsPlain run) {d : Decimal} :
    read? run = some d ↔ ∃ n k, Denotes run n k ∧ d = .finite false n (-k) := by
  rw [read?_plain plain]
  constructor
  · intro read
    cases plain.shape with
    | @number n k denotes =>
      rw [read?_of_denotes denotes] at read
      exact ⟨n, k, denotes, (Option.some.inj read).symm⟩
    | blank nothing =>
      rcases nothing with rfl | rfl <;> cases read
    | points first second split =>
      rw [split, finite?_point first, spanDigits_point second] at read
      simp [exponent?] at read
  · rintro ⟨n, k, denotes, rfl⟩
    exact read?_of_denotes denotes

/-! ## The nearest double -/

/-- The number of digits tells the size of a number. -/
theorem length_digits_spec {n : Nat} (some : n ≠ 0) (e : Int) :
    (10 : ℚ) ^ (e + (digits n).length - 1) ≤ n * 10 ^ e ∧
      (n : ℚ) * 10 ^ e < 10 ^ (e + (digits n).length) := by
  have pos : 0 < (digits n).length := List.length_pos_iff.2 (digits_ne_nil n)
  have ten : (10 : ℚ) ≠ 0 := by norm_num
  have place_pos : (0 : ℚ) < 10 ^ e := by positivity
  have cast : ∀ k : Nat, ((Nat.pow 10 k : Nat) : ℚ) = 10 ^ (k : Int) := Format.natCast_pow 10
  have least : (10 : ℚ) ^ (((digits n).length - 1 : Nat) : Int) ≤ n := by
    have le : Nat.pow 10 ((digits n).length - 1) ≤ n := by
      by_contra lt
      rcases Nat.eq_zero_or_pos ((digits n).length - 1) with one | more
      · rw [one] at lt
        exact lt (Nat.one_le_iff_ne_zero.2 some)
      · have short := length_digits_le more (Nat.not_le.1 lt)
        omega
    exact cast _ ▸ Nat.cast_le.2 le
  have most : (n : ℚ) < 10 ^ ((digits n).length : Int) := by
    have lt := ofDigits_lt (digits_isDigit n)
    rw [ofDigits_digits] at lt
    exact cast _ ▸ Nat.cast_lt.2 lt
  have last : (((digits n).length - 1 : Nat) : Int) = (digits n).length - 1 := by omega
  rw [last] at least
  constructor
  · rw [add_sub_assoc, add_comm, zpow_add₀ ten]
    exact mul_le_mul_of_nonneg_right least place_pos.le
  · rw [add_comm, zpow_add₀ ten]
    exact mul_lt_mul_of_pos_right most place_pos

/-- A decimal number is read as its double, also where its exponent is far. -/
theorem isDoubleOf_bits (n : Nat) (e : Int) :
    IsDoubleOf (n * 10 ^ e) (bits binary64 (.finite false n e)) := by
  have nonneg : (0 : ℚ) ≤ n * 10 ^ e := by positivity
  have zero : binary64.StandsFor 0 0 := ⟨0, binary64.lowest, rfl, by simp⟩
  have found : ∀ {num den : Nat}, 0 < den → (num : ℚ) / den = n * 10 ^ e →
      IsDoubleOf (n * 10 ^ e) (binary64.nearest num den) := by
    intro num den pos value
    exact value ▸ isDoubleOf_nearest num pos
  unfold bits
  simp only [Bool.false_eq_true, if_false, Nat.add_zero]
  by_cases none : n = 0
  · subst none
    rw [if_pos rfl]
    exact .near zero (by simp)
  · rw [if_neg none]
    obtain ⟨least, most⟩ := length_digits_spec none e
    split
    · next far =>
      have le : (10 : ℚ) ^ (31 : Int) ≤ 10 ^ (e + (digits n).length - 1) :=
        zpow_le_zpow_right₀ (by norm_num) (by omega)
      have bound : (2 : ℚ) ^ 100 ≤ 10 ^ (31 : Int) := by norm_num
      exact .infinite rfl (bound.trans (le.trans least))
    · split
      · next tiny =>
        have le : (10 : ℚ) ^ (e + (digits n).length) ≤ 10 ^ (-16 : Int) :=
          zpow_le_zpow_right₀ (by norm_num) (by omega)
        have bound : (10 : ℚ) ^ (-16 : Int) ≤ 1 / 2 ^ 53 := by norm_num
        refine .near zero ?_
        rw [zero_sub, abs_neg, abs_of_nonneg nonneg]
        calc (n : ℚ) * 10 ^ e ≤ 1 / 2 ^ 53 := (most.trans_le (le.trans bound)).le
          _ ≤ (n * 10 ^ e + 1) / 2 ^ 53 := by gcongr; linarith
      · split
        · next neg =>
          have back : e = -(e.natAbs : Int) := by omega
          refine found (Nat.pow_pos (by decide)) ?_
          rw [Format.natCast_pow, back, zpow_neg, Int.natAbs_neg, Int.natAbs_natCast]
          exact div_eq_mul_inv _ _
        · next whole =>
          have back : e = (e.natAbs : Int) := by omega
          refine found Nat.one_pos ?_
          rw [Nat.cast_mul, Format.natCast_pow, ← back, Nat.cast_one, div_one]
          rfl

end Decimal

end Uptime.Number
