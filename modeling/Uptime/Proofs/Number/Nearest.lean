import Mathlib.Algebra.Order.Field.Power
import Mathlib.Algebra.Order.Group.MinMax
import Mathlib.Data.Rat.Cast.Order
import Mathlib.Tactic.FieldSimp
import Mathlib.Tactic.GCongr
import Mathlib.Tactic.Linarith
import Mathlib.Tactic.NormNum
import Mathlib.Tactic.Positivity
import Mathlib.Tactic.Ring
import Uptime.Number.Binary

/-!
# The nearest member of a format

A bit pattern stands for a number (`Format.StandsFor`). The pattern that is found for a quotient
stands for a number that is off by no more than half a unit in the last place (`Format.half`), or it
is that of infinity and the quotient is too great for the format (`Format.rounds_nearest`). The same
holds of a multiple of a member (`Format.rounds_scaled`), and rounding a member to a whole number is
off by no more than a half (`Format.near_toNat`).
-/

namespace Uptime.Number

/-- A number of denominators that is off by no more than half a denominator. -/
theorem near_of_close {q num den : Nat} (pos : 0 < den) (above : 2 * (q * den) ≤ 2 * num + den)
    (below : 2 * num ≤ 2 * (q * den) + den) : |(q : ℚ) - num / den| ≤ 1 / 2 := by
  have den_pos : (0 : ℚ) < den := Nat.cast_pos.2 pos
  have above : 2 * ((q : ℚ) * den) ≤ 2 * num + den := by exact_mod_cast above
  have below : 2 * (num : ℚ) ≤ 2 * (q * den) + den := by exact_mod_cast below
  have whole : (num : ℚ) / den * den = num := div_mul_cancel₀ _ den_pos.ne'
  rw [abs_le]
  constructor <;> nlinarith

theorem near_roundDiv (num : Nat) {den : Nat} (pos : 0 < den) :
    |(roundDiv num den : ℚ) - num / den| ≤ 1 / 2 :=
  near_of_close pos (roundDiv_close num pos).1 (roundDiv_close num pos).2

theorem near_halfUp (num : Nat) {den : Nat} (pos : 0 < den) :
    |(((2 * num + den) / (2 * den) : Nat) : ℚ) - num / den| ≤ 1 / 2 := by
  have whole := Nat.div_add_mod (2 * num + den) (2 * den)
  have rest := Nat.mod_lt (2 * num + den) (Nat.mul_pos Nat.two_pos pos)
  generalize (2 * num + den) / (2 * den) = q at *
  have same : 2 * den * q = 2 * (q * den) := by rw [Nat.mul_assoc, Nat.mul_comm den]
  exact near_of_close pos (by omega) (by omega)

namespace Format

/-- A pattern without its sign stands for a number. -/
def StandsFor (f : Format) (bits : Nat) (x : ℚ) : Prop :=
  ∃ m e, f.magnitude bits = .finite m e ∧ (m : ℚ) * 2 ^ e = x

theorem natCast_pow (base k : Nat) : ((Nat.pow base k : Nat) : ℚ) = (base : ℚ) ^ (k : Int) := by
  rw [zpow_natCast]
  exact Nat.cast_pow base k

theorem quotient_eq (m : Nat) (e : Int) : 0 < (quotient m e).2 ∧
    ((quotient m e).1 : ℚ) / (quotient m e).2 = m * 2 ^ e := by
  unfold quotient
  split
  · next neg =>
    have back : e = -(e.natAbs : Int) := by omega
    refine ⟨Nat.two_pow_pos _, ?_⟩
    simp only [natCast_pow]
    rw [back, zpow_neg, Int.natAbs_neg, Int.natAbs_natCast]
    push_cast
    ring
  · next nonneg =>
    have back : e = (e.natAbs : Int) := by omega
    refine ⟨Nat.one_pos, ?_⟩
    simp only [Nat.cast_mul, natCast_pow, Nat.cast_one, div_one]
    rw [← back]
    push_cast
    ring

/-! ## The place of the last digit -/

section Nearest

variable (f : Format) (num den : Nat)

/-- The quotient in units of `2^e`. -/
def atPlace (e : Int) : Nat × Nat :=
  if e < 0 then (num * Nat.pow 2 e.natAbs, den) else (num, den * Nat.pow 2 e.natAbs)

/-- The exponent at which a quotient has as many bits as the format keeps, or one more. -/
def guess : Int := (Nat.log2 num : Int) - Nat.log2 den - f.fraction

/-- The exponent of the last place that the format keeps of a quotient. -/
def place : Int :=
  let below := (atPlace num den (f.guess num den)).1 <
    (atPlace num den (f.guess num den)).2 * Nat.pow 2 f.fraction
  max f.lowest (if below then f.guess num den - 1 else f.guess num den)

/-- The quotient rounded at that place. -/
def kept : Nat :=
  roundDiv (atPlace num den (f.place num den)).1 (atPlace num den (f.place num den)).2

variable {f num den}

theorem nearest_eq (some : num ≠ 0) : f.nearest num den = min f.infinity
    (f.kept num den + (f.place num den - f.lowest).toNat * Nat.pow 2 f.fraction) := by
  rw [nearest, if_neg some]
  rfl

theorem atPlace_eq (num : Nat) (pos : 0 < den) (e : Int) : 0 < (atPlace num den e).2 ∧
    ((atPlace num den e).1 : ℚ) / (atPlace num den e).2 = num / den / 2 ^ e := by
  have den_pos : (0 : ℚ) < den := Nat.cast_pos.2 pos
  unfold atPlace
  split
  · next neg =>
    have back : e = -(e.natAbs : Int) := by omega
    refine ⟨pos, ?_⟩
    simp only [Nat.cast_mul, natCast_pow]
    rw [back, zpow_neg, Int.natAbs_neg, Int.natAbs_natCast]
    push_cast
    field_simp
  · next nonneg =>
    have back : e = (e.natAbs : Int) := by omega
    refine ⟨Nat.mul_pos pos (Nat.two_pow_pos _), ?_⟩
    simp only [Nat.cast_mul, natCast_pow]
    rw [← back]
    push_cast
    field_simp

theorem lt_two_zpow (n : Nat) : (n : ℚ) < 2 ^ ((n.log2 : Int) + 1) := by
  have lt : (n : ℚ) < ((2 ^ (n.log2 + 1) : Nat) : ℚ) := Nat.cast_lt.2 Nat.lt_log2_self
  rw [Nat.cast_pow, ← zpow_natCast] at lt
  exact_mod_cast lt

theorem two_zpow_le {n : Nat} (some : n ≠ 0) : (2 : ℚ) ^ (n.log2 : Int) ≤ n := by
  have le : ((2 ^ n.log2 : Nat) : ℚ) ≤ n := Nat.cast_le.2 (Nat.log2_self_le some)
  rwa [Nat.cast_pow, ← zpow_natCast] at le

/-- The binary logarithms tell the size of a quotient up to one place. -/
theorem guess_spec (some : num ≠ 0) (pos : 0 < den) :
    (2 : ℚ) ^ (f.guess num den + f.fraction - 1) ≤ num / den ∧
      (num : ℚ) / den < 2 ^ (f.guess num den + f.fraction + 1) := by
  have den_pos : (0 : ℚ) < den := Nat.cast_pos.2 pos
  have two : (2 : ℚ) ≠ 0 := by norm_num
  have lower : (2 : ℚ) ^ (f.guess num den + f.fraction - 1) =
      2 ^ (num.log2 : Int) / 2 ^ ((den.log2 : Int) + 1) := by
    rw [← zpow_sub₀ two]
    congr 1
    unfold guess
    omega
  have upper : (2 : ℚ) ^ (f.guess num den + f.fraction + 1) =
      2 ^ ((num.log2 : Int) + 1) / 2 ^ (den.log2 : Int) := by
    rw [← zpow_sub₀ two]
    congr 1
    unfold guess
    omega
  rw [lower, upper]
  constructor
  · exact div_le_div₀ (Nat.cast_nonneg _) (two_zpow_le some) den_pos (lt_two_zpow den).le
  · exact div_lt_div₀ (lt_two_zpow num) (two_zpow_le pos.ne') (by positivity) (by positivity)

/-- Whether a quotient has fewer bits at a place than the format keeps. -/
theorem below_iff (pos : 0 < den) (e : Int) :
    (atPlace num den e).1 < (atPlace num den e).2 * Nat.pow 2 f.fraction ↔
      (num : ℚ) / den < 2 ^ (e + f.fraction) := by
  obtain ⟨unit, ratio⟩ := atPlace_eq num pos e
  have unit_pos : (0 : ℚ) < (atPlace num den e).2 := Nat.cast_pos.2 unit
  have place_pos : (0 : ℚ) < 2 ^ e := by positivity
  rw [add_comm, zpow_add₀ (by norm_num), ← div_lt_iff₀ place_pos, ← ratio, div_lt_iff₀' unit_pos,
    ← @Nat.cast_lt ℚ, Nat.cast_mul, natCast_pow]
  rfl

/-- At its place a quotient has no more bits than the format keeps, and no fewer unless the place is
the lowest. -/
theorem place_spec (some : num ≠ 0) (pos : 0 < den) : f.lowest ≤ f.place num den ∧
    (num : ℚ) / den < 2 ^ (f.place num den + f.fraction + 1) ∧
    (f.place num den = f.lowest ∨ (2 : ℚ) ^ (f.place num den + f.fraction) ≤ num / den) := by
  have two : (1 : ℚ) ≤ 2 := by norm_num
  obtain ⟨lower, upper⟩ := guess_spec (f := f) some pos
  unfold place
  simp only [below_iff pos]
  split
  · next lt =>
    have same : f.guess num den - 1 + f.fraction + 1 = f.guess num den + f.fraction := by omega
    refine ⟨le_max_left _ _, ?_, ?_⟩
    · refine lt_of_lt_of_le lt (zpow_le_zpow_right₀ two ?_)
      omega
    · rcases max_choice f.lowest (f.guess num den - 1) with least | free
      · exact .inl least
      · refine .inr ?_
        rw [free]
        convert lower using 2
        omega
  · next ge =>
    refine ⟨le_max_left _ _, ?_, ?_⟩
    · refine lt_of_lt_of_le upper (zpow_le_zpow_right₀ two ?_)
      omega
    · rcases max_choice f.lowest (f.guess num den) with least | free
      · exact .inl least
      · refine .inr ?_
        rw [free]
        exact not_lt.1 ge

/-- What is kept of a quotient is off by no more than half a unit of its place. -/
theorem near_kept (f : Format) (num : Nat) (pos : 0 < den) :
    |(f.kept num den : ℚ) * 2 ^ f.place num den - num / den| ≤ 2 ^ f.place num den / 2 := by
  obtain ⟨unit, ratio⟩ := atPlace_eq num pos (f.place num den)
  have place_pos : (0 : ℚ) < 2 ^ f.place num den := by positivity
  have near := near_roundDiv (atPlace num den (f.place num den)).1 unit
  rw [ratio] at near
  calc |(f.kept num den : ℚ) * 2 ^ f.place num den - num / den|
      = |(f.kept num den : ℚ) - num / den / 2 ^ f.place num den| * 2 ^ f.place num den := by
        rw [← abs_of_pos place_pos, ← abs_mul, sub_mul, abs_of_pos place_pos,
          div_mul_cancel₀ _ place_pos.ne']
    _ ≤ 1 / 2 * 2 ^ f.place num den := mul_le_mul_of_nonneg_right near place_pos.le
    _ = 2 ^ f.place num den / 2 := by ring

/-- What is kept fills the bits of the format, unless the place is the lowest. -/
theorem kept_spec (some : num ≠ 0) (pos : 0 < den) :
    f.kept num den ≤ 2 * Nat.pow 2 f.fraction ∧
      (f.place num den = f.lowest ∨ Nat.pow 2 f.fraction ≤ f.kept num den) := by
  obtain ⟨-, upper, lower⟩ := place_spec (f := f) some pos
  have place_pos : (0 : ℚ) < 2 ^ f.place num den := by positivity
  obtain ⟨least, most⟩ := abs_le.1 (near_kept f num pos)
  have two : (2 : ℚ) ≠ 0 := by norm_num
  have fraction : ((Nat.pow 2 f.fraction : Nat) : ℚ) = 2 ^ (f.fraction : Int) := natCast_pow 2 _
  constructor
  · have lt : (f.kept num den : ℚ) < 2 * (Nat.pow 2 f.fraction : Nat) + 1 := by
      rw [zpow_add₀ two, zpow_add₀ two, zpow_one] at upper
      rw [fraction]
      refine lt_of_mul_lt_mul_right ?_ place_pos.le
      linarith
    exact Nat.le_of_lt_succ (by exact_mod_cast lt)
  · refine lower.imp_right fun lower => ?_
    have lt : ((Nat.pow 2 f.fraction : Nat) : ℚ) < f.kept num den + 1 := by
      rw [zpow_add₀ two] at lower
      rw [fraction]
      refine lt_of_mul_lt_mul_right ?_ place_pos.le
      linarith
    exact Nat.le_of_lt_succ (by exact_mod_cast lt)

end Nearest

/-! ## Patterns -/

variable {f : Format}

theorem magnitude_eq {m k : Nat} (lt : m < Nat.pow 2 f.fraction)
    (finite : k < Nat.pow 2 f.exponent - 1) : f.magnitude (m + k * Nat.pow 2 f.fraction) =
      if k = 0 then .finite m f.lowest
      else .finite (Nat.pow 2 f.fraction + m) (f.lowest + (k - 1)) := by
  have unit : 0 < Nat.pow 2 f.fraction := Nat.two_pow_pos _
  have fraction : (m + k * Nat.pow 2 f.fraction) % Nat.pow 2 f.fraction = m := by
    rw [Nat.add_mul_mod_self_right, Nat.mod_eq_of_lt lt]
  have exponent : (m + k * Nat.pow 2 f.fraction) / Nat.pow 2 f.fraction = k := by
    rw [Nat.add_mul_div_right _ _ unit, Nat.div_eq_of_lt lt, Nat.zero_add]
  unfold magnitude
  simp only [fraction, exponent, if_neg (Nat.ne_of_lt finite)]

theorem magnitude_infinity (f : Format) : f.magnitude f.infinity = .infinite := by
  have unit : 0 < Nat.pow 2 f.fraction := Nat.two_pow_pos _
  unfold magnitude infinity
  simp only [Nat.mul_mod_left, Nat.mul_div_cancel _ unit, if_true]

/-- A pattern is read as its digits at its place. -/
theorem standsFor_pattern {m k : Nat} (le : m ≤ 2 * Nat.pow 2 f.fraction)
    (full : k = 0 ∨ Nat.pow 2 f.fraction ≤ m)
    (finite : m + k * Nat.pow 2 f.fraction < f.infinity) :
    f.StandsFor (m + k * Nat.pow 2 f.fraction) (m * 2 ^ (f.lowest + k)) := by
  have unit : 0 < Nat.pow 2 f.fraction := Nat.two_pow_pos _
  have exponent : ∀ {r l : Nat}, m + k * Nat.pow 2 f.fraction = r + l * Nat.pow 2 f.fraction →
      l < Nat.pow 2 f.exponent - 1 := by
    intro r l shape
    rw [shape] at finite
    exact Nat.lt_of_mul_lt_mul_right (Nat.lt_of_le_of_lt (Nat.le_add_left _ r) finite)
  rcases Nat.lt_or_ge m (Nat.pow 2 f.fraction) with short | long
  · obtain rfl : k = 0 := full.resolve_right (Nat.not_le.2 short)
    refine ⟨m, f.lowest, ?_, by simp⟩
    rw [magnitude_eq short (exponent rfl), if_pos rfl]
  · rcases Nat.lt_or_ge m (2 * Nat.pow 2 f.fraction) with lt | ge
    · have shape : m + k * Nat.pow 2 f.fraction =
          (m - Nat.pow 2 f.fraction) + (k + 1) * Nat.pow 2 f.fraction := by
        rw [Nat.succ_mul]
        omega
      refine ⟨m, f.lowest + k, ?_, rfl⟩
      rw [shape, magnitude_eq (by omega) (exponent shape), if_neg (Nat.succ_ne_zero k),
        Nat.add_sub_cancel' long]
      simp
    · -- One digit too many is carried to the next place.
      obtain rfl : m = 2 * Nat.pow 2 f.fraction := Nat.le_antisymm le ge
      have shape : 2 * Nat.pow 2 f.fraction + k * Nat.pow 2 f.fraction =
          0 + (k + 2) * Nat.pow 2 f.fraction := by
        rw [Nat.add_mul]
        omega
      refine ⟨Nat.pow 2 f.fraction, f.lowest + (k + 1), ?_, ?_⟩
      · rw [shape, magnitude_eq unit (exponent shape), if_neg (Nat.succ_ne_zero _)]
        simp
        omega
      · rw [← add_assoc, zpow_add_one₀ (by norm_num)]
        push_cast
        ring

/-- Half a unit in the last place that a format keeps of a number. -/
def half (f : Format) (x : ℚ) : ℚ := max ((2 : ℚ) ^ f.lowest) (x / 2 ^ (f.fraction : Int)) / 2

/-- A pattern that a number is rounded to stands for a number next to it, or for infinity where the
number is too great. -/
inductive Rounds (f : Format) (bits : Nat) (x : ℚ) : Prop
  | near {y : ℚ} (stands : f.StandsFor bits y) (close : |y - x| ≤ f.half x)
  /-- The format has all but three of its exponents below those that can be too great. -/
  | infinite (pattern : bits = f.infinity)
      (great : ∀ j : Nat, j + 3 < Nat.pow 2 f.exponent → 2 ^ (f.lowest + f.fraction + j) ≤ x)

theorem half_place_le {num den : Nat} (some : num ≠ 0) (pos : 0 < den) :
    2 ^ f.place num den / 2 ≤ f.half (num / den) := by
  obtain ⟨-, -, lower⟩ := place_spec (f := f) some pos
  unfold half
  gcongr
  rcases lower with least | lower
  · rw [least]
    exact le_max_left _ _
  · refine le_max_of_le_right ?_
    rw [le_div_iff₀ (by positivity), ← zpow_add₀ (by norm_num)]
    exact lower

/-- Only the greatest exponents come to the pattern of infinity. -/
theorem great_of_infinity_le {num den k : Nat} (some : num ≠ 0) (pos : 0 < den)
    (place : f.lowest + k = f.place num den)
    (past : f.infinity ≤ f.kept num den + k * Nat.pow 2 f.fraction) {j : Nat}
    (room : j + 3 < Nat.pow 2 f.exponent) :
    (2 : ℚ) ^ (f.lowest + f.fraction + j) ≤ num / den := by
  obtain ⟨-, -, lower⟩ := place_spec (f := f) some pos
  have top : Nat.pow 2 f.exponent - 1 ≤ k + 2 := by
    refine Nat.le_of_mul_le_mul_right ?_ (Nat.two_pow_pos f.fraction)
    calc (Nat.pow 2 f.exponent - 1) * 2 ^ f.fraction
        ≤ f.kept num den + k * 2 ^ f.fraction := past
      _ ≤ 2 * 2 ^ f.fraction + k * 2 ^ f.fraction :=
        Nat.add_le_add_right (kept_spec some pos).1 _
      _ = (k + 2) * 2 ^ f.fraction := by rw [Nat.add_mul, Nat.add_comm]
  have higher : f.place num den ≠ f.lowest := by omega
  refine le_trans (zpow_le_zpow_right₀ (by norm_num) ?_) (lower.resolve_left higher)
  omega

/-- The pattern that is found for a quotient is one that it is rounded to. -/
theorem rounds_nearest (f : Format) (num : Nat) {den : Nat} (pos : 0 < den)
    (wide : 1 < Nat.pow 2 f.exponent) : f.Rounds (f.nearest num den) (num / den) := by
  by_cases some : num = 0
  · subst some
    refine .near (y := 0) ⟨0, f.lowest, ?_, by simp⟩ ?_
    · rw [nearest, if_pos rfl]
      simpa using magnitude_eq (f := f) (m := 0) (k := 0) (Nat.two_pow_pos _) (by omega)
    · unfold half
      simp only [Nat.cast_zero, zero_div, sub_zero, abs_zero]
      positivity
  · obtain ⟨lowest, -, -⟩ := place_spec (f := f) some pos
    obtain ⟨le, full⟩ := kept_spec (f := f) some pos
    obtain ⟨k, place⟩ := Int.le.dest lowest
    have steps : (f.place num den - f.lowest).toNat = k := by omega
    have pattern : f.nearest num den = _ := nearest_eq some
    rw [steps] at pattern
    rcases Nat.lt_or_ge (f.kept num den + k * Nat.pow 2 f.fraction) f.infinity with finite | past
    · rw [min_eq_right finite.le] at pattern
      refine .near (y := f.kept num den * 2 ^ (f.lowest + k)) ?_ ?_
      · rw [pattern]
        refine standsFor_pattern le (full.imp_left ?_) finite
        omega
      · rw [place]
        exact (near_kept f num pos).trans (half_place_le some pos)
    · rw [min_eq_left past] at pattern
      exact .infinite pattern fun j room => great_of_infinity_le some pos place past room

/-- A multiple of a member is rounded like any other quotient. -/
theorem rounds_scaled {bits : Nat} {x : ℚ} (stands : f.StandsFor bits x) (factor : Nat)
    (wide : 1 < Nat.pow 2 f.exponent) : f.Rounds (f.scaled factor bits) (x * factor) := by
  obtain ⟨m, e, read, rfl⟩ := stands
  obtain ⟨pos, ratio⟩ := quotient_eq m e
  have product : (((quotient m e).1 * factor : Nat) : ℚ) / (quotient m e).2 =
      m * 2 ^ e * factor := by
    rw [← ratio, Nat.cast_mul, mul_div_right_comm]
  unfold scaled
  rw [read, ← product]
  exact rounds_nearest f _ pos wide

theorem scaled_infinity (f : Format) (factor : Nat) : f.scaled factor f.infinity = f.infinity := by
  unfold scaled
  rw [magnitude_infinity]

/-- A member is rounded to a whole number next to it, as far as those go. -/
theorem near_toNat {bits : Nat} {x : ℚ} (most : Nat) (stands : f.StandsFor bits x) :
    |(f.toNat most bits : ℚ) - min x most| ≤ 1 / 2 := by
  obtain ⟨m, e, read, rfl⟩ := stands
  obtain ⟨pos, ratio⟩ := quotient_eq m e
  have near := near_halfUp (quotient m e).1 pos
  have value : f.toNat most bits =
      min most ((2 * (quotient m e).1 + (quotient m e).2) / (2 * (quotient m e).2)) := by
    unfold toNat
    rw [read]
  rw [ratio] at near
  rw [value, min_comm, Nat.cast_min]
  refine (abs_min_sub_min_le_max _ _ _ _).trans ?_
  rw [sub_self, abs_zero]
  exact max_le near (by norm_num)

theorem toNat_infinity (f : Format) (most : Nat) : f.toNat most f.infinity = most := by
  unfold toNat
  rw [magnitude_infinity]

theorem StandsFor.nonneg {bits : Nat} {x : ℚ} (h : f.StandsFor bits x) : 0 ≤ x := by
  obtain ⟨m, e, -, rfl⟩ := h
  positivity

end Format

/-! ## Doubles -/

theorem double_half {x : ℚ} (nonneg : 0 ≤ x) : binary64.half x ≤ (x + 1) / 2 ^ 53 := by
  have lowest : (2 : ℚ) ^ binary64.lowest ≤ 1 / 2 ^ 52 := by
    have le : (2 : ℚ) ^ binary64.lowest ≤ 2 ^ (-52 : Int) :=
      zpow_le_zpow_right₀ (by norm_num) (by decide)
    rwa [zpow_neg, ← one_div] at le
  have fraction : (2 : ℚ) ^ (binary64.fraction : Int) = 2 ^ 52 := rfl
  unfold Format.half
  rw [fraction]
  rcases max_choice ((2 : ℚ) ^ binary64.lowest) (x / 2 ^ 52) with least | free
  · rw [least]
    linarith
  · rw [free]
    linarith

/-- The double of a number is next to it, or infinite where the number is great. -/
inductive IsDoubleOf (x : ℚ) (bits : Nat) : Prop
  | near {y : ℚ} (stands : binary64.StandsFor bits y) (close : |y - x| ≤ (x + 1) / 2 ^ 53)
  | infinite (pattern : bits = binary64.infinity) (great : 2 ^ 100 ≤ x)

theorem isDoubleOf_of_rounds {bits : Nat} {x : ℚ} (rounds : binary64.Rounds bits x)
    (nonneg : 0 ≤ x) : IsDoubleOf x bits := by
  cases rounds with
  | near stands close => exact .near stands (close.trans (double_half nonneg))
  | infinite pattern great => exact .infinite pattern (great 1122 (by decide))

theorem isDoubleOf_nearest (num : Nat) {den : Nat} (pos : 0 < den) :
    IsDoubleOf (num / den) (binary64.nearest num den) :=
  isDoubleOf_of_rounds (binary64.rounds_nearest num pos (by decide)) (by positivity)

theorem isDoubleOf_scaled {bits : Nat} {x : ℚ} (stands : binary64.StandsFor bits x) (factor : Nat) :
    IsDoubleOf (x * factor) (binary64.scaled factor bits) :=
  isDoubleOf_of_rounds (Format.rounds_scaled stands factor (by decide))
    (mul_nonneg stands.nonneg (Nat.cast_nonneg _))

end Uptime.Number
