import Uptime.Proofs.Icmp.Output

/-!
# The round-trip time that `ping` gives

The output is read as the number that its leftmost time of a packet is, and if that is none, as the
mean of its leftmost summary (`read_eq_ok_iff`). Up to rounding that number of milliseconds is the
round-trip time (`near_ofMillis`), and exactly so with no more than six decimals (`ofMillis_exact`).
-/

namespace Uptime.Icmp.PingText

open Number (binary64 Decimal Denotes IsDecimal IsDoubleOf IsPlain)

/-- The time that `n / 10^k` milliseconds are read as. -/
def ofMillis (n k : Nat) : Duration := duration ((Decimal.finite false n (-k)).bits binary64)

/-! ## Rounding -/

/-- So many milliseconds in nanoseconds, as far as 64 bits hold them. -/
def held (x : ℚ) : ℚ := min (x * 10 ^ 6) (2 ^ 64 - 1)

theorem held_of_great {x : ℚ} (great : 2 ^ 64 - 1 ≤ x * 10 ^ 6) :
    held x = (18446744073709551615 : Nat) := by
  rw [held, min_eq_right great]
  norm_num

/-- Rounding to a double is hardly felt, be it done twice. -/
theorem near_held {x y z : ℚ} (nonneg : 0 ≤ x) (first : |y - x| ≤ (x + 1) / 2 ^ 53)
    (second : |z - y * 1000000| ≤ (y * 1000000 + 1) / 2 ^ 53) :
    |min z (18446744073709551615 : Nat) - held x| ≤ 1 / 4 + held x / 2 ^ 51 := by
  obtain ⟨lowY, highY⟩ := abs_le.1 first
  obtain ⟨lowZ, highZ⟩ := abs_le.1 second
  have most : ((18446744073709551615 : Nat) : ℚ) = 2 ^ 64 - 1 := by norm_num
  rw [most, held, abs_le]
  rcases min_cases z (2 ^ 64 - 1) with ⟨near, _⟩ | ⟨near, _⟩ <;>
    rcases min_cases (x * 10 ^ 6) (2 ^ 64 - 1) with ⟨given, _⟩ | ⟨given, _⟩ <;>
    rw [near, given] <;> constructor <;> linarith

theorem near_duration {millis : Nat} {x : ℚ} (nonneg : 0 ≤ x) (double : IsDoubleOf x millis) :
    |((duration millis).nanoseconds : ℚ) - held x| ≤ 3 / 4 + held x / 2 ^ 51 := by
  have nanos : (duration millis).nanoseconds =
      binary64.toNat 18446744073709551615 (binary64.scaled 1000000 millis) := rfl
  -- What is too great for a double is too great for 64 bits as well.
  have of_great : 2 ^ 64 - 1 ≤ x * 10 ^ 6 →
      (duration millis).nanoseconds = 18446744073709551615 →
        |((duration millis).nanoseconds : ℚ) - held x| ≤ 3 / 4 + held x / 2 ^ 51 := by
    intro great most
    rw [held_of_great great, most, sub_self, abs_zero]
    positivity
  cases double with
  | near read first =>
    cases Number.isDoubleOf_scaled read 1000000 with
    | near product second =>
      have whole := Number.Format.near_toNat 18446744073709551615 product
      have close := near_held nonneg first (by exact_mod_cast second)
      rw [nanos]
      refine (abs_sub_le _ _ _).trans ((add_le_add whole close).trans ?_)
      linarith
    | infinite pattern great =>
      obtain ⟨-, high⟩ := abs_le.1 first
      refine of_great ?_ ?_
      · norm_num at high great ⊢
        linarith
      · rw [nanos, pattern, Number.Format.toNat_infinity]
  | infinite pattern great =>
    refine of_great ?_ ?_
    · linarith
    · rw [nanos, pattern, Number.Format.scaled_infinity, Number.Format.toNat_infinity]

/-- The time that is read is off by three quarters of a nanosecond and one part in `2^51` at most.
-/
theorem near_ofMillis (n k : Nat) : |((ofMillis n k).nanoseconds : ℚ) - held (n / 10 ^ k)| ≤
    3 / 4 + held (n / 10 ^ k) / 2 ^ 51 := by
  have value : (n : ℚ) * 10 ^ (-k : Int) = n / 10 ^ k := by
    rw [zpow_neg, zpow_natCast, div_eq_mul_inv]
  have double := Decimal.isDoubleOf_bits n (-k)
  rw [value] at double
  exact near_duration (by positivity) double

/-- Up to six days a number of milliseconds with no more than six decimals is read exactly. -/
theorem ofMillis_exact {n k : Nat} (places : k ≤ 6) (short : n * 10 ^ (6 - k) < 2 ^ 49) :
    ofMillis n k = .ofNanos (n * 10 ^ (6 - k)) := by
  have near := near_ofMillis n k
  have whole : (n : ℚ) / 10 ^ k * 10 ^ 6 = ((n * 10 ^ (6 - k) : Nat) : ℚ) := by
    rw [← Nat.sub_add_cancel places, pow_add, Nat.sub_add_cancel places]
    push_cast
    field_simp
  have short : ((n * 10 ^ (6 - k) : Nat) : ℚ) < 2 ^ 49 := by exact_mod_cast short
  have fits : held (n / 10 ^ k) = (n * 10 ^ (6 - k) : Nat) := by
    rw [held, whole, min_eq_left]
    norm_num at short ⊢
    linarith
  rw [fits] at near
  generalize n * 10 ^ (6 - k) = nanos at *
  obtain ⟨low, high⟩ := abs_le.1 near
  have above : (nanos : ℚ) < (ofMillis n k).nanoseconds + 1 := by linarith
  have below : ((ofMillis n k).nanoseconds : ℚ) < nanos + 1 := by linarith
  refine Duration.ext_iff.2 (Nat.le_antisymm ?_ ?_)
  · exact Nat.le_of_lt_succ (by exact_mod_cast below)
  · exact Nat.le_of_lt_succ (by exact_mod_cast above)

/-! ## Reading -/

/-- The leftmost place of a text where there is something to read has a number, and that is the
time. -/
def Gives (reads : List Char → List Char → Prop) (text : List Char) (d : Duration) : Prop :=
  ∃ run n k, Leftmost reads text run ∧ Denotes run n k ∧ d = ofMillis n k

theorem value?_eq_some_iff {run : List Char} (plain : IsPlain run) {bits : Nat} :
    value? run = some bits ↔
      ∃ n k, Denotes run n k ∧ bits = (Decimal.finite false n (-k)).bits binary64 := by
  rw [value?, Option.map_eq_some_iff]
  constructor
  · rintro ⟨d, read, rfl⟩
    obtain ⟨n, k, denotes, rfl⟩ := (Decimal.read?_eq_some_iff plain).1 read
    exact ⟨n, k, denotes, rfl⟩
  · rintro ⟨n, k, denotes, rfl⟩
    exact ⟨_, (Decimal.read?_eq_some_iff plain).2 ⟨n, k, denotes, rfl⟩, rfl⟩

/-- What the leftmost reading of one kind comes to. -/
theorem gives_iff {read : List Char → Option (List Char)} {reads : List Char → List Char → Prop}
    (found : ∀ text run, leftmost? read text = some run ↔ Leftmost reads text run)
    (numeral : ∀ {cs run}, reads cs run → IsNumeral run) {text : List Char} {d : Duration} :
    (∃ bits, (leftmost? read text).bind value? = some bits ∧ duration bits = d) ↔
      Gives reads text d := by
  constructor
  · rintro ⟨bits, value, rfl⟩
    obtain ⟨run, first, value⟩ := Option.bind_eq_some_iff.1 value
    have leftmost := (found text run).1 first
    obtain ⟨here, now⟩ := leftmost.reads
    obtain ⟨n, k, denotes, rfl⟩ := (value?_eq_some_iff (numeral now).2).1 value
    exact ⟨run, n, k, leftmost, denotes, rfl⟩
  · rintro ⟨run, n, k, leftmost, denotes, rfl⟩
    obtain ⟨here, now⟩ := leftmost.reads
    have value := (value?_eq_some_iff (numeral now).2).2 ⟨n, k, denotes, rfl⟩
    exact ⟨_, Option.bind_eq_some_iff.2 ⟨run, (found text run).2 leftmost, value⟩, rfl⟩

/-- Something is given just if the leftmost reading is a number. -/
theorem exists_gives_iff {reads : List Char → List Char → Prop}
    (numeral : ∀ {cs run}, reads cs run → IsNumeral run) {text : List Char} :
    (∃ d, Gives reads text d) ↔ ∃ run, Leftmost reads text run ∧ IsDecimal run := by
  constructor
  · rintro ⟨d, run, n, k, leftmost, denotes, -⟩
    exact ⟨run, leftmost, denotes.isDecimal⟩
  · rintro ⟨run, leftmost, decimal⟩
    obtain ⟨here, now⟩ := leftmost.reads
    obtain ⟨n, k, denotes⟩ := (Number.isDecimal_iff (numeral now).2).1 decimal
    exact ⟨_, run, n, k, leftmost, denotes, rfl⟩

theorem gives_packetTime_iff {text : List Char} {d : Duration} :
    (∃ bits, (leftmost? packetTime? text).bind value? = some bits ∧ duration bits = d) ↔
      Gives PacketTime text d :=
  gives_iff leftmost?_packetTime? PacketTime.isNumeral

theorem gives_mean_iff {text : List Char} {d : Duration} :
    (∃ bits, (leftmost? mean? text).bind value? = some bits ∧ duration bits = d) ↔
      Gives Mean text d :=
  gives_iff leftmost?_mean? Mean.isNumeral

/-- The time of a packet is taken where it is a number, and the mean of a summary elsewhere. -/
theorem read_eq_ok_iff {output : String} {d : Duration} : read output = .ok d ↔
    Gives PacketTime output.toList d ∨
      (∀ e, ¬Gives PacketTime output.toList e) ∧ Gives Mean output.toList d := by
  rw [← gives_packetTime_iff, ← gives_mean_iff]
  simp only [← gives_packetTime_iff]
  unfold read millis?
  cases (leftmost? packetTime? output.toList).bind value? with
  | some bits => simp
  | none => cases (leftmost? mean? output.toList).bind value? <;> simp

theorem read_eq_error_iff {output : String} {e : ProbeError} : read output = .error e ↔
    (∀ d, read output ≠ .ok d) ∧ e = .command ("failed to parse ping output: " ++ output) := by
  unfold read
  split
  · simp
  · simp [eq_comm]

/-- How an output is understood. -/
structure Understands (output : String) : Prop where
  /-- It is read just if the leftmost time of a packet or else the leftmost mean is a number. -/
  succeeds : (∃ d, read output = .ok d) ↔
    (∃ run, Leftmost PacketTime output.toList run ∧ IsDecimal run) ∨
      ∃ run, Leftmost Mean output.toList run ∧ IsDecimal run
  /-- The time of a packet goes before the mean. -/
  packet : ∀ run, Leftmost PacketTime output.toList run → IsDecimal run →
    ∃ n k, Denotes run n k ∧ read output = .ok (ofMillis n k)
  /-- Where the leftmost time of a packet is no number, the summary alone decides. -/
  summary : (∀ run, Leftmost PacketTime output.toList run → ¬IsDecimal run) → ∀ d,
    read output = .ok d ↔
      ∃ run n k, Leftmost Mean output.toList run ∧ Denotes run n k ∧ d = ofMillis n k
  failure : ∀ e, read output = .error e →
    e = .command ("failed to parse ping output: " ++ output)

theorem understands (output : String) : Understands output := by
  constructor
  case succeeds =>
    rw [← exists_gives_iff PacketTime.isNumeral, ← exists_gives_iff Mean.isNumeral]
    simp only [read_eq_ok_iff]
    constructor
    · rintro ⟨d, packet | ⟨-, mean⟩⟩
      · exact .inl ⟨d, packet⟩
      · exact .inr ⟨d, mean⟩
    · rintro (⟨d, packet⟩ | ⟨d, mean⟩)
      · exact ⟨d, .inl packet⟩
      · by_cases packet : ∃ e, Gives PacketTime output.toList e
        · obtain ⟨e, packet⟩ := packet
          exact ⟨e, .inl packet⟩
        · exact ⟨d, .inr ⟨not_exists.1 packet, mean⟩⟩
  case packet =>
    intro run leftmost decimal
    obtain ⟨here, now⟩ := leftmost.reads
    obtain ⟨n, k, denotes⟩ := (Number.isDecimal_iff now.isNumeral.2).1 decimal
    exact ⟨n, k, denotes, read_eq_ok_iff.2 (.inl ⟨run, n, k, leftmost, denotes, rfl⟩)⟩
  case summary =>
    intro malformed d
    have none : ∀ e, ¬Gives PacketTime output.toList e := by
      rintro e ⟨run, n, k, leftmost, denotes, -⟩
      exact malformed run leftmost denotes.isDecimal
    rw [read_eq_ok_iff, or_iff_right (none d), and_iff_right none]
    rfl
  case failure =>
    intro e failed
    exact (read_eq_error_iff.1 failed).2

/-- Of an output the leftmost time of a packet is read if it is a number, else the leftmost mean,
and the time that is read is that number up to rounding. -/
theorem read_understands (output : String) : Understands output ∧
    ∀ n k : Nat, |((ofMillis n k).nanoseconds : ℚ) - held (n / 10 ^ k)| ≤
      3 / 4 + held (n / 10 ^ k) / 2 ^ 51 := by
  constructor
  · exact understands output
  · exact near_ofMillis

/-- The first time in this output is no number. -/
def malformed : String := "time=1.2.3 ms, time=4 ms\nrtt min/avg/max/mdev = 1.1/2.25/3.3/0.4 ms"

/-- A later time of a packet is not tried. -/
theorem read_understands_malformed :
    (∀ run, Leftmost PacketTime malformed.toList run → ¬IsDecimal run) ∧
      read malformed = .ok (.ofNanos 2250000) := by
  have packet : leftmost? packetTime? malformed.toList = some "1.2.3".toList := by decide +kernel
  have mean : leftmost? mean? malformed.toList = some "2.25".toList := by decide +kernel
  have none : ∀ run, Leftmost PacketTime malformed.toList run → ¬IsDecimal run := by
    intro run leftmost decimal
    have first := packet.symm.trans ((leftmost?_packetTime? _ _).2 leftmost)
    obtain rfl := Option.some.inj first
    exact absurd decimal.point (by decide)
  have denotes : Denotes "2.25".toList 225 2 := by
    have digits : Number.IsRun (['2'] ++ ['2', '5']) := List.all_eq_true.1 (by decide)
    exact .point digits (List.cons_ne_nil _ _)
  obtain ⟨understands, -⟩ := read_understands malformed
  refine ⟨none, (understands.summary none _).2 ⟨_, 225, 2, ?_, denotes, ?_⟩⟩
  · exact (leftmost?_mean? _ _).1 mean
  · exact (ofMillis_exact (n := 225) (k := 2) (by decide) (by decide)).symm

end Uptime.Icmp.PingText
