import Uptime.Number.Binary

/-!
# Doubles by their bits

What is read off the bits of a double agrees with the arithmetic of doubles: `Number.isNaN` is what
the double itself says (`isNaN_eq`), a double that is a number equals itself (`beq_self`), and the
two patterns that `Number.isZero` accepts equal zero (`zero_beq`).
-/

namespace Uptime.Number

open Float.Model (UnpackedFloat)
open Float.Model.UnpackedFloat (unpack unpackMantissa unpackExponent)

/-- The bits of the stored fraction. -/
def fractionBits (b : BitVec 64) : BitVec 52 := @unpackMantissa Float.Model.Format.binary64 b

/-- The bits of the exponent. -/
def exponentBits (b : BitVec 64) : BitVec 11 := @unpackExponent Float.Model.Format.binary64 b

theorem toNat_fractionBits (b : BitVec 64) :
    (fractionBits b).toNat = b.toNat % 4503599627370496 := by
  simp [fractionBits, unpackMantissa]

theorem toNat_exponentBits (b : BitVec 64) :
    (exponentBits b).toNat = b.toNat / 4503599627370496 % 2048 := by
  simp [exponentBits, unpackExponent, Nat.shiftRight_eq_div_pow]

theorem fractionBits_eq_zero (b : BitVec 64) :
    fractionBits b = 0#52 ↔ b.toNat % 4503599627370496 = 0 := by
  rw [← toNat_fractionBits, ← BitVec.toNat_inj]
  rfl

theorem exponentBits_eq_last (b : BitVec 64) :
    exponentBits b = -1#11 ↔ b.toNat / 4503599627370496 % 2048 = 2047 := by
  rw [← toNat_exponentBits, ← BitVec.toNat_inj]
  rfl

theorem exponentBits_eq_zero (b : BitVec 64) :
    exponentBits b = 0#11 ↔ b.toNat / 4503599627370496 % 2048 = 0 := by
  rw [← toNat_exponentBits, ← BitVec.toNat_inj]
  rfl

/-- A double is zero if all bits but the sign are. -/
theorem unpack_zero {b : BitVec 64} (exponent : exponentBits b = 0#11)
    (fraction : fractionBits b = 0#52) : ∃ s, unpack .binary64 b = .zero s := by
  have low : ¬exponentBits b = -1#11 := by
    rw [exponent]
    decide
  exact ⟨_, (if_neg low).trans ((if_pos exponent).trans (dif_pos fraction))⟩

/-- A double whose exponent is not the greatest is finite. -/
theorem unpack_finite {b : BitVec 64} (low : ¬exponentBits b = -1#11) :
    (∃ s, unpack .binary64 b = .zero s) ∨ ∃ s m e pos, unpack .binary64 b = .finite s m e pos := by
  by_cases least : exponentBits b = 0#11
  · by_cases zero : fractionBits b = 0#52
    · exact .inl (unpack_zero least zero)
    · exact .inr ⟨_, _, _, _, (if_neg low).trans ((if_pos least).trans (dif_neg zero))⟩
  · exact .inr ⟨_, _, _, _, (if_neg low).trans (if_neg least)⟩

/-- A double is no number if its exponent is the greatest and its fraction is not zero. -/
theorem isNaN_unpack (b : BitVec 64) :
    (unpack .binary64 b).isNaN = true ↔ exponentBits b = -1#11 ∧ ¬fractionBits b = 0#52 := by
  by_cases last : exponentBits b = -1#11
  · by_cases zero : fractionBits b = 0#52
    · have infinite : ∃ s, unpack .binary64 b = .infinity s :=
        ⟨_, (if_pos last).trans (if_pos zero)⟩
      obtain ⟨s, infinite⟩ := infinite
      rw [infinite]
      exact iff_of_false Bool.false_ne_true fun both => both.2 zero
    · have none : unpack .binary64 b = .notANumber := (if_pos last).trans (if_neg zero)
      rw [none]
      exact iff_of_true rfl ⟨last, zero⟩
  · rcases unpack_finite last with ⟨s, zero⟩ | ⟨s, m, e, pos, finite⟩
    · rw [zero]
      exact iff_of_false Bool.false_ne_true fun both => last both.1
    · rw [finite]
      exact iff_of_false Bool.false_ne_true fun both => last both.1

/-- The bits tell numbers from what is no number. -/
theorem isNaN_eq (x : Float) : isNaN x = x.isNaN := by
  have double : x.isNaN = (unpack .binary64 x.toBits.toBitVec).isNaN := rfl
  have bits : x.toBits.toBitVec.toNat = x.toBits.toNat := rfl
  have read : isNaN x = true ↔ x.toBits.toNat / 4503599627370496 % 2048 = 2047 ∧
      ¬x.toBits.toNat % 4503599627370496 = 0 := by
    have fraction : x.toBits.toNat % 9223372036854775808 % Nat.pow 2 52 =
        x.toBits.toNat % 4503599627370496 :=
      Nat.mod_mod_of_dvd _ ⟨2048, rfl⟩
    have exponent : x.toBits.toNat % 9223372036854775808 / Nat.pow 2 52 =
        x.toBits.toNat / 4503599627370496 % 2048 := by
      show x.toBits.toNat % 9223372036854775808 / 4503599627370496 = _
      omega
    have last : Nat.pow 2 11 - 1 = 2047 := rfl
    unfold isNaN magnitude Format.magnitude
    simp only [binary64, fraction, exponent, last]
    by_cases greatest : x.toBits.toNat / 4503599627370496 % 2048 = 2047
    · by_cases zero : x.toBits.toNat % 4503599627370496 = 0 <;> simp [greatest, zero]
    · by_cases least : x.toBits.toNat / 4503599627370496 % 2048 = 0 <;> simp [greatest, least]
  rw [Bool.eq_iff_iff, read, double, isNaN_unpack, exponentBits_eq_last, fractionBits_eq_zero, bits]

theorem compare_self {u : UnpackedFloat} (h : u.isNaN = false) : u.compare u = some .eq := by
  cases u with
  | infinity s => cases s <;> rfl
  | notANumber => cases h
  | zero s => rfl
  | finite s m e pos =>
    have same : (Ord.compare e e).then (Ord.compare m m) = .eq := by
      rw [Std.ReflOrd.compare_self, Std.ReflOrd.compare_self]
      rfl
    cases s with
    | positive => exact congrArg some same
    | negative => exact congrArg (fun o => some o.swap) same

/-- A number equals itself. -/
theorem beq_self {x : Float} (h : x.isNaN = false) : (x == x) = true := by
  have number : x.toModel.unpack.isNaN = false := h
  show (x.toModel.unpack.compare x.toModel.unpack == some .eq) = true
  rw [compare_self number]
  rfl

/-- Zero equals both zeros. -/
theorem zero_beq {x : Float} (h : isZero x = true) : ((0 : Float) == x) = true := by
  have bits : x.toBits.toNat % 9223372036854775808 = 0 := beq_iff_eq.1 h
  have exponent : exponentBits x.toBits.toBitVec = 0#11 := (exponentBits_eq_zero _).2 (by
    show x.toBits.toNat / 4503599627370496 % 2048 = 0
    omega)
  have fraction : fractionBits x.toBits.toBitVec = 0#52 := (fractionBits_eq_zero _).2 (by
    show x.toBits.toNat % 4503599627370496 = 0
    omega)
  obtain ⟨s, zero⟩ := unpack_zero exponent fraction
  have zero : x.toModel.unpack = .zero s := zero
  show ((0 : Float).toModel.unpack.compare x.toModel.unpack == some .eq) = true
  rw [zero]
  cases s <;> decide

end Uptime.Number
