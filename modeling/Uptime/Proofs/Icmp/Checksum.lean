import Mathlib
import Uptime.Icmp.Packet

/-!
# The checksum of a message

Adding the carries of a sum to its low sixteen bits keeps it modulo `65535`, and of the two numbers
that stand for zero there it takes the higher one, unless the sum is zero itself. So the words of a
message with its checksum in place add up to a multiple of `65535`, and one changed word is noticed
unless one zero takes the place of the other (`checksum_verifies`).
-/

namespace Uptime.Icmp

/-- The words of a message, each of two bytes with the high one first. A zero byte is added to an
odd last one. -/
def words : List UInt8 → List UInt16
  | [] => []
  | [hi] => [word hi 0]
  | hi :: lo :: rest => word hi lo :: words rest

/-- The sum of words, however large. -/
def total (ws : List UInt16) : Nat := (ws.map UInt16.toNat).sum

/-! ## Words -/

theorem toNat_word (hi lo : UInt8) : (word hi lo).toNat = hi.toNat * 256 + lo.toNat := by
  have high := hi.toNat_lt
  have low := lo.toNat_lt
  rw [word, UInt16.toNat_ofNat']
  omega

/-- The two bytes of a number make the number. -/
theorem word_bytes (n : UInt16) :
    word (UInt8.ofNat (n.toNat / 256)) (UInt8.ofNat (n.toNat % 256)) = n := by
  have bound := n.toNat_lt
  apply UInt16.toNat.inj
  rw [toNat_word, UInt8.toNat_ofNat', UInt8.toNat_ofNat']
  omega

@[simp] theorem total_cons (w : UInt16) (ws : List UInt16) :
    total (w :: ws) = w.toNat + total ws := by
  simp [total]

theorem length_words (data : List UInt8) : (words data).length = (data.length + 1) / 2 := by
  induction data using words.induct with
  | case1 => rfl
  | case2 hi => simp [words]
  | case3 hi lo rest ih =>
    simp only [words, List.length_cons, ih]
    omega

theorem wordSum_eq_total (data : List UInt8) : wordSum data = total (words data) := by
  induction data using words.induct with
  | case1 => rfl
  | case2 hi => simp [wordSum, words, total, toNat_word]
  | case3 hi lo rest ih => simp only [wordSum, words, total_cons, toNat_word, ih]

theorem total_le (ws : List UInt16) : total ws ≤ ws.length * 65535 := by
  induction ws with
  | nil => exact Nat.le_refl 0
  | cons w ws ih =>
    have bound := w.toNat_lt
    simp only [total_cons, List.length_cons]
    omega

/-- The sum of so many words fits in 32 bits. -/
theorem total_lt {ws : List UInt16} (few : ws.length ≤ 65537) : total ws < 4294967296 := by
  have bound := total_le ws
  omega

/-- A word that is put in the place of another one is added, and the other one is taken away. -/
theorem total_set {ws : List UInt16} {i : Nat} {old : UInt16} (place : ws[i]? = some old)
    (w : UInt16) : total (ws.set i w) + old.toNat = total ws + w.toNat := by
  induction ws generalizing i with
  | nil => simp at place
  | cons v ws ih =>
    cases i with
    | zero =>
      simp only [List.getElem?_cons_zero, Option.some.injEq] at place
      simp only [List.set_cons_zero, total_cons, place]
      omega
    | succ i =>
      simp only [List.getElem?_cons_succ] at place
      have rest := ih place
      simp only [List.set_cons_succ, total_cons]
      omega

/-! ## Carries -/

/-- One round of adding the carries of a sum to its low sixteen bits. -/
def carry (n : Nat) : Nat := n % 65536 + n / 65536

theorem fold_of_lt {n : Nat} (h : n < 65536) : fold n = n := by
  rw [fold, if_pos h]

theorem fold_carry {n : Nat} (h : 65536 ≤ n) : fold n = fold (carry n) := by
  rw [fold, if_neg (by omega), carry]

theorem fold_mod (n : Nat) : fold n % 65535 = n % 65535 := by
  fun_induction fold n with
  | case1 n h => rfl
  | case2 n h ih => omega

theorem fold_pos {n : Nat} (h : 0 < n) : 0 < fold n := by
  fun_induction fold n with
  | case1 n _ => exact h
  | case2 n large ih =>
    apply ih
    omega

/-- Two rounds are enough for a sum of 32 bits, and no round is made without a carry. -/
theorem exists_rounds {n : Nat} (h : n < 4294967296) :
    ∃ rounds ≤ 2, fold n = carry^[rounds] n ∧ ∀ k < rounds, 65536 ≤ carry^[k] n := by
  by_cases none : n < 65536
  · exact ⟨0, by omega, fold_of_lt none, by simp⟩
  by_cases once : carry n < 65536
  · refine ⟨1, by omega, ?_, ?_⟩
    · rw [fold_carry (by omega), fold_of_lt once]
      rfl
    · intro k hk
      obtain rfl : k = 0 := by omega
      show 65536 ≤ n
      omega
  · have twice : carry (carry n) < 65536 := by
      simp only [carry] at once ⊢
      omega
    refine ⟨2, by omega, ?_, ?_⟩
    · rw [fold_carry (by omega), fold_carry (by omega), fold_of_lt twice]
      rfl
    · intro k hk
      obtain rfl | rfl : k = 0 ∨ k = 1 := by omega
      · show 65536 ≤ n
        omega
      · show 65536 ≤ carry n
        omega

/-- All zeros of the arithmetic but zero itself come to `65535`. -/
theorem fold_eq_last_iff (n : Nat) : fold n = 65535 ↔ 0 < n ∧ 65535 ∣ n := by
  have low := fold_lt n
  have rest := fold_mod n
  constructor
  · intro last
    refine ⟨Nat.pos_of_ne_zero ?_, by omega⟩
    rintro rfl
    rw [fold_of_lt (by omega)] at last
    omega
  · rintro ⟨pos, multiple⟩
    have some := fold_pos pos
    omega

/-! ## The checksum of few words -/

variable {data : List UInt8}

theorem toNat_checksum (few : (words data).length ≤ 65537) :
    (checksum data).toNat = 65535 - fold (total (words data)) := by
  rw [checksum, wordSum_eq_total, Nat.mod_eq_of_lt (total_lt few), UInt16.toNat_ofNat']
  omega

theorem checksum_eq_zero_iff (few : (words data).length ≤ 65537) :
    checksum data = 0 ↔ 0 < total (words data) ∧ 65535 ∣ total (words data) := by
  have value := toNat_checksum few
  have low := fold_lt (total (words data))
  rw [← fold_eq_last_iff]
  constructor
  · intro zero
    rw [zero, UInt16.toNat_zero] at value
    omega
  · intro last
    apply UInt16.toNat.inj
    rw [value, last]
    rfl

/-- The checksum makes the sum a multiple of `65535`, but not zero. -/
theorem total_add_checksum (few : (words data).length ≤ 65537) :
    0 < total (words data) + (checksum data).toNat ∧
      65535 ∣ total (words data) + (checksum data).toNat := by
  have value := toNat_checksum few
  have low := fold_lt (total (words data))
  have rest := fold_mod (total (words data))
  constructor
  · apply Nat.pos_of_ne_zero
    intro none
    have zero : total (words data) = 0 := by omega
    rw [zero, fold_of_lt (by omega)] at value
    omega
  · omega

/-- If one word of a message that verifies is changed, the sum changes modulo `65535`, unless one
zero takes the place of the other. -/
theorem checksum_ne_zero_of_set {changed : List UInt8} {i : Nat} {old new : UInt16}
    (few : (words data).length ≤ 65537) (verifies : checksum data = 0)
    (place : (words data)[i]? = some old) (set : words changed = (words data).set i new)
    (differs : new ≠ old) (up : ¬(old = 0 ∧ new = 65535)) (down : ¬(old = 65535 ∧ new = 0)) :
    checksum changed ≠ 0 := by
  have few' : (words changed).length ≤ 65537 := by rwa [set, List.length_set]
  obtain ⟨-, multiple⟩ := (checksum_eq_zero_iff few).1 verifies
  have sum : total (words changed) + old.toNat = total (words data) + new.toNat := by
    rw [set, total_set place]
  have oldBound := old.toNat_lt
  have newBound := new.toNat_lt
  have apart : new.toNat ≠ old.toNat := fun h => differs (UInt16.toNat.inj h)
  have notUp : ¬(old.toNat = 0 ∧ new.toNat = 65535) := fun h =>
    up ⟨UInt16.toNat.inj h.1, UInt16.toNat.inj h.2⟩
  have notDown : ¬(old.toNat = 65535 ∧ new.toNat = 0) := fun h =>
    down ⟨UInt16.toNat.inj h.1, UInt16.toNat.inj h.2⟩
  intro zero
  obtain ⟨-, multiple'⟩ := (checksum_eq_zero_iff few').1 zero
  omega

/-! ## Messages with their checksum in place -/

/-- A message with its checksum in the place of its second word. -/
def sealed (data : List UInt8) : List UInt8 :=
  data.take 2 ++ bytes16 (checksum data) ++ data.drop 4

/-- A message with a second word begins with the bytes of two words. -/
theorem exists_cons_of_getElem? {b2 b3 : UInt8} (h2 : data[2]? = some b2)
    (h3 : data[3]? = some b3) : ∃ b0 b1 rest, data = b0 :: b1 :: b2 :: b3 :: rest := by
  match data with
  | [] | [_] | [_, _] | [_, _, _] => simp at h3
  | b0 :: b1 :: c2 :: c3 :: rest =>
    simp only [List.getElem?_cons_succ, List.getElem?_cons_zero, Option.some.injEq] at h2 h3
    exact ⟨b0, b1, rest, by rw [h2, h3]⟩

section Blank

variable (blank2 : data[2]? = some 0) (blank3 : data[3]? = some 0)

include blank2 blank3

theorem words_sealed : words (sealed data) = (words data).set 1 (checksum data) ∧
    (words data)[1]? = some 0 := by
  obtain ⟨b0, b1, rest, rfl⟩ := exists_cons_of_getElem? blank2 blank3
  exact ⟨by simp [sealed, bytes16, words, word_bytes], rfl⟩

theorem length_words_sealed : (words (sealed data)).length = (words data).length := by
  rw [(words_sealed blank2 blank3).1, List.length_set]

theorem total_sealed :
    total (words (sealed data)) = total (words data) + (checksum data).toNat := by
  obtain ⟨put, blank⟩ := words_sealed blank2 blank3
  have sum := total_set blank (checksum data)
  rwa [← put, UInt16.toNat_zero, Nat.add_zero] at sum

/-- A message with its checksum in place verifies. -/
theorem checksum_sealed (few : (words data).length ≤ 65537) : checksum (sealed data) = 0 := by
  have few' : (words (sealed data)).length ≤ 65537 := by
    rwa [length_words_sealed blank2 blank3]
  rw [checksum_eq_zero_iff few', total_sealed blank2 blank3]
  exact total_add_checksum few

end Blank

/-- What the checksum of a message comes to. -/
structure Checksummed (data : List UInt8) : Prop where
  /-- The words are added one after the other in 32 bits. -/
  fits : ∀ k, total ((words data).take k) < 4294967296
  /-- The carries are used up after two rounds at most, and the checksum completes what is left. -/
  rounds : ∃ rounds ≤ 2, (∀ k < rounds, 65536 ≤ carry^[k] (total (words data))) ∧
    carry^[rounds] (total (words data)) + (checksum data).toNat = 65535
  /-- With the checksum the words add up to a multiple of `65535` that is not zero. -/
  completes : 0 < total (words data) + (checksum data).toNat ∧
    65535 ∣ total (words data) + (checksum data).toNat
  /-- In the place of a blank second word the checksum makes the message verify. -/
  verifies : data[2]? = some 0 → data[3]? = some 0 → checksum (sealed data) = 0
  /-- Then no word can be changed without notice, unless one zero takes the place of the other. -/
  notices : data[2]? = some 0 → data[3]? = some 0 →
    ∀ (i : Nat) (old new : UInt16) (changed : List UInt8),
      (words (sealed data))[i]? = some old → words changed = (words (sealed data)).set i new →
        new ≠ old → ¬(old = 0 ∧ new = 65535) → ¬(old = 65535 ∧ new = 0) → checksum changed ≠ 0

/-- Up to the length at which the sum could leave 32 bits, the checksum is the complement of the
one's complement sum, and a message with its checksum in place tells when a word was changed. -/
theorem checksum_verifies (short : data.length ≤ 131074) : Checksummed data := by
  have few : (words data).length ≤ 65537 := by
    rw [length_words]
    omega
  constructor
  case fits =>
    intro k
    apply total_lt
    exact (List.length_take_le' k _).trans few
  case rounds =>
    obtain ⟨rounds, atMost, folded, each⟩ := exists_rounds (total_lt few)
    refine ⟨rounds, atMost, each, ?_⟩
    have low := fold_lt (total (words data))
    rw [← folded, toNat_checksum few]
    omega
  case completes => exact total_add_checksum few
  case verifies =>
    intro blank2 blank3
    exact checksum_sealed blank2 blank3 few
  case notices =>
    intro blank2 blank3 i old new changed place set differs up down
    have few' : (words (sealed data)).length ≤ 65537 := by
      rwa [length_words_sealed blank2 blank3]
    have verified := checksum_sealed blank2 blank3 few
    exact checksum_ne_zero_of_set few' verified place set differs up down

/-- The eight bytes that a request begins with, without their checksum. -/
def blankHeader : List UInt8 := [8, 0, 0, 0, 18, 52, 0, 1]

/-- A changed sequence does not pass for the right one. -/
theorem checksum_verifies_header : blankHeader.length ≤ 131074 ∧
    checksum (sealed blankHeader) = 0 ∧ checksum ((sealed blankHeader).set 7 2) ≠ 0 := by
  have short : blankHeader.length ≤ 131074 := by decide
  have all := checksum_verifies short
  refine ⟨short, all.verifies rfl rfl, ?_⟩
  exact all.notices rfl rfl 3 1 2 _ rfl rfl (by decide) (by decide) (by decide)

end Uptime.Icmp
