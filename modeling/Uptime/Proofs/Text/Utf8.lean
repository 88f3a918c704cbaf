import Mathlib.Tactic.SplitIfs
import Uptime.Proofs.Json.Strings
import Uptime.Text.Utf8

/-!
# The bytes that are UTF-8

A character is encoded by one to four bytes (`Sequence`). Bytes are read as the characters whose
encodings they are, one after the other, and refused if they are none such
(`decode?_eq_some_iff`).
-/

namespace Uptime.Text.Utf8

open String (utf8EncodeChar)

/-! ## Sequences -/

/-- A byte that stands after the first one of a sequence. -/
def Continues (x : UInt8) : Prop := 128 ≤ x.toNat ∧ x.toNat ≤ 191

/-- A byte that stands after `b`, the first one of three or four. What is left out would be longer
than it has to be (after 224 and 240), half a surrogate pair (after 237) or no character (after
244). -/
def Second (b x : UInt8) : Prop :=
  Continues x ∧ (b.toNat = 224 → 160 ≤ x.toNat) ∧ (b.toNat = 240 → 144 ≤ x.toNat) ∧
    (b.toNat = 237 → x.toNat ≤ 159) ∧ (b.toNat = 244 → x.toNat ≤ 143)

/-- The well-formed sequences of bytes and the characters that they encode. -/
inductive Sequence : List UInt8 → Char → Prop
  | one {b : UInt8} (lead : b.toNat < 128) : Sequence [b] (Char.ofNat b.toNat)
  | two {b x : UInt8} (lead : 194 ≤ b.toNat ∧ b.toNat < 224) (second : Continues x) :
    Sequence [b, x] (Char.ofNat (b.toNat % 32 * 64 + x.toNat % 64))
  | three {b x y : UInt8} (lead : 224 ≤ b.toNat ∧ b.toNat < 240)
    (second : Second b x) (third : Continues y) :
    Sequence [b, x, y] (Char.ofNat ((b.toNat % 16 * 64 + x.toNat % 64) * 64 + y.toNat % 64))
  | four {b x y z : UInt8} (lead : 240 ≤ b.toNat ∧ b.toNat < 245)
    (second : Second b x) (third : Continues y) (fourth : Continues z) :
    Sequence [b, x, y, z] (Char.ofNat
      (((b.toNat % 8 * 64 + x.toNat % 64) * 64 + y.toNat % 64) * 64 + z.toNat % 64))

variable {b : UInt8} {bs rest : List UInt8} {c : Char}

/-- The encoding of a character by its number. -/
theorem encode_ofNat {v : Nat} (valid : v.isValidChar) : utf8EncodeChar (Char.ofNat v) =
    if v ≤ 127 then [UInt8.ofNat v]
    else if v ≤ 2047 then [UInt8.ofNat (v / 64 % 32 + 192), UInt8.ofNat (v % 64 + 128)]
    else if v ≤ 65535 then [UInt8.ofNat (v / 4096 % 16 + 224), UInt8.ofNat (v / 64 % 64 + 128),
      UInt8.ofNat (v % 64 + 128)]
    else [UInt8.ofNat (v / 262144 % 8 + 240), UInt8.ofNat (v / 4096 % 64 + 128),
      UInt8.ofNat (v / 64 % 64 + 128), UInt8.ofNat (v % 64 + 128)] := by
  have value : (Char.ofNat v).val.toNat = v := Json.toNat_ofNat valid
  rw [utf8EncodeChar, value]

/-- A byte is made from the number that it is. -/
theorem ofNat_eq {n : Nat} (h : n = b.toNat) : UInt8.ofNat n = b := by
  rw [h, UInt8.ofNat_toNat]

/-- A sequence is the encoding of its character. -/
theorem Sequence.encode (h : Sequence bs c) : utf8EncodeChar c = bs := by
  cases h with
  | @one b lead =>
    rw [encode_ofNat (by unfold Nat.isValidChar; omega), if_pos (by omega), UInt8.ofNat_toNat]
  | @two b x lead second =>
    unfold Continues at second
    rw [encode_ofNat (by unfold Nat.isValidChar; omega), if_neg (by omega), if_pos (by omega),
      ofNat_eq (b := b) (by omega), ofNat_eq (b := x) (by omega)]
  | @three b x y lead second third =>
    unfold Second Continues at second
    unfold Continues at third
    rw [encode_ofNat (by unfold Nat.isValidChar; omega), if_neg (by omega), if_neg (by omega),
      if_pos (by omega), ofNat_eq (b := b) (by omega), ofNat_eq (b := x) (by omega),
      ofNat_eq (b := y) (by omega)]
  | @four b x y z lead second third fourth =>
    unfold Second Continues at second
    unfold Continues at third fourth
    rw [encode_ofNat (by unfold Nat.isValidChar; omega), if_neg (by omega), if_neg (by omega),
      if_neg (by omega), ofNat_eq (b := b) (by omega), ofNat_eq (b := x) (by omega),
      ofNat_eq (b := y) (by omega), ofNat_eq (b := z) (by omega)]

theorem exists_byte {n : Nat} (h : n < 256) : ∃ b : UInt8, b.toNat = n :=
  ⟨UInt8.ofNat n, UInt8.toNat_ofNat_of_lt' h⟩

/-- Every character has a sequence. -/
theorem exists_sequence (c : Char) : ∃ bs, Sequence bs c := by
  have valid : c.toNat.isValidChar := c.valid
  unfold Nat.isValidChar at valid
  rw [← Char.ofNat_toNat c]
  rcases Nat.lt_or_ge c.toNat 128 with ascii | above
  · obtain ⟨b, hb⟩ := exists_byte (n := c.toNat) (by omega)
    rw [← hb]
    exact ⟨_, .one (by omega)⟩
  obtain ⟨z, hz⟩ := exists_byte (n := c.toNat % 64 + 128) (by omega)
  have last : Continues z := by unfold Continues; omega
  rcases Nat.lt_or_ge c.toNat 2048 with short | above
  · obtain ⟨b, hb⟩ := exists_byte (n := c.toNat / 64 + 192) (by omega)
    have number : c.toNat = b.toNat % 32 * 64 + z.toNat % 64 := by omega
    rw [number]
    exact ⟨_, .two (by omega) last⟩
  obtain ⟨y, hy⟩ := exists_byte (n := c.toNat / 64 % 64 + 128) (by omega)
  rcases Nat.lt_or_ge c.toNat 65536 with small | above
  · obtain ⟨b, hb⟩ := exists_byte (n := c.toNat / 4096 + 224) (by omega)
    have number : c.toNat = (b.toNat % 16 * 64 + y.toNat % 64) * 64 + z.toNat % 64 := by omega
    have second : Second b y := by unfold Second Continues; omega
    rw [number]
    exact ⟨_, .three (by omega) second last⟩
  · obtain ⟨b, hb⟩ := exists_byte (n := c.toNat / 262144 + 240) (by omega)
    obtain ⟨x, hx⟩ := exists_byte (n := c.toNat / 4096 % 64 + 128) (by omega)
    have number : c.toNat =
        ((b.toNat % 8 * 64 + x.toNat % 64) * 64 + y.toNat % 64) * 64 + z.toNat % 64 := by omega
    have second : Second b x := by unfold Second Continues; omega
    have third : Continues y := by unfold Continues; omega
    rw [number]
    exact ⟨_, .four (by omega) second third last⟩

/-- The encoding of a character is not empty. -/
theorem exists_cons_encode (c : Char) : ∃ b bs, utf8EncodeChar c = b :: bs := by
  apply List.exists_cons_of_length_pos
  rw [String.length_utf8EncodeChar]
  exact c.utf8Size_pos

/-! ## Reading one sequence -/

theorem within_iff {lo hi : UInt8} :
    within lo hi b = true ↔ lo.toNat ≤ b.toNat ∧ b.toNat ≤ hi.toNat := by
  simp [within, UInt8.le_iff_toNat_le]

/-- The least second byte after `b`. -/
def least (b : UInt8) : UInt8 := if b = 0xE0 then 0xA0 else if b = 0xF0 then 0x90 else 0x80

/-- The greatest second byte after `b`. -/
def greatest (b : UInt8) : UInt8 := if b = 0xED then 0x9F else if b = 0xF4 then 0x8F else 0xBF

theorem second_iff {b x : UInt8} :
    Second b x ↔ (least b).toNat ≤ x.toNat ∧ x.toNat ≤ (greatest b).toNat := by
  simp only [Second, Continues, least, greatest, ← UInt8.toNat_inj, apply_ite UInt8.toNat,
    UInt8.reduceToNat]
  split_ifs <;> omega

/-- The first byte tells how many follow. -/
theorem step_eq (b : UInt8) (bs : List UInt8) : step b bs =
    if b.toNat < 128 then .char (Char.ofNat b.toNat) bs
    else if b.toNat < 194 then .malformed bs
    else if b.toNat < 224 then follow (b.toNat % 32) 0 0x80 0xBF bs
    else if b.toNat < 240 then follow (b.toNat % 16) 1 (least b) (greatest b) bs
    else if b.toNat < 245 then follow (b.toNat % 8) 2 (least b) (greatest b) bs
    else .malformed bs := by
  simp only [step, least, greatest, within_iff, ← UInt8.toNat_inj, UInt8.lt_iff_toNat_lt,
    UInt8.reduceToNat]
  -- First the bytes after which the second one is restricted, then all others by their ranges.
  by_cases e0 : b.toNat = 224
  · simp [e0]
  by_cases ed : b.toNat = 237
  · simp [ed]
  by_cases f0 : b.toNat = 240
  · simp [f0]
  by_cases f4 : b.toNat = 244
  · simp [f4]
  simp only [e0, ed, f0, f4, if_false]
  split_ifs <;> first | rfl | omega

/-- The next byte is taken onto the value, and any further ones after it. -/
theorem follow_eq_char_iff {acc n : Nat} {lo hi : UInt8} :
    follow acc n lo hi bs = .char c rest ↔
      ∃ x more, (lo.toNat ≤ x.toNat ∧ x.toNat ≤ hi.toNat) ∧ bs = x :: more ∧
        match n with
        | 0 => c = Char.ofNat (acc * 64 + x.toNat % 64) ∧ more = rest
        | n + 1 => follow (acc * 64 + x.toNat % 64) n 0x80 0xBF more = .char c rest := by
  constructor
  · intro h
    unfold follow at h
    split at h
    · cases h
    · next x more =>
      split at h
      · next inside =>
        refine ⟨x, more, within_iff.1 inside, rfl, ?_⟩
        cases n with
        | zero =>
          cases h
          exact ⟨rfl, rfl⟩
        | succ n => exact h
      · cases h
  · rintro ⟨x, more, inside, rfl, found⟩
    unfold follow
    rw [if_pos (within_iff.2 inside)]
    cases n with
    | zero =>
      obtain ⟨rfl, rfl⟩ := found
      rfl
    | succ n => exact found

/-- A step takes the sequence at the front. -/
theorem step_eq_char_iff : step b bs = .char c rest ↔
    ∃ more, Sequence (b :: more) c ∧ bs = more ++ rest := by
  rw [step_eq]
  constructor
  · intro h
    split at h
    · next lead =>
      cases h
      exact ⟨[], .one lead, rfl⟩
    split at h
    · cases h
    split at h
    · obtain ⟨x, _, second, rfl, rfl, rfl⟩ := follow_eq_char_iff.1 h
      exact ⟨[x], .two (by omega) second, rfl⟩
    split at h
    · obtain ⟨x, more, second, rfl, found⟩ := follow_eq_char_iff.1 h
      obtain ⟨y, _, third, rfl, rfl, rfl⟩ := follow_eq_char_iff.1 found
      exact ⟨[x, y], .three (by omega) (second_iff.2 second) third, rfl⟩
    split at h
    · obtain ⟨x, more, second, rfl, found⟩ := follow_eq_char_iff.1 h
      obtain ⟨y, more, third, rfl, last⟩ := follow_eq_char_iff.1 found
      obtain ⟨z, _, fourth, rfl, rfl, rfl⟩ := follow_eq_char_iff.1 last
      exact ⟨[x, y, z], .four (by omega) (second_iff.2 second) third fourth, rfl⟩
    · cases h
  · rintro ⟨more, sequence, rfl⟩
    cases sequence with
    | one lead => rw [if_pos lead, List.nil_append]
    | two lead second =>
      rw [if_neg (by omega), if_neg (by omega), if_pos (by omega)]
      exact follow_eq_char_iff.2 ⟨_, _, second, rfl, rfl, rfl⟩
    | three lead second third =>
      rw [if_neg (by omega), if_neg (by omega), if_neg (by omega), if_pos (by omega)]
      exact follow_eq_char_iff.2 ⟨_, _, second_iff.1 second, rfl,
        follow_eq_char_iff.2 ⟨_, _, third, rfl, rfl, rfl⟩⟩
    | four lead second third fourth =>
      rw [if_neg (by omega), if_neg (by omega), if_neg (by omega), if_neg (by omega),
        if_pos (by omega)]
      exact follow_eq_char_iff.2 ⟨_, _, second_iff.1 second, rfl,
        follow_eq_char_iff.2 ⟨_, _, third, rfl,
        follow_eq_char_iff.2 ⟨_, _, fourth, rfl, rfl, rfl⟩⟩⟩

/-- A step takes the encoding at the front. -/
theorem step_eq_char_iff_encode :
    step b bs = .char c rest ↔ b :: bs = utf8EncodeChar c ++ rest := by
  rw [step_eq_char_iff]
  constructor
  · rintro ⟨more, sequence, rfl⟩
    rw [sequence.encode, List.cons_append]
  · intro h
    obtain ⟨all, sequence⟩ := exists_sequence c
    obtain ⟨lead, more, front⟩ := exists_cons_encode c
    rw [front, List.cons_append] at h
    obtain ⟨rfl, rfl⟩ := List.cons.inj h
    exact ⟨more, front ▸ sequence.encode ▸ sequence, rfl⟩

/-! ## Reading a whole text -/

/-- Bytes are read as the characters that they encode, and only as these. -/
theorem decode?_eq_some_iff {cs : List Char} :
    decode? bs = some cs ↔ bs = cs.flatMap utf8EncodeChar := by
  constructor
  · intro h
    fun_induction decode? bs generalizing cs with
    | case1 =>
      cases h
      rfl
    | case2 b bs c rest taken ih =>
      obtain ⟨ds, read, rfl⟩ := Option.map_eq_some_iff.1 h
      rw [step_eq_char_iff_encode.1 taken, ih read, List.flatMap_cons]
    | case3 => cases h
  · rintro rfl
    induction cs with
    | nil => rw [List.flatMap_nil, decode?]
    | cons c cs ih =>
      obtain ⟨b, bs, front⟩ := exists_cons_encode c
      have taken : step b (bs ++ cs.flatMap utf8EncodeChar) =
          .char c (cs.flatMap utf8EncodeChar) := by
        rw [step_eq_char_iff_encode, front, List.cons_append]
      rw [List.flatMap_cons, front, List.cons_append, decode?]
      split
      · next taken' =>
        rw [taken] at taken'
        cases taken'
        rw [ih, Option.map_some]
      · next taken' =>
        rw [taken] at taken'
        cases taken'

/-- A text has no more characters than bytes. -/
theorem length_le_flatMap_encode (cs : List Char) :
    cs.length ≤ (cs.flatMap utf8EncodeChar).length := by
  induction cs with
  | nil => exact Nat.zero_le _
  | cons c cs ih =>
    rw [List.flatMap_cons, List.length_append, String.length_utf8EncodeChar, List.length_cons]
    have := c.utf8Size_pos
    omega

end Uptime.Text.Utf8
