/-!
# Reading UTF-8

Bytes become characters by one step function, `step`, which either takes one well-formed sequence
or reports how far a malformed one reaches. `decode?` refuses malformed input, `decodeLossy`
writes one replacement character for each maximal malformed part. Both consume at least one byte
a step (`Step.rest_le`), and they agree on every input that `decode?` accepts
(`decodeLossy_of_decode?`).
-/

namespace Uptime.Text.Utf8

/-- What stands at the front of a byte sequence. -/
inductive Step where
  | char (c : Char) (rest : List UInt8)
  | malformed (rest : List UInt8)

/-- The bytes that are left after a step. -/
def Step.rest : Step → List UInt8
  | .char _ rest => rest
  | .malformed rest => rest

/-- A continuation byte in the range that the lead byte asks for. -/
def within (lo hi b : UInt8) : Bool := lo ≤ b && b ≤ hi

/-- The six value bits of a continuation byte. -/
def low (b : UInt8) : Nat := b.toNat % 64

/-- Takes `n + 1` continuation bytes, the first of them between `lo` and `hi`, onto the value `acc`.
-/
def follow (acc n : Nat) (lo hi : UInt8) : List UInt8 → Step
  | [] => .malformed []
  | b :: rest =>
    if within lo hi b then
      match n with
      | 0 => .char (Char.ofNat (acc * 64 + low b)) rest
      | n + 1 => follow (acc * 64 + low b) n 0x80 0xBF rest
    else .malformed (b :: rest)

/-- Reads one character or the longest part that could still have become one. The second byte is
restricted after `E0`, `ED`, `F0` and `F4`: no overlong form, no surrogate, nothing above U+10FFFF.
-/
def step (b : UInt8) (rest : List UInt8) : Step :=
  if b < 0x80 then .char (Char.ofNat b.toNat) rest
  else if within 0xC2 0xDF b then follow (b.toNat % 32) 0 0x80 0xBF rest
  else if b = 0xE0 then follow 0 1 0xA0 0xBF rest
  else if b = 0xED then follow 13 1 0x80 0x9F rest
  else if within 0xE1 0xEF b then follow (b.toNat % 16) 1 0x80 0xBF rest
  else if b = 0xF0 then follow 0 2 0x90 0xBF rest
  else if within 0xF1 0xF3 b then follow (b.toNat % 8) 2 0x80 0xBF rest
  else if b = 0xF4 then follow 4 2 0x80 0x8F rest
  else .malformed rest

theorem follow_rest_le (acc n : Nat) (lo hi : UInt8) (bs : List UInt8) :
    (follow acc n lo hi bs).rest.length ≤ bs.length := by
  induction bs generalizing acc n lo hi with
  | nil => simp [follow, Step.rest]
  | cons b bs ih =>
    unfold follow
    split
    · split
      · simp [Step.rest]
      · exact Nat.le_succ_of_le (ih ..)
    · simp [Step.rest]

/-- A step never gives back more than what followed its first byte. -/
theorem Step.rest_le (b : UInt8) (bs : List UInt8) : (step b bs).rest.length ≤ bs.length := by
  unfold step
  repeat' split
  all_goals first | exact follow_rest_le .. | exact Nat.le_refl _

/-- The characters, if the bytes are well formed throughout. -/
def decode? : List UInt8 → Option (List Char)
  | [] => some []
  | b :: bs =>
    match _h : step b bs with
    | .char c rest => (decode? rest).map (c :: ·)
    | .malformed _ => none
termination_by bs => bs.length
decreasing_by
  have := Step.rest_le b bs
  rw [_h] at this
  simpa [Step.rest] using Nat.lt_succ_of_le this

/-- The characters, with U+FFFD for each maximal malformed part. -/
def decodeLossy : List UInt8 → List Char
  | [] => []
  | b :: bs =>
    match _h : step b bs with
    | .char c rest => c :: decodeLossy rest
    | .malformed rest => '\uFFFD' :: decodeLossy rest
termination_by bs => bs.length
decreasing_by
  all_goals
    have := Step.rest_le b bs
    rw [_h] at this
    simpa [Step.rest] using Nat.lt_succ_of_le this

theorem decodeLossy_of_decode? {bs : List UInt8} {cs : List Char} (h : decode? bs = some cs) :
    decodeLossy bs = cs := by
  fun_induction decode? bs generalizing cs with
  | case1 => simpa [decodeLossy] using h
  | case2 b bs c rest hs ih =>
    obtain ⟨ds, hd, rfl⟩ := Option.map_eq_some_iff.1 h
    rw [decodeLossy]
    split
    · next c' r' hs' =>
      rw [hs] at hs'
      cases hs'
      rw [ih hd]
    · next r' hs' => rw [hs] at hs'; cases hs'
  | case3 => simp at h

end Uptime.Text.Utf8
