import Uptime.Proofs.Icmp.Checksum

/-!
# Telling replies from all else

A socket delivers a message as it is, or in the first family behind a header of IP. The header has
`4` in the high half of its first byte, and no message of an echo has, so a message is found in
either framing (`Framing.payload_deliver`). Then the reply to a request is known by its type, by the
sequence and, where that is asked for, by the identifier (`request_known`).
-/

namespace Uptime.Icmp

/-- A header of the first family's IP. Its first byte tells its length in words of four bytes. -/
structure IpHeader where
  words : Nat
  /-- All bytes but the first one. -/
  rest : List UInt8
  least : 5 ≤ words
  most : words ≤ 15
  length_rest : rest.length + 1 = 4 * words

namespace IpHeader

/-- The bytes of a header. -/
def bytes (h : IpHeader) : List UInt8 := UInt8.ofNat (64 + h.words) :: h.rest

theorem length_bytes (h : IpHeader) : h.bytes.length = 4 * h.words := h.length_rest

/-- The two halves of the first byte. -/
theorem halves (h : IpHeader) : UInt8.ofNat (64 + h.words) >>> 4 = 4 ∧
    (UInt8.ofNat (64 + h.words) &&& 15).toNat = h.words := by
  have all : ∀ n : Fin 16, UInt8.ofNat (64 + n.val) >>> 4 = 4 ∧
      (UInt8.ofNat (64 + n.val) &&& 15).toNat = n.val := by decide
  exact all ⟨h.words, by have := h.most; omega⟩

/-- The header is skipped, also where what was delivered ends early. -/
theorem payload_bytes (h : IpHeader) (data : List UInt8) (n : Nat) :
    payload false ((h.bytes ++ data).take n) = ((h.bytes ++ data).take n).drop h.bytes.length := by
  cases n with
  | zero => rfl
  | succ n =>
    obtain ⟨version, length⟩ := h.halves
    have front : (h.bytes ++ data).take (n + 1) =
        UInt8.ofNat (64 + h.words) :: (h.rest ++ data).take n := by
      rw [bytes, List.cons_append, List.take_succ_cons]
    rw [front, payload, version, length, length_bytes, Nat.mul_comm]
    rfl

end IpHeader

/-- How a message is delivered in a family. -/
inductive Framing : Bool → Type where
  /-- As it is. -/
  | bare (v6 : Bool) : Framing v6
  /-- Behind a header of IP. -/
  | behind (h : IpHeader) : Framing false

namespace Framing

variable {v6 : Bool}

/-- What is in front of the message. -/
def header : Framing v6 → List UInt8
  | .bare _ => []
  | .behind h => h.bytes

/-- What a socket delivers. -/
def deliver (f : Framing v6) (message : List UInt8) : List UInt8 := f.header ++ message

end Framing

/-- A message with another type and other checksum bytes. -/
def answer (type hi lo : UInt8) (message : List UInt8) : List UInt8 :=
  ((message.set 0 type).set 2 hi).set 3 lo

variable {v6 : Bool} {data : List UInt8}

/-! ## Payloads -/

/-- The first byte tells how much stands in front of the message: no more than the longest header
of IP. -/
theorem exists_payload (v6 : Bool) (first : UInt8) :
    ∃ k ≤ 60, ∀ rest, payload v6 (first :: rest) = (first :: rest).drop k := by
  by_cases header : (!v6 && first >>> 4 == 4) = true
  · refine ⟨(first &&& 15).toNat * 4, ?_, fun rest => if_pos header⟩
    have low : (first &&& 15).toNat ≤ 15 := by
      rw [UInt8.toNat_and]
      exact Nat.and_le_right
    omega
  · exact ⟨0, by omega, fun rest => if_neg header⟩

theorem length_payload_le (v6 : Bool) (data : List UInt8) :
    (payload v6 data).length ≤ data.length := by
  cases data with
  | nil => exact Nat.le_refl 0
  | cons first rest =>
    obtain ⟨k, -, found⟩ := exists_payload v6 first
    rw [found, List.length_drop]
    omega

/-- A message whose first byte does not begin with `4` is no header of IP. -/
theorem payload_cons {type : UInt8} (h : type >>> 4 ≠ 4) (rest : List UInt8) :
    payload v6 (type :: rest) = type :: rest := by
  simp [payload, h]

namespace Framing

/-- A message is found in what is delivered. -/
theorem payload_deliver (f : Framing v6) {type : UInt8} (h : type >>> 4 ≠ 4)
    (rest : List UInt8) : payload v6 (f.deliver (type :: rest)) = type :: rest := by
  cases f with
  | bare => exact payload_cons h rest
  | behind header =>
    have whole := header.payload_bytes (type :: rest) (header.bytes ++ type :: rest).length
    rw [List.take_length, List.drop_left] at whole
    exact whole

/-- Nothing is found but what was delivered of the message. -/
theorem length_payload_take (f : Framing v6) (message : List UInt8) (n : Nat) :
    (payload v6 ((f.deliver message).take n)).length ≤ n - f.header.length := by
  cases f with
  | bare =>
    have found := length_payload_le v6 (message.take n)
    exact found.trans (List.length_take_le n message)
  | behind h =>
    have cut := List.length_take_le n (h.bytes ++ message)
    show (payload false ((h.bytes ++ message).take n)).length ≤ n - h.bytes.length
    rw [h.payload_bytes, List.length_drop]
    omega

end Framing

/-! ## Replies -/

/-- Only the first eight bytes of a message count. -/
theorem isReply_iff {i : Identity} {check : Bool} : isReply v6 i check data = true ↔
    ∃ code hi lo id1 id0 seq1 seq0,
      (payload v6 data).take 8 = [replyType v6, code, hi, lo, id1, id0, seq1, seq0] ∧
        word seq1 seq0 = i.sequence ∧ (check = true → word id1 id0 = i.identifier) := by
  unfold isReply
  split
  · next type code hi lo id1 id0 seq1 seq0 rest found =>
    have front : (payload v6 data).take 8 = [type, code, hi, lo, id1, id0, seq1, seq0] := by
      rw [found]
      rfl
    rw [front]
    constructor
    · intro all
      simp only [Bool.and_eq_true, beq_iff_eq, Bool.or_eq_true, Bool.not_eq_true'] at all
      obtain ⟨⟨rfl, sequence⟩, identifier⟩ := all
      refine ⟨code, hi, lo, id1, id0, seq1, seq0, rfl, sequence, fun asked => ?_⟩
      simpa [asked] using identifier
    · rintro ⟨code', hi', lo', id1', id0', seq1', seq0', same, sequence, identifier⟩
      cases same
      cases check <;> simp_all
  · next missing =>
    constructor
    · exact nofun
    · rintro ⟨code, hi, lo, id1, id0, seq1, seq0, front, -⟩
      have whole := List.take_append_drop 8 (payload v6 data)
      rw [front] at whole
      exact (missing _ _ _ _ _ _ _ _ _ whole.symm).elim

theorem isReply_of_short {i : Identity} {check : Bool} (short : (payload v6 data).length < 8) :
    isReply v6 i check data = false := by
  apply Bool.eq_false_iff.2
  rw [ne_eq, isReply_iff]
  rintro ⟨code, hi, lo, id1, id0, seq1, seq0, front, -⟩
  have eight := congrArg List.length front
  simp only [List.length_take, List.length_cons, List.length_nil] at eight
  omega

/-- What is behind the longest header and eight bytes does not count. -/
theorem isReply_take (v6 : Bool) (i : Identity) (check : Bool) (data : List UInt8) {n : Nat}
    (enough : 68 ≤ n) : isReply v6 i check (data.take n) = isReply v6 i check data := by
  have same : (payload v6 (data.take n)).take 8 = (payload v6 data).take 8 := by
    cases data with
    | nil => simp
    | cons first rest =>
      obtain ⟨k, most, found⟩ := exists_payload v6 first
      obtain ⟨n, rfl⟩ : ∃ m, n = m + 1 := ⟨n - 1, by omega⟩
      rw [List.take_succ_cons, found, found, ← List.take_succ_cons, List.drop_take,
        List.take_take, Nat.min_eq_left (by omega)]
  apply Bool.eq_iff_iff.2
  rw [isReply_iff, isReply_iff, same]

/-- The header of a request, up to its checksum. -/
theorem exists_request (v6 : Bool) (i : Identity) (now : Instant) :
    ∃ hi lo rest, request v6 i now = requestType v6 :: 0 :: hi :: lo ::
      (bytes16 i.identifier ++ (bytes16 i.sequence ++ rest)) := by
  cases v6 with
  | true => exact ⟨0, 0, _, rfl⟩
  | false => exact ⟨_, _, _, rfl⟩

/-- A message is a reply just if its three fields are the right ones. -/
theorem isReply_message (f : Framing v6) {type : UInt8} (h : type >>> 4 ≠ 4) (code hi lo : UInt8)
    (i j : Identity) (check : Bool) (rest : List UInt8) :
    isReply v6 j check (f.deliver (type :: code :: hi :: lo ::
        (bytes16 i.identifier ++ (bytes16 i.sequence ++ rest)))) = true ↔
      type = replyType v6 ∧ i.sequence = j.sequence ∧
        (check = true → i.identifier = j.identifier) := by
  rw [isReply, f.payload_deliver h]
  cases check <;> simp [bytes16, word_bytes, and_assoc]

/-- How an echo is told from all else that is delivered. -/
structure Known (v6 : Bool) (i : Identity) (now : Instant) : Prop where
  /-- The reply is taken for the reply to every request with its sequence and its identifier, and
  for no other; the identifier counts only where it is asked for. -/
  own : ∀ (f : Framing v6) (hi lo : UInt8) (j : Identity) (check : Bool),
    isReply v6 j check (f.deliver (answer (replyType v6) hi lo (request v6 i now))) = true ↔
      i.sequence = j.sequence ∧ (check = true → i.identifier = j.identifier)
  /-- The request is not taken for a reply. -/
  looped : ∀ (f : Framing v6) (j : Identity) (check : Bool),
    isReply v6 j check (f.deliver (request v6 i now)) = false
  /-- Nor is a reply with the type of the other family. -/
  strange : ∀ (f : Framing v6) (hi lo : UInt8) (j : Identity) (check : Bool),
    isReply v6 j check (f.deliver (answer (replyType !v6) hi lo (request v6 i now))) = false
  /-- Nor is anything that ends within the first eight bytes of its message. -/
  short : ∀ (f : Framing v6) (message : List UInt8) (n : Nat), n < f.header.length + 8 →
    ∀ (j : Identity) (check : Bool), isReply v6 j check ((f.deliver message).take n) = false
  length : (request v6 i now).length = 64
  /-- In the first family the request has its checksum, -/
  verifies : v6 = false → checksum (request v6 i now) = 0
  /-- and in the second one the place of the checksum is blank. -/
  blank : v6 = true → ((request v6 i now).drop 2).take 2 = [0, 0]

/-- No type of an echo begins with the version of the first family's IP. -/
theorem types_no_header (v6 : Bool) : requestType v6 >>> 4 ≠ 4 ∧ replyType v6 >>> 4 ≠ 4 := by
  cases v6 <;> decide

theorem checksum_request (i : Identity) (now : Instant) : checksum (request false i now) = 0 := by
  have put : request false i now = sealed (requestWith [0, 0] false i now) := by
    simp [request, sealed, requestWith]
  have few : (words (requestWith [0, 0] false i now)).length ≤ 65537 := by
    rw [length_words]
    simp [requestWith, bytes16, bytes64]
  rw [put]
  exact checksum_sealed rfl rfl few

theorem request_known (v6 : Bool) (i : Identity) (now : Instant) : Known v6 i now := by
  obtain ⟨hi', lo', rest, packet⟩ := exists_request v6 i now
  have answered (type hi lo : UInt8) : answer type hi lo (request v6 i now) =
      type :: 0 :: hi :: lo :: (bytes16 i.identifier ++ (bytes16 i.sequence ++ rest)) := by
    rw [packet]
    rfl
  constructor
  case own =>
    intro f hi lo j check
    rw [answered, isReply_message f (types_no_header v6).2]
    simp
  case looped =>
    intro f j check
    apply Bool.eq_false_iff.2
    rw [packet, ne_eq, isReply_message f (types_no_header v6).1]
    rintro ⟨same, -⟩
    revert same
    cases v6 <;> decide
  case strange =>
    intro f hi lo j check
    apply Bool.eq_false_iff.2
    rw [answered, ne_eq, isReply_message f (types_no_header !v6).2]
    rintro ⟨same, -⟩
    revert same
    cases v6 <;> decide
  case short =>
    intro f message n ends j check
    apply isReply_of_short
    have found := f.length_payload_take message n
    omega
  case length => exact length_request v6 i now
  case verifies =>
    rintro rfl
    exact checksum_request i now
  case blank =>
    rintro rfl
    rfl

/-- The longest header of IP, with nothing but zeros behind its first byte. -/
def longest : IpHeader := ⟨15, List.replicate 59 0, by omega, by omega, rfl⟩

/-- A reply is known behind the longest header. -/
theorem request_known_longest : isReply false ⟨4660, 2⟩ true
    ((Framing.behind longest).deliver (answer 0 18 52 (request false ⟨4660, 2⟩ ⟨0, 0⟩))) = true :=
  ((request_known false ⟨4660, 2⟩ ⟨0, 0⟩).own (.behind longest) 18 52 ⟨4660, 2⟩ true).2
    ⟨rfl, fun _ => rfl⟩

end Uptime.Icmp
