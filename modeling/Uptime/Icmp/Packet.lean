import Uptime.Time.Instant

/-!
# Echo requests and replies

The checksum is the complement of the sum of the 16-bit words in one's complement arithmetic. A
request has a header of eight bytes (type, code, checksum, identifier, sequence) and a payload that
begins with the time. A reply is known by its type, its sequence and, where the socket delivers the
replies of others too, its identifier.
-/

namespace Uptime.Icmp

/-- The sum of the 16-bit words; an odd last byte counts as the high half of a word. -/
def wordSum : List UInt8 → Nat
  | [] => 0
  | [hi] => hi.toNat * 256
  | hi :: lo :: rest => hi.toNat * 256 + lo.toNat + wordSum rest

/-- Adds the carries of a sum to its low 16 bits until there are none. -/
def fold (n : Nat) : Nat := if n < 65536 then n else fold (n % 65536 + n / 65536)
termination_by n
decreasing_by omega

theorem fold_lt (n : Nat) : fold n < 65536 := by
  fun_induction fold n with
  | case1 n h => exact h
  | case2 n _ ih => exact ih

/-- The checksum of a message; the sum is kept in 32 bits. -/
def checksum (data : List UInt8) : UInt16 := UInt16.ofNat (65535 - fold (wordSum data % 4294967296))

/-- The two bytes of a number, the high one first. -/
def bytes16 (n : UInt16) : List UInt8 := [UInt8.ofNat (n.toNat / 256), UInt8.ofNat (n.toNat % 256)]

/-- The eight bytes of a number, the high ones first. -/
def bytes64 (n : UInt64) : List UInt8 :=
  (List.range 8).map fun i => UInt8.ofNat (n.toNat / Nat.pow 256 (7 - i) % 256)

/-- The type of a request in a family. -/
def requestType (v6 : Bool) : UInt8 := if v6 then 128 else 8

/-- The type of a reply in a family. -/
def replyType (v6 : Bool) : UInt8 := if v6 then 129 else 0

/-- What tells the echoes of one attempt from all others. -/
structure Identity where
  identifier : UInt16
  sequence : UInt16
deriving DecidableEq, Repr

/-- A request with the checksum bytes given. -/
def requestWith (sum : List UInt8) (v6 : Bool) (i : Identity) (now : Instant) : List UInt8 :=
  [requestType v6, 0] ++ sum ++ bytes16 i.identifier ++ bytes16 i.sequence ++ bytes64 now.stamp ++
    List.replicate 48 0

/-- The echo request that is sent at the time `now`. In the second family the system computes the
checksum, and the bytes stay zero. -/
def request (v6 : Bool) (i : Identity) (now : Instant) : List UInt8 :=
  let blank := requestWith [0, 0] v6 i now
  if v6 then blank else requestWith (bytes16 (checksum blank)) v6 i now

/-- The bytes of an ICMP message in what a socket delivers: a header of the first family's IP in
front is skipped by its own length. -/
def payload (v6 : Bool) (data : List UInt8) : List UInt8 :=
  match data with
  | first :: _ => if !v6 && first >>> 4 == 4 then data.drop ((first &&& 15).toNat * 4) else data
  | [] => []

/-- The number that two bytes make. -/
def word (hi lo : UInt8) : UInt16 := UInt16.ofNat (hi.toNat * 256 + lo.toNat)

/-- Whether the data are the reply to the request with this identity. -/
def isReply (v6 : Bool) (i : Identity) (checkIdentifier : Bool) (data : List UInt8) : Bool :=
  match payload v6 data with
  | type :: _ :: _ :: _ :: id1 :: id0 :: seq1 :: seq0 :: _ =>
    type == replyType v6 && word seq1 seq0 == i.sequence &&
      (!checkIdentifier || word id1 id0 == i.identifier)
  | _ => false

theorem length_request (v6 : Bool) (i : Identity) (now : Instant) :
    (request v6 i now).length = 64 := by
  cases v6 <;> simp [request, requestWith, bytes16, bytes64]

end Uptime.Icmp
