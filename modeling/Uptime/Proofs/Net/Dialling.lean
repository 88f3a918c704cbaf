import Mathlib.Data.List.TakeWhile
import Uptime.Net.Dial
import Uptime.Proofs.Net.Family

/-!
# Dialled texts

A dialled text ends in the last of its colons and the digits of the port, and what stands before
them has as many colons as the host itself, so that it tells whether brackets were put around the
host. So a dialled text determines host and port, for any host whatever, and a host that is an
address is read back with its port (`dialText_determines`).
-/

namespace Uptime

open Number (digits ofDigits digitValue digits_isDigit digits_ne_nil ofDigits_digits)

namespace Ip

theorem digitIn?_of_isDigit {c : Char} (h : c.isDigit = true) :
    digitIn? 10 c = some (digitValue c) := by
  simp only [Char.isDigit, Bool.and_eq_true, decide_eq_true_eq, UInt32.le_iff_toNat_le] at h
  have range : 48 ≤ c.toNat ∧ c.toNat ≤ 57 := h
  unfold digitIn? digitValue
  grind

/-- A number that is written in digits is read as itself. -/
theorem number?_digits {n most limit : Nat} (le : n ≤ limit) (room : (digits n).length ≤ most) :
    number? 10 most limit true (digits n) = some (n, []) := by
  have all : (digits n).takeWhile (fun c => (digitIn? 10 c).isSome) = digits n :=
    List.takeWhile_eq_self_iff.2 fun c hc => by
      rw [digitIn?_of_isDigit (digits_isDigit n c hc)]
      rfl
  have value : (digits n).foldl (fun m c => m * 10 + (digitIn? 10 c).getD 0) 0 = n := by
    calc (digits n).foldl (fun m c => m * 10 + (digitIn? 10 c).getD 0) 0
      _ = (digits n).foldl (fun m c => m * 10 + digitValue c) 0 :=
        List.foldl_ext _ _ _ fun m c hc => by
          rw [digitIn?_of_isDigit (digits_isDigit n c hc), Option.getD_some]
      _ = n := ofDigits_digits n
  have some : (digits n).isEmpty = false := List.isEmpty_eq_false_iff.2 (digits_ne_nil n)
  unfold number?
  simp only [all, value, some, List.drop_length]
  simp [Nat.not_lt.2 le, Nat.not_lt.2 room]

end Ip

theorem port?_digits (p : UInt16) : Endpoint.port? (':' :: digits p.toNat) = some p := by
  have le : p.toNat ≤ 65535 := Nat.le_of_lt_succ p.toNat_lt
  have read : Ip.number? 10 (':' :: digits p.toNat).length 65535 true (digits p.toNat) =
      some (p.toNat, []) := Ip.number?_digits le (Nat.le_succ _)
  show (Ip.number? 10 (':' :: digits p.toNat).length 65535 true (digits p.toNat)).bind _ = some p
  rw [read]
  exact congrArg some UInt16.ofNat_toNat

/-- The host as it stands in a dialled text: an address of the second family is in brackets. -/
def dialHost (address : String) : List Char :=
  if Resolver.isV6Text address then '[' :: (address.toList ++ [']']) else address.toList

theorem toList_dialText (address : String) {p : UInt16} (hp : p ≠ 0) :
    (dialText address (some p)).toList = dialHost address ++ ':' :: digits p.toNat := by
  unfold dialText dialHost
  simp only [if_neg hp]
  split <;> simp

/-- Brackets are no colons. -/
theorem count_dialHost (address : String) :
    (dialHost address).count ':' = address.toList.count ':' := by
  unfold dialHost
  split
  · rw [List.count_cons_of_ne (by decide), List.count_append]
    rfl
  · rfl

theorem dialHost_injective {a b : String} (h : dialHost a = dialHost b) : a = b := by
  have same : Resolver.isV6Text a = Resolver.isV6Text b := by
    unfold Resolver.isV6Text
    rw [← count_dialHost a, h, count_dialHost b]
  unfold dialHost at h
  rw [same] at h
  split at h
  · exact String.toList_inj.1 (List.append_cancel_right (List.cons.inj h).2)
  · exact String.toList_inj.1 h

/-- The port begins behind the last colon. -/
theorem cutLast?_dialText (address : String) {p : UInt16} (hp : p ≠ 0) :
    Text.cutLast? (· = ':') (dialText address (some p)).toList =
      some (dialHost address, digits p.toNat) := by
  rw [toList_dialText address hp]
  refine Text.cutLast?_append rfl fun c hc => decide_eq_false ?_
  rintro rfl
  cases digits_isDigit _ _ hc

theorem dialText_injective {a b : String} {p q : UInt16} (hp : p ≠ 0) (hq : q ≠ 0)
    (h : dialText a (some p) = dialText b (some q)) : a = b ∧ p = q := by
  have cut := cutLast?_dialText a hp
  rw [h, cutLast?_dialText b hq] at cut
  obtain ⟨host, port⟩ := Prod.mk.inj (Option.some.inj cut)
  have same : p.toNat = q.toNat := by rw [← ofDigits_digits p.toNat, ← port, ofDigits_digits]
  exact ⟨(dialHost_injective host).symm, UInt16.toNat_inj.1 same⟩

/-- A host that is an address is read back from a dialled text, and the port with it. -/
theorem read?_dialText {address : String} {ip : Ip} (h : Ip.read? address.toList = some ip)
    {p : UInt16} (hp : p ≠ 0) :
    Endpoint.read? (dialText address (some p)).toList = some ⟨ip, p⟩ := by
  have family := Resolver.isV6Text_eq_isV6 h
  rw [toList_dialText address hp]
  unfold dialHost Endpoint.read?
  rw [family]
  -- a colon ends an address of the first family, and a bracket one of the second
  rcases Ip.read?_cases h with ⟨o, four, rfl⟩ | ⟨-, gs, six, rfl⟩
  · have front : Ip.octets? (address.toList ++ ':' :: digits p.toNat) =
        some (o, ':' :: digits p.toNat) := by
      rw [Ip.reads_octets?.stops rfl, four]
      rfl
    simp only [Ip.isV6, Bool.false_eq_true, if_false, front, port?_digits p]
    rfl
  · have none : Ip.octets? ('[' :: (address.toList ++ [']'] ++ ':' :: digits p.toNat)) = none :=
      Ip.reads_octets?.stops rfl [] _
    have front : Ip.groups? (address.toList ++ [']'] ++ ':' :: digits p.toNat) =
        some (gs, ']' :: ':' :: digits p.toNat) := by
      rw [List.append_assoc]
      exact (Ip.reads_groups?.stops rfl _ _).trans (congrArg (Option.map _) six)
    have opened : Ip.mark? '[' ('[' :: (address.toList ++ [']'] ++ ':' :: digits p.toNat)) =
        some (address.toList ++ [']'] ++ ':' :: digits p.toNat) := Ip.mark?_eq_some_iff.2 rfl
    have closed : Ip.mark? ']' (Endpoint.skipZone (']' :: ':' :: digits p.toNat)) =
        some (':' :: digits p.toNat) := rfl
    simp only [Ip.isV6, if_true, List.cons_append, none, opened, Option.bind_eq_bind,
      Option.bind_some, front, closed, port?_digits p]
    rfl

/-- A dialled text determines host and port. The family of a host that is an address is seen from
its text, and its dialled text is read as that address with the port. -/
theorem dialText_determines :
    (∀ (a b : String) (p q : UInt16), p ≠ 0 → q ≠ 0 → (a, p) ≠ (b, q) →
      dialText a (some p) ≠ dialText b (some q)) ∧
    ∀ (a : String) (ip : Ip), Ip.read? a.toList = some ip →
      (Resolver.isV6Text a = true ↔ ip.isV6 = true) ∧
        ∀ p : UInt16, p ≠ 0 → Endpoint.read? (dialText a (some p)).toList = some ⟨ip, p⟩ := by
  constructor
  · intro a b p q hp hq other same
    obtain ⟨rfl, rfl⟩ := dialText_injective hp hq same
    exact other rfl
  · intro a ip h
    exact ⟨by rw [Resolver.isV6Text_eq_isV6 h], fun p hp => read?_dialText h hp⟩

/-- Brackets that belong to the host do not make it another one's dialled text, and an address that
ends in one of the first family is told by its colons. -/
theorem dialText_determines_mapped :
    dialText "::1" (some 22) ≠ dialText "[::1]" (some 22) ∧
      Resolver.isV6Text "::ffff:10.0.0.1" = true ∧
      Endpoint.read? (dialText "::ffff:10.0.0.1" (some 443)).toList =
        some ⟨.v6 #v[0, 0, 0, 0, 0, 0xffff, 0x0a00, 0x0001], 443⟩ := by
  have read : Ip.read? "::ffff:10.0.0.1".toList =
      some (.v6 #v[0, 0, 0, 0, 0, 0xffff, 0x0a00, 0x0001]) := by decide +kernel
  obtain ⟨apart, back⟩ := dialText_determines
  obtain ⟨family, endpoint⟩ := back _ _ read
  exact ⟨apart _ _ _ _ (by decide) (by decide) (by decide), family.2 rfl, endpoint 443 (by decide)⟩

end Uptime
