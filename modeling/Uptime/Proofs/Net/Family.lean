import Uptime.Net.Resolver
import Uptime.Proofs.Net.Reading

/-!
# The family that a text implies

The colons of a text tell the family of the address that it is read as: one of the first family has
none, and one of the second has two at least, be it that all groups are written out or that two
colons stand in place of some (`two_le_count_of_groups?`). So counting them is right for all
spellings (`isV6Text_eq_isV6`).
-/

namespace Uptime

namespace Ip

theorem count_of_octets? {cs rest : List Char} {o : Vector UInt8 4}
    (h : octets? cs = some (o, rest)) : cs.count ':' = rest.count ':' :=
  (reads_octets?.takes h).count_eq rfl

/-- Each group but the first has its colon, and an address of the first family at the end is two
groups with one colon. -/
theorem length_groups_le (room : Nat) (first : Bool) (cs : List Char) :
    (groups room first cs).1.length ≤
      cs.count ':' + first.toNat + (groups room first cs).2.1.toNat := by
  induction room generalizing first cs with
  | zero => exact Nat.zero_le _
  | succ room ih =>
    rcases groups_cases room first cs with eq | ⟨body, start, found⟩
    · rw [eq]
      exact Nat.zero_le _
    · have colon : cs.count ':' + first.toNat = body.count ':' + 1 := by
        cases first with
        | true =>
          rw [start]
          rfl
        | false =>
          rw [start]
          show (':' :: body).count ':' = body.count ':' + 1
          rw [List.count_cons_self]
      rcases found with ⟨o, rest, -, eq⟩ | ⟨g, rest, number, eq⟩
      · rw [eq, colon]
        show 2 ≤ body.count ':' + 1 + 1
        omega
      · have more := ih false rest
        have same : body.count ':' = rest.count ':' :=
          (reads_number? 16 4 0xffff true).takes number |>.count_eq rfl
        rw [eq, colon]
        show (groups room false rest).1.length + 1 ≤
          body.count ':' + 1 + (groups room false rest).2.1.toNat
        rw [Bool.toNat_false] at more
        omega

theorem two_le_count_of_groups? {cs rest : List Char} {gs : Vector UInt16 8}
    (h : groups? cs = some (gs, rest)) : 2 ≤ cs.count ':' := by
  rw [groups?_eq] at h
  split at h
  · next eight =>
    have le := length_groups_le 8 true cs
    have one := Bool.toNat_le (groups 8 true cs).2.1
    rw [eight, Bool.toNat_true] at le
    omega
  · split at h
    · cases h
    · obtain ⟨first, one, h⟩ := Option.bind_eq_some_iff.1 h
      obtain ⟨second, two, -⟩ := Option.bind_eq_some_iff.1 h
      have behind := (takes_groups 8 true cs).suffix.sublist.count_le ':'
      rw [mark?_eq_some_iff.1 one, mark?_eq_some_iff.1 two, List.count_cons_self,
        List.count_cons_self] at behind
      omega

/-- An address with a colon has another one. -/
theorem two_le_count_of_mem {cs : List Char} {ip : Ip} (h : read? cs = some ip) (mem : ':' ∈ cs) :
    2 ≤ cs.count ':' := by
  rcases read?_cases h with ⟨o, four, -⟩ | ⟨-, gs, six, -⟩
  · have none : cs.count ':' = 0 := count_of_octets? four
    exact absurd mem (List.count_eq_zero.1 none)
  · exact two_le_count_of_groups? six

end Ip

namespace Resolver

/-- Counting colons tells the family of every text that is read as an address. -/
theorem isV6Text_eq_isV6 {address : String} {ip : Ip} (h : Ip.read? address.toList = some ip) :
    isV6Text address = ip.isV6 := by
  rcases Ip.read?_cases h with ⟨o, four, rfl⟩ | ⟨-, gs, six, rfl⟩
  · have none := Ip.count_of_octets? four
    rw [isV6Text, none]
    rfl
  · exact decide_eq_true (Ip.two_le_count_of_groups? six)

end Resolver

end Uptime
