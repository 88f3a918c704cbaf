import Uptime.Proofs.Net.Family

/-!
# Lookups

A host that is an address never reaches the resolver. So it does not matter whether such a host is
recognised before the lookup or by it (`resolve_agrees`), and the address for an echo is either the
host itself, whose text implies its family, or the first one of that family that the resolver knows
(`echoAddress_chooses`).
-/

namespace Uptime.Resolver

variable {r : Resolver} {host : String} {ip : Ip} {ips : List Ip}

theorem addresses_of_read? (r : Resolver) (h : Ip.read? host.toList = some ip) :
    r.addresses host = .ok [ip] := by
  rw [addresses, h]

theorem addresses_of_none (r : Resolver) (h : Ip.read? host.toList = none) :
    r.addresses host = r.ask host := by
  rw [addresses, h]

/-- The empty text is no address. -/
theorem ne_empty_of_read? (h : Ip.read? host.toList = some ip) : host ≠ "" := by
  rintro rfl
  cases h

/-! ## The two ways of looking up -/

theorem resolve_host (r : Resolver) (host : String) :
    r.resolve host .host =
      if host.isEmpty then .error (.resolve host "empty host")
      else match r.addresses host with
        | .error e => .error (.resolve host e.message)
        | .ok [] => .error (.resolve host "no addresses found")
        | .ok ips => .ok ips := rfl

/-- Recognising an address before the lookup changes nothing. -/
theorem resolve_ip (r : Resolver) (host : String) : r.resolve host .ip = r.resolve host .host := by
  cases h : Ip.read? host.toList with
  | none =>
    rw [resolve, h]
    rfl
  | some ip =>
    have some : ¬host.isEmpty = true := fun empty =>
      ne_empty_of_read? h (String.isEmpty_iff.1 empty)
    rw [resolve_host, if_neg some, resolve, h, addresses_of_read? r h]

theorem resolve_eq_host (r : Resolver) (host : String) (lookup : Lookup) :
    r.resolve host lookup = r.resolve host .host := by
  cases lookup with
  | host => rfl
  | ip => exact resolve_ip r host

theorem resolve_eq_ok_iff {lookup : Lookup} :
    r.resolve host lookup = .ok ips ↔ host ≠ "" ∧ ips ≠ [] ∧ r.addresses host = .ok ips := by
  rw [resolve_eq_host, resolve_host]
  split
  · next empty => simp [String.isEmpty_iff.1 empty]
  · next some =>
    have named : host ≠ "" := fun empty => some (String.isEmpty_iff.2 empty)
    split
    · next failed => simp [failed]
    · next failed => simp [failed]
    · next found none known =>
      rw [known, Except.ok.injEq]
      constructor
      · rintro rfl
        exact ⟨named, none, rfl⟩
      · exact fun h => Except.ok.inj h.2.2

/-- A lookup that fails tells of its host. -/
theorem exists_of_resolve_eq_error {lookup : Lookup} {e : ProbeError}
    (h : r.resolve host lookup = .error e) : ∃ reason, e = .resolve host reason := by
  rw [resolve_eq_host, resolve_host] at h
  split at h
  · exact ⟨_, (Except.error.inj h).symm⟩
  · split at h
    · exact ⟨_, (Except.error.inj h).symm⟩
    · exact ⟨_, (Except.error.inj h).symm⟩
    · cases h

/-- Both ways of looking up a host come to the same. An address is taken as it is, a lookup succeeds
with all the addresses of a host that has any, and one that fails says so of its host. -/
theorem resolve_agrees (r : Resolver) (host : String) :
    r.resolve host .ip = r.resolve host .host ∧
      ∀ lookup,
        (∀ ip, Ip.read? host.toList = some ip → r.resolve host lookup = .ok [ip]) ∧
        (∀ ips, r.resolve host lookup = .ok ips ↔
          host ≠ "" ∧ ips ≠ [] ∧ r.addresses host = .ok ips) ∧
        ∀ e, r.resolve host lookup = .error e → ∃ reason, e = .resolve host reason ∧
          e.message = "Could not get IP address for domain " ++ host ++ ", " ++ reason := by
  refine ⟨resolve_ip r host, fun lookup => ⟨?_, fun ips => resolve_eq_ok_iff, ?_⟩⟩
  · intro ip h
    exact resolve_eq_ok_iff.2 ⟨ne_empty_of_read? h, List.cons_ne_nil ip [], addresses_of_read? r h⟩
  · intro e failed
    obtain ⟨reason, rfl⟩ := exists_of_resolve_eq_error failed
    exact ⟨reason, rfl, rfl⟩

/-! ## The address for an echo -/

/-- A host that is an address is taken, as it is of the family that its text implies. -/
theorem echoAddress_of_read? (r : Resolver) (h : Ip.read? host.toList = some ip) :
    r.echoAddress host = .ok ip := by
  have family : (ip.isV6 == isV6Text host) = true := beq_iff_eq.2 (isV6Text_eq_isV6 h).symm
  unfold echoAddress
  simp only [h, Option.filter_some, family, if_true]

theorem echoAddress_of_error {e : SystemError} (h : Ip.read? host.toList = none)
    (failed : r.ask host = .error e) :
    r.echoAddress host = .error (.network ("lookup " ++ host ++ ": " ++ e.message)) := by
  unfold echoAddress
  simp only [h, Option.filter_none, addresses_of_none r h, failed]

theorem echoAddress_of_found (h : Ip.read? host.toList = none) (known : r.ask host = .ok ips)
    (found : ips.find? (·.isV6 == isV6Text host) = some ip) : r.echoAddress host = .ok ip := by
  unfold echoAddress
  simp only [h, Option.filter_none, addresses_of_none r h, known, found]

theorem echoAddress_of_missing (h : Ip.read? host.toList = none) (known : r.ask host = .ok ips)
    (missing : ips.find? (·.isV6 == isV6Text host) = none) :
    r.echoAddress host = .error (.network ("no " ++ (if isV6Text host then "IPv6" else "IPv4") ++
      " address found for " ++ host)) := by
  unfold echoAddress
  simp only [h, Option.filter_none, addresses_of_none r h, known, missing]

theorem echoAddress_eq_ok_iff (h : Ip.read? host.toList = none) :
    r.echoAddress host = .ok ip ↔
      ∃ before behind, r.ask host = .ok (before ++ ip :: behind) ∧ ip.isV6 = isV6Text host ∧
        ∀ other ∈ before, other.isV6 ≠ isV6Text host := by
  cases known : r.ask host with
  | error e => simp [echoAddress_of_error h known]
  | ok ips =>
    have first : r.echoAddress host = .ok ip ↔
        ips.find? (·.isV6 == isV6Text host) = some ip := by
      cases found : ips.find? (·.isV6 == isV6Text host) with
      | some other => simp [echoAddress_of_found h known found]
      | none => simp [echoAddress_of_missing h known found]
    rw [first, List.find?_eq_some_iff_append]
    constructor
    · rintro ⟨family, before, behind, rfl, others⟩
      refine ⟨before, behind, rfl, beq_iff_eq.1 family, fun other mem same => ?_⟩
      simpa [same] using others other mem
    · rintro ⟨before, behind, eq, family, others⟩
      refine ⟨beq_iff_eq.2 family, before, behind, Except.ok.inj eq, fun other mem => ?_⟩
      simpa using others other mem

theorem echoAddress_eq_error_iff (h : Ip.read? host.toList = none) :
    (∃ e, r.echoAddress host = .error e) ↔ (∃ e, r.ask host = .error e) ∨
      ∃ ips, r.ask host = .ok ips ∧ ∀ ip ∈ ips, ip.isV6 ≠ isV6Text host := by
  cases known : r.ask host with
  | error e => simp [echoAddress_of_error h known]
  | ok ips =>
    cases found : ips.find? (·.isV6 == isV6Text host) with
    | some ip =>
      have mem := List.mem_of_find?_eq_some found
      have family := List.find?_some found
      rw [echoAddress_of_found h known found]
      constructor
      · rintro ⟨e, eq⟩
        cases eq
      · rintro (⟨e, eq⟩ | ⟨others, eq, all⟩)
        · cases eq
        · obtain rfl := Except.ok.inj eq
          exact absurd (beq_iff_eq.1 family) (all ip mem)
    | none =>
      rw [echoAddress_of_missing h known found]
      refine ⟨fun _ => .inr ⟨ips, rfl, fun ip mem same => ?_⟩, fun _ => ⟨_, rfl⟩⟩
      simpa [same] using List.find?_eq_none.1 found ip mem

/-- What the lookup of a host for an echo comes to. -/
structure Chooses (r : Resolver) (host : String) : Prop where
  /-- An address is of the family that the text of the host implies. -/
  family : ∀ ip, r.echoAddress host = .ok ip → ip.isV6 = isV6Text host
  /-- A host that is an address is taken as it is, whatever a resolver knows. -/
  literal : ∀ ip, Ip.read? host.toList = some ip →
    ∀ other : Resolver, other.echoAddress host = .ok ip
  /-- Of any other host the first address of the family is taken. -/
  first : Ip.read? host.toList = none → ∀ ip, r.echoAddress host = .ok ip ↔
    ∃ before behind, r.ask host = .ok (before ++ ip :: behind) ∧ ip.isV6 = isV6Text host ∧
      ∀ other ∈ before, other.isV6 ≠ isV6Text host
  /-- There is none just if the lookup fails or none of the addresses is of the family. -/
  fails : (∃ e, r.echoAddress host = .error e) ↔ Ip.read? host.toList = none ∧
    ((∃ e, r.ask host = .error e) ∨
      ∃ ips, r.ask host = .ok ips ∧ ∀ ip ∈ ips, ip.isV6 ≠ isV6Text host)

/-- An echo goes to the host itself if that is an address, else to the first address of the family
that the text of the host implies. -/
theorem echoAddress_chooses (r : Resolver) (host : String) : r.Chooses host := by
  cases h : Ip.read? host.toList with
  | some ip =>
    have taken := fun other => echoAddress_of_read? other h
    constructor
    case family =>
      intro other eq
      obtain rfl := Except.ok.inj ((taken r).symm.trans eq)
      exact (isV6Text_eq_isV6 h).symm
    case literal =>
      intro other eq
      obtain rfl := Option.some.inj (h.symm.trans eq)
      exact taken
    case first =>
      intro none
      cases h.symm.trans none
    case fails =>
      constructor
      · rintro ⟨e, eq⟩
        cases (taken r).symm.trans eq
      · rintro ⟨none, -⟩
        cases h.symm.trans none
  | none =>
    constructor
    case family =>
      intro ip eq
      obtain ⟨-, -, -, family, -⟩ := (echoAddress_eq_ok_iff h).1 eq
      exact family
    case literal =>
      intro ip eq
      cases h.symm.trans eq
    case first => exact fun _ ip => echoAddress_eq_ok_iff h
    case fails => rw [echoAddress_eq_error_iff h, and_iff_right h]

end Uptime.Resolver
