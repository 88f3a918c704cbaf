import Uptime.Probe.Run
import Uptime.Proofs.Net.Lookup

/-!
# Socket targets without a port

Without a port the address is dialled as it stands, and whatever is dialled without brackets is cut
at its last colon. An address that a lookup finds has no colon, or it is one of the second family
and has another colon in front of the last (`endpoints_of_addresses`). Where only names without a
colon have addresses, nothing is left to connect to in either case, so that no attempt connects to
anything (`attempt_undialled`).
-/

namespace Uptime

/-! ## Texts that name an endpoint -/

namespace Endpoint

/-- The port of an endpoint stands behind a colon. -/
theorem colon_of_read? {cs : List Char} {e : Endpoint} (h : read? cs = some e) : ':' ∈ cs := by
  unfold read? at h
  split at h
  · next o rest four =>
    obtain ⟨p, read, -⟩ := Option.map_eq_some_iff.1 h
    obtain ⟨q, number, -⟩ := Option.bind_eq_some_iff.1 read
    obtain ⟨behind, colon, -⟩ := Option.bind_eq_some_iff.1 number
    have mem : ':' ∈ rest := by
      rw [Ip.mark?_eq_some_iff.1 colon]
      exact List.mem_cons_self
    exact (Ip.reads_octets?.takes four).suffix.subset mem
  · obtain ⟨⟨gs, rest⟩, six, -⟩ := Option.bind_eq_some_iff.1 h
    obtain ⟨inner, opened, six⟩ := Option.bind_eq_some_iff.1 six
    have colons := Ip.two_le_count_of_groups? six
    rw [Ip.mark?_eq_some_iff.1 opened]
    exact List.mem_cons_of_mem _ (List.count_pos_iff.1 (by omega))

/-- A text that is an address as a whole is no address with a port. -/
theorem read?_of_ip {cs : List Char} {ip : Ip} (h : Ip.read? cs = some ip) : read? cs = none := by
  rcases Ip.read?_cases h with ⟨o, four, -⟩ | ⟨none, -, -, -⟩
  · rw [read?, four]
    rfl
  · have unopened : Ip.mark? '[' cs = Option.none := by
      cases opened : Ip.mark? '[' cs with
      | none => rfl
      | some inner =>
        have mem : '[' ∈ cs := by
          rw [Ip.mark?_eq_some_iff.1 opened]
          exact List.mem_cons_self
        cases Ip.isAddressChar_of_read? h '[' mem
    rw [read?, none, unopened]
    rfl

end Endpoint

namespace Resolver

/-- Names with a colon have no addresses. -/
def Colonless (r : Resolver) : Prop :=
  ∀ name ips, ':' ∈ name.toList → r name = .ok ips → ips = []

variable {r : Resolver} {address : String} {ips : List Ip} {endpoints : List Endpoint}

theorem Colonless.ask (colonless : r.Colonless) (mem : ':' ∈ address.toList)
    (h : r.ask address = .ok ips) : ips = [] := by
  unfold Resolver.ask at h
  split at h
  · cases h
  · refine colonless address ips mem ?_
    cases known : r address with
    | error e =>
      rw [known] at h
      cases h
    | ok found =>
      rw [known] at h
      exact congrArg Except.ok (Except.ok.inj h)

/-- An address of the second family is cut at its last colon, and has another one before that. -/
theorem endpoints_of_ip (colonless : r.Colonless) {ip : Ip} (h : Ip.read? address.toList = some ip)
    (known : r.endpoints address = .ok endpoints) : endpoints = [] := by
  rw [Resolver.endpoints, Endpoint.read?_of_ip h] at known
  simp only [] at known
  split at known
  · cases known
  · next host port cut =>
    split at known
    · cases known
    · next p number =>
      obtain ⟨c, colon, eq, last⟩ := Text.cutLast?_eq_some cut
      obtain rfl := of_decide_eq_true colon
      -- the last colon is cut away, so that the other one is part of the name
      have mem : ':' ∈ host := by
        have two := Ip.two_le_count_of_mem h (by rw [eq]; simp)
        have none : port.count ':' = 0 :=
          List.count_eq_zero.2 fun mem => of_decide_eq_false (last ':' mem) rfl
        rw [eq, List.count_append, List.count_cons_self, none] at two
        exact List.count_pos_iff.1 (by omega)
      cases asked : r.ask (String.ofList host) with
      | error e =>
        rw [asked] at known
        cases known
      | ok ips =>
        obtain rfl := colonless.ask (by rwa [String.toList_ofList]) asked
        rw [asked] at known
        exact (Except.ok.inj known).symm

/-- A resolver that takes an address for a name finds one in front of the last colon. -/
example : Resolver.endpoints (fun _ => .ok [.loopback]) "::1:8080" = .ok [⟨.loopback, 8080⟩] := by
  rfl

/-- Without a colon there is no port. -/
theorem endpoints_of_plain (plain : ':' ∉ address.toList) :
    r.endpoints address = .error (.other "invalid socket address") := by
  have unread : Endpoint.read? address.toList = none := by
    cases read : Endpoint.read? address.toList with
    | none => rfl
    | some e => exact absurd (Endpoint.colon_of_read? read) plain
  have uncut : Text.cutLast? (· = ':') address.toList = none :=
    Text.cutLast?_eq_none_iff.2 fun c mem => decide_eq_false fun colon => plain (colon ▸ mem)
  rw [Resolver.endpoints, unread]
  simp only [uncut]

/-- A host that a lookup finds names no endpoint, be it a name or an address. -/
theorem endpoints_of_addresses (colonless : r.Colonless) (found : r.addresses address = .ok ips)
    (some : ips ≠ []) (known : r.endpoints address = .ok endpoints) : endpoints = [] := by
  cases h : Ip.read? address.toList with
  | some ip => exact endpoints_of_ip colonless h known
  | none =>
    rw [addresses_of_none r h] at found
    have plain : ':' ∉ address.toList := fun mem => some (colonless.ask mem found)
    cases (endpoints_of_plain plain).symm.trans known

end Resolver

/-! ## Attempts -/

/-- Where a text names no endpoint, dialling fails alike in every network. -/
theorem dial_of_nowhere {r : Resolver} {text : String}
    (nowhere : ∀ endpoints, r.endpoints text = .ok endpoints → endpoints = [])
    (transport : Transport) : ∃ e, ∀ n : Network, dial transport r n text = .error e := by
  cases named : r.endpoints text with
  | error e => exact ⟨e, fun n => by rw [dial, named]⟩
  | ok endpoints =>
    obtain rfl := nowhere endpoints named
    cases transport with
    | tcp => exact ⟨.other "could not resolve to any address", fun n => by rw [dial, named]; rfl⟩
    | udp => exact ⟨.other ("no addresses for " ++ text), fun n => by rw [dial, named]⟩

theorem dialText_of_portless (address : String) {port : Option UInt16}
    (portless : port = none ∨ port = some 0) : dialText address port = address := by
  rcases portless with rfl | rfl <;> rfl

namespace Target

variable {t : Target} {w : World} {transport : Transport}

/-- What is said about dialling that fails. The time may be up before that. -/
def dialIssue (t : Target) (transport : Transport) (delay : Duration) (e : SystemError) : String :=
  "Dial Error " ++ if t.patience ≤ delay then
    "dial " ++ transport.name ++ " " ++ dialText t.address t.port ++ ": i/o timeout after " ++
      t.patience.text
  else e.message

theorem dialled_of_error {r : Resolver} {n : Network} {e : SystemError}
    (failed : dial transport r n (dialText t.address t.port) = .error e) (time : Duration) :
    t.dialled transport time r n =
      ({ pingTime := some time } : Outcome).failed (t.dialIssue transport n.delay e) := by
  unfold dialled dialIssue
  simp only [failed]
  split
  · simp only [← String.append_assoc]
    rfl
  · rfl

theorem exists_transport (kind : t.kind = .tcp ∨ t.kind = .udp) :
    ∃ transport, t.kind.probe = .socket transport := by
  rcases kind with kind | kind
  · exact ⟨.tcp, congrArg Kind.probe kind⟩
  · exact ⟨.udp, congrArg Kind.probe kind⟩

section Socket

variable (socket : t.kind.probe = .socket transport)

include socket

/-- The address of a socket target is its host. -/
theorem host_of_socket : t.host = t.address := by
  have plain : t.mayBeUrl = false := by
    cases kind : t.kind with
    | http => rw [kind] at socket; cases socket
    | tcp => rw [mayBeUrl, kind]
    | udp => rw [mayBeUrl, kind]
    | icmp => rw [kind] at socket; cases socket
    | grpc => rw [kind] at socket; cases socket
  rw [host, hostAndLog, plain]
  rfl

theorem attempt_socket : t.attempt w = t.trySocket transport (w.lookup t) w.names w.network := by
  rw [attempt, socket]

theorem attempt_of_lost {e : ProbeError} (lost : t.lookup w.names = .error e) :
    t.attempt w = .stuck e.message := by
  rw [attempt_socket socket, World.lookup, lost]
  rfl

theorem attempt_of_found {ips : List Ip} (found : t.lookup w.names = .ok ips) {e : SystemError}
    (failed : dial transport w.names w.network (dialText t.address t.port) = .error e) :
    t.attempt w =
      { outcome := ({ pingTime := some w.lookupTime } : Outcome).failed
          (t.dialIssue transport w.network.delay e) } := by
  rw [attempt_socket socket, World.lookup, found, ← dialled_of_error failed]
  rfl

/-- Once the host is found, an address without a port names no endpoint. -/
theorem endpoints_of_found (portless : t.port = none ∨ t.port = some 0)
    (colonless : w.names.Colonless) {ips : List Ip} (found : t.lookup w.names = .ok ips)
    {endpoints : List Endpoint}
    (named : w.names.endpoints (dialText t.address t.port) = .ok endpoints) : endpoints = [] := by
  rw [dialText_of_portless t.address portless] at named
  rw [lookup, host_of_socket socket] at found
  obtain ⟨-, some, addresses⟩ := Resolver.resolve_eq_ok_iff.1 found
  exact Resolver.endpoints_of_addresses colonless addresses some named

end Socket

/-- What an attempt comes to that connects to nothing. -/
structure Undialled (t : Target) (w : World) : Prop where
  /-- It comes to an end, -/
  settled : (t.attempt w).brokenOff = false
  /-- and fails, -/
  failed : (t.attempt w).outcome.isSuccess = false
  /-- be it in the lookup of the host or in dialling. -/
  issue : (∃ e, t.lookup w.names = .error e ∧ (t.attempt w).outcome.issue = some e.message) ∨
    ∃ ips reason, t.lookup w.names = .ok ips ∧
      (t.attempt w).outcome.issue = some ("Dial Error " ++ reason)
  /-- Once its host is found, what it dials names no endpoint, -/
  nowhere : ∀ ips, t.lookup w.names = .ok ips →
    ∀ endpoints, w.names.endpoints (dialText t.address t.port) = .ok endpoints → endpoints = []
  /-- so that it does not matter which connections would come about. -/
  untried : ∀ n : Network, n.delay = w.network.delay →
    t.attempt { w with network := n } = t.attempt w

/-- An attempt at a socket target without a port connects to nothing, where only names without a
colon have addresses. -/
theorem attempt_undialled (kind : t.kind = .tcp ∨ t.kind = .udp)
    (portless : t.port = none ∨ t.port = some 0) (colonless : w.names.Colonless) :
    t.Undialled w := by
  obtain ⟨transport, socket⟩ := exists_transport kind
  cases found : t.lookup w.names with
  | error e =>
    have stuck := attempt_of_lost socket found
    constructor
    case settled => exact congrArg Attempt.brokenOff stuck
    case failed => exact congrArg (·.outcome.isSuccess) stuck
    case issue => exact .inl ⟨e, found, congrArg (·.outcome.issue) stuck⟩
    case nowhere =>
      intro ips known
      cases found.symm.trans known
    case untried =>
      intro n _
      have elsewhere := attempt_of_lost (w := { w with network := n }) socket found
      rw [elsewhere, stuck]
  | ok ips =>
    obtain ⟨e, failed⟩ := dial_of_nowhere
      (fun _ named => endpoints_of_found socket portless colonless found named) transport
    have undialled := attempt_of_found socket found (failed w.network)
    constructor
    case settled => exact congrArg Attempt.brokenOff undialled
    case failed => exact congrArg (·.outcome.isSuccess) undialled
    case issue => exact .inr ⟨ips, _, found, congrArg (·.outcome.issue) undialled⟩
    case nowhere =>
      intro _ _ _ named
      exact endpoints_of_found socket portless colonless found named
    case untried =>
      intro n same
      have elsewhere := attempt_of_found (w := { w with network := n }) socket found (failed n)
      rw [elsewhere, undialled, same]

/-- A world that knows one name and in which every connection comes about. -/
def welcoming : World :=
  { World.cutOff ⟨0, 0⟩ with
    names := fun name => if name = "db" then .ok [.loopback] else .error .unknownName
    network := { tcp := fun _ => none, udp := fun _ => none } }

/-- An address that ends like one with a port. -/
def bare : Target := { kind := .tcp, address := "::1:8080" }

theorem attempt_undialled_bare :
    bare.kind = .tcp ∧ bare.port = none ∧ welcoming.names.Colonless ∧
      bare.lookup welcoming.names = .ok [.v6 #v[0, 0, 0, 0, 0, 0, 1, 0x8080]] ∧
      (bare.attempt welcoming).outcome.isSuccess = false := by
  have colonless : welcoming.names.Colonless := by
    intro name ips colon known
    change (if name = "db" then _ else _) = _ at known
    split at known
    · next db =>
      rw [db] at colon
      exact absurd colon (by decide)
    · cases known
  exact ⟨rfl, rfl, colonless, by decide +kernel,
    (attempt_undialled (.inl rfl) (.inl rfl) colonless).failed⟩

end Target

end Uptime
