import Uptime.Proofs.Icmp.Fallback
import Uptime.Proofs.Probe.Measurements
import Uptime.Proofs.Store.Insertion

/-!
# The result of an attempt at an echo target

An attempt at a host with an address comes to what its echo comes to (`attempt_echo`). The run of
the command is waited for a second longer than the timeout, and all timeouts but the greatest leave
room for that second (`hasRoom_patience`). With the greatest one an attempt that is left to the
command breaks off without a result (`result_not_assured`). No target of a store has it, so an
attempt at one has exactly one result, that of the socket or that of the command (`attempt_once`).
-/

namespace Uptime

open Icmp (commands FallsBack heardNatively)

namespace EchoWorld

/-- How echoes are sent: as is known already, or as trying the sockets finds out. -/
def means (w : EchoWorld) : Icmp.Capability := w.capability.getD (Icmp.detect w.sockets).1

end EchoWorld

namespace Target

/-! ## Attempts at a target -/

theorem whole_patience (t : Target) : t.patience.Whole :=
  Nat.dvd_mul_left_of_dvd ⟨1000, rfl⟩ _

theorem seconds_patience (t : Target) :
    t.patience.seconds = if t.timeout = 0 then defaultTimeout else t.timeout.toNat := by
  rw [patience, Duration.seconds, Duration.ofSeconds]
  exact Nat.mul_div_cancel _ (by omega)

/-- All timeouts but the greatest leave room for another second. -/
theorem hasRoom_patience (t : Target) :
    Icmp.Command.hasRoom t.patience = true ↔ t.timeout ≠ 18446744073709551615 := by
  have greatest : t.timeout = 18446744073709551615 ↔ t.timeout.toNat = 18446744073709551615 :=
    UInt64.toNat_inj.symm
  have bound : t.timeout.toNat < 18446744073709551616 := t.timeout.toNat_lt
  have another : (t.patience + .ofSeconds 1).seconds = t.patience.seconds + 1 := by
    show (t.patience.nanoseconds + 1000000000) / 1000000000 =
      t.patience.nanoseconds / 1000000000 + 1
    omega
  rw [Icmp.Command.hasRoom, Duration.isHeld_iff, another, seconds_patience, ne_eq, greatest]
  split
  · next zero =>
    rw [zero, defaultTimeout, UInt64.toNat_zero]
    omega
  · omega

theorem patience_pos (t : Target) : Duration.zero < t.patience := by
  have pos : 0 < t.patience.seconds := by
    rw [seconds_patience]
    split
    · exact Nat.zero_lt_succ _
    · next some => exact Nat.pos_of_ne_zero fun zero => some (UInt64.toNat_inj.1 zero)
  have counts : t.patience.seconds = t.patience.nanoseconds / 1000000000 := rfl
  show 0 < t.patience.nanoseconds
  omega

/-- Whether the command is the way out of an attempt at an address. -/
def LeavesSockets (t : Target) (w : World) (ip : Ip) : Prop :=
  FallsBack w.echoes.means w.echoes.sockets ip w.echoes.identity w.now t.patience

/-- The round trip to an address, as a socket or, if that is the way out, the command obtains it. -/
inductive Obtains (t : Target) (w : World) (ip : Ip) : Except ProbeError Duration → Prop
  | natively (stays : ¬t.LeavesSockets w ip) :
      Obtains t w ip (heardNatively w.echoes.sockets ip w.echoes.identity w.now t.patience)
  | byCommand (falls : t.LeavesSockets w ip) (room : t.timeout ≠ 18446744073709551615) :
      Obtains t w ip (Icmp.Command.result t.patience
        (w.echoes.command (Icmp.Command.arguments ip t.patience)))

/-- What one attempt at an echo target comes to. -/
structure Once (t : Target) (w : World) (a : Attempt) : Prop where
  /-- The command is run at most once, -/
  once : (commands a.acts).length ≤ 1
  /-- only as the way out, and its result is the outcome then. -/
  wayOut : ∀ arguments, .command arguments ∈ a.acts →
    ∃ ip, w.names.echoAddress t.host = .ok ip ∧ t.LeavesSockets w ip ∧
      arguments = Icmp.Command.arguments ip t.patience ∧ a.brokenOff = false ∧
      a.outcome = echoed t.host (Icmp.Command.result t.patience (w.echoes.command arguments))
  /-- If the host has no address, the outcome says so, and no socket is asked. -/
  lost : ∀ e, w.names.echoAddress t.host = .error e → a.brokenOff = false ∧ a.acts = [] ∧
    a.outcome =
      ({} : Outcome).failed ("Could not send ICMP to service " ++ t.host ++ ", " ++ e.message)
  /-- A round trip that is obtained is the outcome. -/
  obtained : ∀ ip, w.names.echoAddress t.host = .ok ip → ∀ result, t.Obtains w ip result →
    a.brokenOff = false ∧ a.outcome = echoed t.host result ∧
      (a.outcome.isSuccess = true ↔ ∃ time, result = .ok time)
  /-- One is obtained unless the command is the way out and its time has no room. -/
  brokenOff : a.brokenOff = true ↔ ∃ ip, w.names.echoAddress t.host = .ok ip ∧
    t.LeavesSockets w ip ∧ t.timeout = 18446744073709551615

/-- The attempt has exactly one result. -/
structure Concludes (t : Target) (w : World) (a : Attempt) : Prop where
  settled : a.brokenOff = false
  /-- To an address there is one round trip, and it is the outcome. -/
  result : ∀ ip, w.names.echoAddress t.host = .ok ip →
    ∃ result, (∀ other, t.Obtains w ip other ↔ other = result) ∧ a.outcome = echoed t.host result

theorem isSuccess_echoed (host : String) (result : Except ProbeError Duration) :
    (echoed host result).isSuccess = true ↔ ∃ time, result = .ok time := by
  cases result with
  | ok time => exact ⟨fun _ => ⟨time, rfl⟩, fun _ => rfl⟩
  | error e => exact ⟨nofun, nofun⟩

theorem acts_ofEcho (host : String) (a : Icmp.Attempt) : (ofEcho host a).acts = a.acts := by
  unfold ofEcho
  split <;> rfl

theorem ofEcho_of_some {a : Icmp.Attempt} {result : Except ProbeError Duration}
    (left : a.result = some result) (host : String) :
    (ofEcho host a).brokenOff = false ∧ (ofEcho host a).outcome = echoed host result := by
  unfold ofEcho
  rw [left]
  exact ⟨rfl, rfl⟩

theorem ofEcho_of_none {a : Icmp.Attempt} (left : a.result = none) (host : String) :
    (ofEcho host a).brokenOff = true := by
  unfold ofEcho
  rw [left]
  rfl

/-- The echo to an address that an attempt makes. -/
def echo (t : Target) (w : World) (ip : Ip) : Icmp.Attempt :=
  Icmp.attempt w.echoes.means w.echoes.sockets w.echoes.command ip w.echoes.identity w.now
    t.patience

section Attempting

variable {t : Target} {w : World} (icmp : t.kind = .icmp)

include icmp

theorem attempt_of_error {e : ProbeError} (lost : w.names.echoAddress t.host = .error e) :
    t.attempt w = .stuck ("Could not send ICMP to service " ++ t.host ++ ", " ++ e.message) := by
  rw [attempt_icmp icmp]
  unfold tryEcho
  simp only [lost]

variable {ip : Ip} (found : w.names.echoAddress t.host = .ok ip)

include found

theorem attempt_of_ok : t.attempt w = ofEcho t.host (t.echo w ip) ∨
    t.attempt w = (ofEcho t.host (t.echo w ip)).finding w.echoes.means
      (Icmp.detect w.echoes.sockets).2.1 (Icmp.detect w.echoes.sockets).2.2 := by
  rw [attempt_icmp icmp]
  unfold tryEcho echo EchoWorld.means
  cases w.echoes.capability with
  | some known => simp only [found, Option.getD_some, true_or]
  | none => simp only [found, Option.getD_none, or_true]

/-- Finding out how echoes are sent runs no command and does not touch the result. -/
theorem attempt_echo : commands (t.attempt w).acts = commands (t.echo w ip).acts ∧
    (t.attempt w).brokenOff = (ofEcho t.host (t.echo w ip)).brokenOff ∧
      (t.attempt w).outcome = (ofEcho t.host (t.echo w ip)).outcome := by
  rcases attempt_of_ok icmp found with known | unknown
  · rw [known, acts_ofEcho]
    exact ⟨rfl, rfl, rfl⟩
  · rw [unknown, Attempt.acts_finding, Attempt.outcome_finding, Attempt.brokenOff_finding,
      acts_ofEcho, Icmp.commands_append, Icmp.commands_detect, List.nil_append]
    exact ⟨rfl, rfl, rfl⟩

/-- An echo over a socket that is permitted is all there is to an attempt. -/
theorem attempt_of_stays (stays : ¬t.LeavesSockets w ip) :
    commands (t.attempt w).acts = [] ∧ (t.attempt w).brokenOff = false ∧
      (t.attempt w).outcome = echoed t.host
        (heardNatively w.echoes.sockets ip w.echoes.identity w.now t.patience) := by
  obtain ⟨acts, brokenOff, outcome⟩ := attempt_echo icmp found
  obtain ⟨none, result⟩ :=
    Icmp.attempt_of_not_fallsBack t.whole_patience w.echoes.command stays
  obtain ⟨settled, echoed⟩ := ofEcho_of_some result t.host
  exact ⟨acts.trans none, brokenOff.trans settled, outcome.trans echoed⟩

/-- The way out leads to the command, if there is room for its time. -/
theorem attempt_of_leaves (falls : t.LeavesSockets w ip)
    (room : t.timeout ≠ 18446744073709551615) :
    commands (t.attempt w).acts =
        commands (Icmp.pingCommand w.echoes.command ip t.patience).acts ∧
      (t.attempt w).brokenOff = false ∧
      (t.attempt w).outcome = echoed t.host (Icmp.Command.result t.patience
        (w.echoes.command (Icmp.Command.arguments ip t.patience))) := by
  obtain ⟨acts, brokenOff, outcome⟩ := attempt_echo icmp found
  obtain ⟨asked, result⟩ := Icmp.attempt_of_fallsBack t.whole_patience w.echoes.command falls
  rw [Icmp.pingCommand_of_room (t.hasRoom_patience.2 room)] at result
  obtain ⟨settled, echoed⟩ := ofEcho_of_some result t.host
  exact ⟨acts.trans asked, brokenOff.trans settled, outcome.trans echoed⟩

theorem attempt_of_no_room (falls : t.LeavesSockets w ip)
    (full : t.timeout = 18446744073709551615) :
    commands (t.attempt w).acts = [] ∧ (t.attempt w).brokenOff = true := by
  have noRoom : ¬Icmp.Command.hasRoom t.patience = true := fun room =>
    t.hasRoom_patience.1 room full
  obtain ⟨acts, brokenOff, -⟩ := attempt_echo icmp found
  obtain ⟨asked, result⟩ := Icmp.attempt_of_fallsBack t.whole_patience w.echoes.command falls
  rw [Icmp.pingCommand_of_no_room noRoom] at asked result
  exact ⟨acts.trans asked, brokenOff.trans (ofEcho_of_none result t.host)⟩

/-- A command is run as the way out only, and once. -/
theorem commands_attempt : commands (t.attempt w).acts = [] ∨
    t.LeavesSockets w ip ∧ t.timeout ≠ 18446744073709551615 ∧
      commands (t.attempt w).acts = [.command (Icmp.Command.arguments ip t.patience)] := by
  by_cases falls : t.LeavesSockets w ip
  · by_cases full : t.timeout = 18446744073709551615
    · exact .inl (attempt_of_no_room icmp found falls full).1
    · have asked := (attempt_of_leaves icmp found falls full).1
      rcases Icmp.commands_pingCommand w.echoes.command ip t.patience with none | one
      · exact .inl (asked.trans none)
      · exact .inr ⟨falls, full, asked.trans one⟩
  · exact .inl (attempt_of_stays icmp found falls).1

/-- A round trip that is obtained is the outcome. -/
theorem attempt_of_obtains {result : Except ProbeError Duration}
    (obtains : t.Obtains w ip result) :
    (t.attempt w).brokenOff = false ∧ (t.attempt w).outcome = echoed t.host result := by
  cases obtains with
  | natively stays => exact (attempt_of_stays icmp found stays).2
  | byCommand falls room => exact (attempt_of_leaves icmp found falls room).2

/-- The result is missing just if the command is the way out and its time has no room. -/
theorem brokenOff_attempt : (t.attempt w).brokenOff = true ↔
    t.LeavesSockets w ip ∧ t.timeout = 18446744073709551615 := by
  constructor
  · intro broken
    by_cases falls : t.LeavesSockets w ip
    · refine ⟨falls, Decidable.of_not_not fun room => ?_⟩
      cases broken.symm.trans (attempt_of_obtains icmp found (.byCommand falls room)).1
    · cases broken.symm.trans (attempt_of_obtains icmp found (.natively falls)).1
  · rintro ⟨falls, full⟩
    exact (attempt_of_no_room icmp found falls full).2

end Attempting

/-! ## One result -/

/-- An attempt at a host without an address asks nobody. -/
theorem once_of_error {t : Target} (icmp : t.kind = .icmp) {w : World} {e : ProbeError}
    (lost : w.names.echoAddress t.host = .error e) : t.Once w (t.attempt w) := by
  rw [attempt_of_error icmp lost]
  constructor
  case once => exact Nat.zero_le 1
  case wayOut => exact nofun
  case lost =>
    intro other lost'
    obtain rfl := Except.error.inj (lost.symm.trans lost')
    exact ⟨rfl, rfl, rfl⟩
  case obtained =>
    intro ip found
    cases lost.symm.trans found
  case brokenOff =>
    constructor
    · exact nofun
    · rintro ⟨ip, found, -⟩
      cases lost.symm.trans found

theorem once_of_ok {t : Target} (icmp : t.kind = .icmp) {w : World} {ip : Ip}
    (found : w.names.echoAddress t.host = .ok ip) : t.Once w (t.attempt w) := by
  constructor
  case once =>
    rcases commands_attempt icmp found with none | ⟨-, -, one⟩
    · rw [none]
      exact Nat.zero_le 1
    · rw [one]
      exact Nat.le_refl 1
  case wayOut =>
    intro arguments run
    rw [← Icmp.mem_commands] at run
    rcases commands_attempt icmp found with none | ⟨falls, room, one⟩
    · rw [none] at run
      cases run
    · rw [one, List.mem_singleton] at run
      obtain rfl := Icmp.Act.command.inj run
      exact ⟨ip, found, falls, rfl, attempt_of_obtains icmp found (.byCommand falls room)⟩
  case lost =>
    intro e lost
    cases found.symm.trans lost
  case obtained =>
    intro other found' result obtains
    obtain rfl := Except.ok.inj (found.symm.trans found')
    obtain ⟨settled, outcome⟩ := attempt_of_obtains icmp found obtains
    exact ⟨settled, outcome, outcome ▸ isSuccess_echoed t.host result⟩
  case brokenOff =>
    rw [brokenOff_attempt icmp found]
    constructor
    · rintro ⟨falls, full⟩
      exact ⟨ip, found, falls, full⟩
    · rintro ⟨other, found', leaves⟩
      obtain rfl := Except.ok.inj (found.symm.trans found')
      exact leaves

theorem once_attempt {t : Target} (icmp : t.kind = .icmp) (w : World) :
    t.Once w (t.attempt w) := by
  cases found : w.names.echoAddress t.host with
  | error e => exact once_of_error icmp found
  | ok ip => exact once_of_ok icmp found

/-- A round trip is obtained in one way, if there is room for all of them. -/
theorem obtains_iff {t : Target} {w : World} (room : t.timeout ≠ 18446744073709551615) (ip : Ip) :
    ∃ result, ∀ other, t.Obtains w ip other ↔ other = result := by
  by_cases falls : t.LeavesSockets w ip
  · refine ⟨_, fun other => ⟨fun obtains => ?_, fun same => same ▸ .byCommand falls room⟩⟩
    cases obtains with
    | natively stays => exact absurd falls stays
    | byCommand => rfl
  · refine ⟨_, fun other => ⟨fun obtains => ?_, fun same => same ▸ .natively falls⟩⟩
    cases obtains with
    | natively => rfl
    | byCommand leaves => exact absurd leaves falls

theorem concludes_attempt {t : Target} (icmp : t.kind = .icmp) (w : World)
    (room : t.timeout ≠ 18446744073709551615) : t.Concludes w (t.attempt w) := by
  have once := once_attempt icmp w
  constructor
  case settled =>
    rw [← Bool.not_eq_true, once.brokenOff]
    rintro ⟨-, -, -, full⟩
    exact room full
  case result =>
    intro ip found
    obtain ⟨result, only⟩ := t.obtains_iff room ip
    obtain ⟨-, outcome, -⟩ := once.obtained ip found result ((only result).2 rfl)
    exact ⟨result, only, outcome⟩

/-- What a store lists has a timeout that is a signed word, which leaves room. -/
theorem timeout_ne_of_all {s : Store} {ts : List Target} (listed : s.all = .ok ts) {t : Target}
    (among : t ∈ ts) : t.timeout ≠ 18446744073709551615 := by
  obtain ⟨r, -, shown⟩ := (Store.mem_of_all listed).1 among
  intro full
  have bound := Store.timeout_lt_of_target shown
  rw [full] at bound
  exact absurd bound (by decide)

/-- No attempt at a target of a store breaks off. -/
theorem settled_of_all {s : Store} {ts : List Target} (listed : s.all = .ok ts) {t : Target}
    (among : t ∈ ts) (w : World) : (t.attempt w).brokenOff = false := by
  by_cases icmp : t.kind = .icmp
  · exact (concludes_attempt icmp w (timeout_ne_of_all listed among)).settled
  · exact settled_attempt icmp w

/-- One attempt at an echo target has at most one result, and exactly one if some store lists the
target. Waiting for a worker comes to one result as well. -/
theorem attempt_once {t : Target} (icmp : t.kind = .icmp) (w : World) {timeout : Duration}
    (whole : timeout.Whole) {worker : Icmp.Worker} (apart : worker.after ≠ timeout) :
    t.Once w (t.attempt w) ∧
      (∀ (s : Store) (ts : List Target), s.all = .ok ts → t ∈ ts → t.Concludes w (t.attempt w)) ∧
      Icmp.Awaits timeout worker (Icmp.awaitReply timeout worker) := by
  refine ⟨once_attempt icmp w, fun s ts listed among => ?_, ?_⟩
  · exact concludes_attempt icmp w (timeout_ne_of_all listed among)
  · exact Icmp.awaits_awaitReply whole apart

/-- A machine that knows no names and permits no echo sockets, but has a `ping` command. -/
def forbidding : World :=
  { now := ⟨0, 0⟩, names := fun _ => .error .unknownName
    echoes :=
      { capability := some .native
        sockets := { raw := some (.number 13), datagram := some (.number 13) }
        command := fun _ => .ended
          { stdout := "64 bytes from 127.0.0.1: icmp_seq=1 ttl=64 time=0.045 ms".toUTF8.toList }
        identity := ⟨0, 0⟩ } }

/-- A machine that has all sockets and answers every request after three milliseconds. -/
def answering : World :=
  { now := ⟨0, 0⟩, names := fun _ => .error .unknownName
    echoes :=
      { sockets := { arrivals := fun request => [⟨.ofMillis 3, .ok (0 :: request.drop 1)⟩] }
        command := fun _ => .unfinished, identity := ⟨4660, 2⟩ } }

/-- A target that has an address already. -/
def loopback (timeout : UInt64) : Target :=
  { id := 1, kind := .icmp, address := "127.0.0.1", timeout }

/-- A store that was given this target, and nothing else. -/
def loopbackStore (timeout : UInt64) : Store := (Store.add (loopback timeout) {}).1.2

/-- A worker that is done after three milliseconds. -/
def prompt : Icmp.Worker := ⟨.ofMillis 3, some (.ok (.ofMillis 2))⟩

theorem attempt_once_answering :
    (loopback 1).kind = .icmp ∧ (Duration.ofSeconds 1).Whole ∧ prompt.after ≠ .ofSeconds 1 ∧
      (loopbackStore 1).all = .ok [loopback 1] ∧
      ((loopback 1).attempt answering).brokenOff = false ∧
      ((loopback 1).attempt answering).outcome.isSuccess = true ∧
      (Icmp.awaitReply (.ofSeconds 1) prompt).result = .ok (.ofMillis 2) := by
  have found : answering.names.echoAddress (loopback 1).host = .ok (.v4 #v[127, 0, 0, 1]) := by rfl
  have heard : heardNatively answering.echoes.sockets (.v4 #v[127, 0, 0, 1])
      answering.echoes.identity answering.now (loopback 1).patience = .ok (.ofMillis 3) := by rfl
  have stays : ¬(loopback 1).LeavesSockets answering (.v4 #v[127, 0, 0, 1]) := by
    rintro (unavailable | ⟨reason, denied⟩)
    · cases unavailable
    · cases heard.symm.trans denied
  have icmp : (loopback 1).kind = .icmp := rfl
  have whole : (Duration.ofSeconds 1).Whole := ⟨1000, rfl⟩
  have apart : prompt.after ≠ .ofSeconds 1 := by decide
  have listed : (loopbackStore 1).all = .ok [loopback 1] := by rfl
  obtain ⟨once, concludes, awaited⟩ := attempt_once icmp answering whole apart
  obtain ⟨-, -, success⟩ := once.obtained _ found _ (.natively stays)
  have settled := (concludes _ _ listed List.mem_cons_self).settled
  exact ⟨icmp, whole, apart, listed, settled, success.2 ⟨_, heard⟩, (awaited.early (by decide)).2⟩

/-- Not every attempt has a result: this one, at a target that no store lists, breaks off. -/
theorem result_not_assured :
    ¬∀ (t : Target) (w : World), t.kind = .icmp → (t.attempt w).brokenOff = false := by
  intro assured
  have found : forbidding.names.echoAddress (loopback 18446744073709551615).host =
      .ok (.v4 #v[127, 0, 0, 1]) := by rfl
  have falls : (loopback 18446744073709551615).LeavesSockets forbidding (.v4 #v[127, 0, 0, 1]) :=
    Icmp.fallsBack_of_denied rfl rfl rfl _ _ _ _ (patience_pos _)
  have broken := (attempt_of_no_room rfl found falls rfl).2
  cases broken.symm.trans (assured _ _ rfl)

end Target

end Uptime
