import Uptime.Monitor

/-!
# What attempts measure

An attempt goes as far as the world lets it, and what it has measured by then depends on its kind
and on where it ends (`Reaches`). Only an echo can break off, and then nothing was measured. From
this follows which measurements come together, and that no record of a success tells of an earlier
attempt (`check_measures`).
-/

namespace Uptime

/-- Whether the lookup that an attempt at the target begins with finds an address. An echo needs one
of the family that the host implies. -/
def World.finds (w : World) (t : Target) : Bool :=
  match t.kind with
  | .icmp => (w.names.echoAddress t.host).isOk
  | _ => (t.lookup w.names).isOk

namespace Outcome

/-- How far an attempt of this kind gets, after its host was found or not, and what it measures. -/
inductive Reaches (k : Kind) (found : Bool) : Outcome → Prop
  /-- It ends before anything is measured. The lookup in front of an echo is not timed. -/
  | nothing (issue : String) (early : found = false ∨ k = .icmp) :
      Reaches k found (({} : Outcome).failed issue)
  /-- It ends with the host looked up. -/
  | host (time : Duration) (issue : String) (timed : k ≠ .icmp) (h : found = true) :
      Reaches k found (({ pingTime := some time } : Outcome).failed issue)
  /-- It ends with an answer, which may not be the wanted one. -/
  | answer (time after : Duration) (code : Int32) (text : String) (issue : Option String)
      (answers : k = .http ∨ k = .grpc) (h : found = true) :
      Reaches k found
        { latency := some after, pingTime := some time, response := some text,
          statusCode := some code, issue }
  /-- It ends with a connection that was opened and closed. -/
  | connection (time after : Duration) (connects : k = .tcp ∨ k = .udp) (h : found = true) :
      Reaches k found { latency := some after, pingTime := some time, response := some "" }
  /-- It ends with the reply to an echo. -/
  | reply (after : Duration) (echoes : k = .icmp) (h : found = true) :
      Reaches k found { latency := some after, response := some "" }

/-- What an attempt of this kind measures. -/
structure Measured (k : Kind) (o : Outcome) : Prop where
  /-- A success measures everything but, in some kinds, a status. -/
  success : o.isSuccess = true →
    o.latency.isSome ∧ o.response.isSome ∧ (k ≠ .icmp → o.pingTime.isSome)
  /-- Where answers have a status, an answer is measured as a whole or not at all. -/
  together : k = .http ∨ k = .grpc →
    o.response.isSome = o.latency.isSome ∧ o.statusCode.isSome = o.latency.isSome
  /-- Where they have none, only a success is measured. -/
  contact : k = .tcp ∨ k = .udp ∨ k = .icmp →
    o.latency.isSome = o.isSuccess ∧ o.response.isSome = o.isSuccess ∧ o.statusCode = none

/-- Nothing was measured. -/
structure Unmeasured (o : Outcome) : Prop where
  latency : o.latency = none
  pingTime : o.pingTime = none
  response : o.response = none
  statusCode : o.statusCode = none

variable {k : Kind} {found : Bool} {o : Outcome}

theorem Reaches.measured (h : Reaches k found o) : Measured k o := by
  cases h with
  | nothing issue early => exact ⟨nofun, fun _ => ⟨rfl, rfl⟩, fun _ => ⟨rfl, rfl, rfl⟩⟩
  | host time issue timed => exact ⟨nofun, fun _ => ⟨rfl, rfl⟩, fun _ => ⟨rfl, rfl, rfl⟩⟩
  | answer time after code text issue answers =>
    refine ⟨fun _ => ⟨rfl, rfl, fun _ => rfl⟩, fun _ => ⟨rfl, rfl⟩, fun contact => ?_⟩
    rcases answers with rfl | rfl <;> simp at contact
  | connection time after connects =>
    refine ⟨fun _ => ⟨rfl, rfl, fun _ => rfl⟩, fun answers => ?_, fun _ => ⟨rfl, rfl, rfl⟩⟩
    rcases connects with rfl | rfl <;> simp at answers
  | reply after echoes =>
    refine ⟨fun _ => ⟨rfl, rfl, fun timed => absurd echoes timed⟩, fun answers => ?_,
      fun _ => ⟨rfl, rfl, rfl⟩⟩
    rw [echoes] at answers
    simp at answers

theorem Reaches.unmeasured (h : Reaches k false o) : Unmeasured o := by
  cases h with
  | nothing issue early => exact ⟨rfl, rfl, rfl, rfl⟩
  | host _ _ _ h => cases h
  | answer _ _ _ _ _ _ h => cases h
  | connection _ _ _ h => cases h
  | reply _ _ h => cases h

end Outcome

open Outcome (Reaches)

namespace Target

variable (t : Target)

/-! ## The kinds of attempts -/

theorem reaches_tryHttp (lookup : Except ProbeError Duration) (hasClient : Bool)
    (web : Http.Web) : Reaches .http lookup.isOk (t.tryHttp lookup hasClient web).outcome := by
  cases lookup with
  | error e => exact .nothing _ (.inl rfl)
  | ok time =>
    unfold tryHttp
    simp only []
    split
    · exact .host time _ nofun rfl
    · split
      · exact .host time _ nofun rfl
      · split
        · exact .host time _ nofun rfl
        · exact .answer time _ _ _ _ (.inl rfl) rfl

theorem reaches_trySocket {k : Kind} (connects : k = .tcp ∨ k = .udp) (transport : Transport)
    (lookup : Except ProbeError Duration) (r : Resolver) (n : Network) :
    Reaches k lookup.isOk (t.trySocket transport lookup r n).outcome := by
  have timed : k ≠ .icmp := by rcases connects with rfl | rfl <;> nofun
  cases lookup with
  | error e => exact .nothing _ (.inl rfl)
  | ok time =>
    show Reaches k true (t.dialled transport time r n)
    unfold dialled
    simp only []
    split
    · exact .host time _ timed rfl
    · split
      · exact .host time _ timed rfl
      · exact .host time _ timed rfl
      · exact .connection time _ connects rfl

theorem reaches_tryGrpc (lookup : Except ProbeError Duration) (r : Resolver) (n : Network)
    (health : Grpc.Call) : Reaches .grpc lookup.isOk (t.tryGrpc lookup r n health).outcome := by
  cases lookup with
  | error e => exact .nothing _ (.inl rfl)
  | ok time =>
    have failed (issue : String) :
        Reaches .grpc true (({ pingTime := some time } : Outcome).failed issue) :=
      .host time issue nofun rfl
    unfold tryGrpc
    simp only []
    split
    · exact failed _
    · split
      · exact failed _
      · split
        · exact failed _
        · split
          · exact failed _
          · exact failed _
          · unfold healthy
            split
            · exact .answer time _ _ _ _ (.inr rfl) rfl
            · exact .answer time _ _ _ _ (.inr rfl) rfl

theorem reaches_echoed (host : String) (found : Bool) (result : Except ProbeError Duration)
    (h : found = true) : Reaches .icmp found (echoed host result) := by
  cases result with
  | error e => exact .nothing _ (.inr rfl)
  | ok time => exact .reply time rfl h

theorem reaches_ofEcho (host : String) (found : Bool) (a : Icmp.Attempt) (h : found = true) :
    Reaches .icmp found (ofEcho host a).outcome := by
  unfold ofEcho
  split
  · exact reaches_echoed _ _ _ h
  · exact .nothing _ (.inr rfl)

theorem reaches_tryEcho (r : Resolver) (w : EchoWorld) (now : Instant) :
    Reaches .icmp (r.echoAddress t.host).isOk (t.tryEcho r w now).outcome := by
  unfold tryEcho
  simp only []
  split
  · exact .nothing _ (.inr rfl)
  · next ip found =>
    have found : (r.echoAddress t.host).isOk = true := by rw [found]; rfl
    split
    · exact reaches_ofEcho _ _ _ found
    · rw [Attempt.outcome_finding]
      exact reaches_ofEcho _ _ _ found

theorem isOk_lookup (w : World) : (w.lookup t).isOk = (t.lookup w.names).isOk := by
  unfold World.lookup
  cases t.lookup w.names <;> rfl

/-- How far an attempt gets, whatever its kind. -/
theorem reaches_attempt (w : World) : Reaches t.kind (w.finds t) (t.attempt w).outcome := by
  unfold attempt World.finds
  cases kind : t.kind with
  | http => exact t.isOk_lookup w ▸ t.reaches_tryHttp _ _ _
  | tcp => exact t.isOk_lookup w ▸ t.reaches_trySocket (.inl rfl) _ _ _ _
  | udp => exact t.isOk_lookup w ▸ t.reaches_trySocket (.inr rfl) _ _ _ _
  | icmp => exact t.reaches_tryEcho _ _ _
  | grpc => exact t.isOk_lookup w ▸ t.reaches_tryGrpc _ _ _ _

/-! ## Attempts that break off -/

theorem settled_tryHttp (t : Target) (lookup : Except ProbeError Duration) (hasClient : Bool)
    (web : Http.Web) : (t.tryHttp lookup hasClient web).brokenOff = false := by
  cases lookup with
  | error e => rfl
  | ok time =>
    unfold tryHttp
    simp only []
    split
    · rfl
    · split
      · rfl
      · split <;> rfl

theorem settled_trySocket (t : Target) (transport : Transport)
    (lookup : Except ProbeError Duration) (r : Resolver) (n : Network) :
    (t.trySocket transport lookup r n).brokenOff = false := by
  cases lookup <;> rfl

theorem settled_tryGrpc (t : Target) (lookup : Except ProbeError Duration) (r : Resolver)
    (n : Network) (health : Grpc.Call) : (t.tryGrpc lookup r n health).brokenOff = false := by
  cases lookup with
  | error e => rfl
  | ok time =>
    unfold tryGrpc
    simp only []
    split
    · rfl
    · split
      · rfl
      · split
        · rfl
        · split <;> rfl

/-- Only an echo can break off. -/
theorem settled_attempt {t : Target} (other : t.kind ≠ .icmp) (w : World) :
    (t.attempt w).brokenOff = false := by
  unfold attempt
  cases kind : t.kind with
  | http => exact t.settled_tryHttp _ _ _
  | tcp => exact t.settled_trySocket _ _ _ _
  | udp => exact t.settled_trySocket _ _ _ _
  | icmp => exact absurd kind other
  | grpc => exact t.settled_tryGrpc _ _ _ _

theorem outcome_of_brokenOff_ofEcho {host : String} {a : Icmp.Attempt}
    (broken : (ofEcho host a).brokenOff = true) :
    (ofEcho host a).outcome = Attempt.broken.outcome := by
  unfold ofEcho at broken ⊢
  cases left : a.result with
  | some result =>
    rw [left] at broken
    cases broken
  | none => rfl

theorem outcome_of_brokenOff_tryEcho {t : Target} {r : Resolver} {w : EchoWorld} {now : Instant}
    (broken : (t.tryEcho r w now).brokenOff = true) :
    (t.tryEcho r w now).outcome = Attempt.broken.outcome := by
  unfold tryEcho at broken ⊢
  simp only [] at broken ⊢
  cases found : r.echoAddress t.host with
  | error e =>
    rw [found] at broken
    cases broken
  | ok ip =>
    cases known : w.capability with
    | some known' =>
      simp only [found, known] at broken ⊢
      exact outcome_of_brokenOff_ofEcho broken
    | none =>
      simp only [found, known] at broken ⊢
      exact outcome_of_brokenOff_ofEcho broken

/-- An attempt that breaks off has measured nothing. -/
theorem outcome_of_brokenOff {t : Target} {w : World}
    (broken : (t.attempt w).brokenOff = true) :
    (t.attempt w).outcome = Attempt.broken.outcome := by
  by_cases icmp : t.kind = .icmp
  · rw [attempt_icmp icmp] at broken ⊢
    exact outcome_of_brokenOff_tryEcho broken
  · cases broken.symm.trans (settled_attempt icmp w)

end Target

/-! ## Checks -/

namespace Monitor

variable (m : Monitor) (c : RecorderConfig) (storage : Reply) (n : Notifier) (w : World)
  (recorded : Bool)

/-- A check shows what its attempt measured, and for the rest what was shown before. -/
theorem status_check :
    let o := (m.target.attempt w).outcome
    let s := (m.check c storage n w recorded).status
    s.latency = o.latency.getD m.status.latency ∧ s.pingTime = o.pingTime.getD m.status.pingTime ∧
      s.lastResponse = o.response.getD m.status.lastResponse ∧
      s.lastStatusCode = o.statusCode.getD m.status.lastStatusCode := by
  cases broke : (m.target.attempt w).brokenOff with
  | true =>
    rw [check_of_brokenOff broke, Target.outcome_of_brokenOff broke]
    exact ⟨rfl, rfl, rfl, rfl⟩
  | false =>
    rw [check_of_settled broke]
    unfold conclude Status.record
    cases recorded with
    | false => exact ⟨rfl, rfl, rfl, rfl⟩
    | true => cases (m.target.attempt w).outcome.issue <;> exact ⟨rfl, rfl, rfl, rfl⟩

variable {m c storage n w recorded}

/-- A hit is the record of a success, and tells the latency that the status then shows. -/
theorem latency_of_hit {h : Hit} (hit : (m.check c storage n w recorded).record = some (.hit h)) :
    (m.target.attempt w).outcome.isSuccess = true ∧
      h.latency = ((m.target.attempt w).outcome.latency.getD m.status.latency).toDouble := by
  cases broke : (m.target.attempt w).brokenOff with
  | true =>
    rw [check_of_brokenOff broke] at hit
    cases hit
  | false =>
    rw [check_of_settled broke] at hit
    unfold conclude Status.record at hit
    cases recorded with
    | false => cases hit
    | true =>
      cases issue : (m.target.attempt w).outcome.issue with
      | some text => rw [issue] at hit; cases hit
      | none =>
        rw [issue] at hit
        cases hit
        exact ⟨by rw [Outcome.isSuccess, issue]; rfl, rfl⟩

/-- Which measurements an attempt takes is settled by its kind and by whether it succeeds. A check
that leaves a hit took the latency of the hit itself, and one whose host is not found leaves all
measurements as they were. -/
theorem check_measures (m : Monitor) (c : RecorderConfig) (storage : Reply) (n : Notifier)
    (w : World) (recorded : Bool) :
    let o := (m.target.attempt w).outcome
    let k := m.check c storage n w recorded
    o.Measured m.target.kind ∧
    (∀ h, k.record = some (.hit h) → ∃ d, o.latency = some d ∧ h.latency = d.toDouble) ∧
    (w.finds m.target = false → o.Unmeasured ∧
      k.status.latency = m.status.latency ∧ k.status.pingTime = m.status.pingTime ∧
      k.status.lastResponse = m.status.lastResponse ∧
      k.status.lastStatusCode = m.status.lastStatusCode) := by
  intro o k
  have reaches : Reaches m.target.kind (w.finds m.target) o := m.target.reaches_attempt w
  refine ⟨reaches.measured, fun h hit => ?_, fun lost => ?_⟩
  · obtain ⟨success, latency⟩ := latency_of_hit hit
    obtain ⟨d, taken⟩ := Option.isSome_iff_exists.1 (reaches.measured.success success).1
    refine ⟨d, taken, ?_⟩
    rw [latency, taken]
    rfl
  · rw [lost] at reaches
    have nothing : o.Unmeasured := reaches.unmeasured
    obtain ⟨latency, pingTime, response, statusCode⟩ := m.status_check c storage n w recorded
    rw [nothing.latency] at latency
    rw [nothing.pingTime] at pingTime
    rw [nothing.response] at response
    rw [nothing.statusCode] at statusCode
    exact ⟨nothing, latency, pingTime, response, statusCode⟩

/-- Cut off from the network, a check finds no host under a name. -/
example : (World.cutOff ⟨0, 0⟩).finds { kind := .tcp, address := "nowhere" } = false := by rfl

end Monitor

end Uptime
