import Uptime.Proofs.Recorder.Publishing

/-!
# What leaves a status alone

What is known about a target, the records and what the storage is given depend on the attempts and
the clock only. The timezone is seen in the time that is shown and nowhere else, and neither the
notifications nor the replies of storage and notifier are seen at all (`run_alike`).
-/

namespace Uptime

namespace Status

variable (s : Status)

/-- The status with the time of the last success shown in UTC. -/
def atUtc : Status := { s with lastOnline := s.lastOnline.map fun l => { l with offset := 0 } }

/-- The offset that a record is made with is only shown. -/
theorem record_atUtc (t : Target) (issue : Option String) (now : Instant) (offset : Int) :
    ((s.record t issue now offset).1.atUtc, (s.record t issue now offset).2) =
      s.atUtc.record t issue now 0 := by
  cases issue with
  | none => rfl
  | some issue => simp [record, failedAt, failure, atUtc, Function.comp_def]

end Status

namespace Recorder

/-- Two steps that differ in nothing but the offset at which a time is shown, and in what is
announced. -/
structure Step.Alike (k l : Step) : Prop where
  status : k.status.atUtc = l.status.atUtc
  record : k.record = l.record
  published : k.published = l.published
  stored : k.publication.calls.filterMap Call.stored? = l.publication.calls.filterMap Call.stored?

variable {c d : RecorderConfig} {t : Target} {s s' : Status}

/-- From statuses that differ in the offset only, a task makes steps that differ so little. -/
theorem step_alike (same : s.atUtc = s'.atUtc) (w : Task) (a b : Replies) :
    (step c t s w a).Alike (step d t s' w b) := by
  have measured : (s.measured w.outcome).atUtc = (s'.measured w.outcome).atUtc :=
    congrArg (Status.measured · w.outcome) same
  -- Either record is the one that the status shown in UTC would give in UTC.
  have told := (Status.record_atUtc (s.measured w.outcome) t w.outcome.issue w.now c.offset).trans
    ((congrArg (Status.record · t w.outcome.issue w.now 0) measured).trans
      (Status.record_atUtc (s'.measured w.outcome) t w.outcome.issue w.now d.offset).symm)
  obtain ⟨status, record⟩ := Prod.mk.inj told
  have alike : (step c t s w a).status.atUtc = (step d t s' w b).status.atUtc ∧
      (step c t s w a).record = (step d t s' w b).record := by
    obtain ⟨now, outcome, recorded, published⟩ := w
    cases recorded with
    | false => exact ⟨measured, rfl⟩
    | true => cases published <;> exact ⟨status, congrArg some record⟩
  have published : (step c t s w a).published = (step d t s' w b).published := by
    rw [(step_follows c t s w a).published, (step_follows d t s' w b).published, alike.2]
  refine ⟨alike.1, alike.2, published, ?_⟩
  rw [(step_follows c t s w a).stored, (step_follows d t s' w b).stored, published]

/-- From statuses that differ in the offset only, runs over the same tasks are alike. -/
theorem run_alike_of_atUtc {ws vs : List (Task × Replies)} (same : s.atUtc = s'.atUtc)
    (tasks : ws.map (·.1) = vs.map (·.1)) :
    List.Forall₂ Step.Alike (run c t s ws) (run d t s' vs) := by
  induction ws generalizing s s' vs with
  | nil =>
    obtain rfl : vs = [] := List.map_eq_nil_iff.1 tasks.symm
    exact .nil
  | cons w ws ih =>
    obtain ⟨v, vs, rfl, head, tail⟩ := List.map_eq_cons_iff.1 tasks.symm
    have first : (step c t s w.1 w.2).Alike (step d t s' v.1 v.2) :=
      head ▸ step_alike same w.1 w.2 v.2
    exact .cons first (ih first.status tail.symm)

/-- Two runs over the same tasks are alike in every step, whatever the two timezones, with
notifications or without, and however storage and notifier take each record. -/
theorem run_alike (c d : RecorderConfig) (t : Target) (ws vs : List (Task × Replies))
    (tasks : ws.map (·.1) = vs.map (·.1)) :
    List.Forall₂ Step.Alike (run c t {} ws) (run d t {} vs) :=
  run_alike_of_atUtc rfl tasks

/-- A success and then a failure, with the replies that their records get. -/
def relapse (a b : Replies) : List (Task × Replies) :=
  [({ now := ⟨0, 0⟩, outcome := {} }, a),
    ({ now := ⟨90, 0⟩, outcome := ({} : Outcome).failed "no answer" }, b)]

/-- A run in a timezone that is no number, without notifications and with a storage that breaks off
and then fails, against an undisturbed one: the downtime counts from the same success. -/
theorem run_alike_relapse :
    let c : RecorderConfig := { timezone := 0 / 0, notifications := false }
    let ws := relapse { storage := .broken } { storage := .failed "full" }
    ws.map (·.1) = (relapse {} {}).map (·.1) ∧
      List.Forall₂ Step.Alike (run c {} {} ws) (run {} {} {} (relapse {} {})) ∧
      (run c {} {} ws).map (·.status.downText) = ["", " has been offline for 1 minutes"] := by
  intro c ws
  exact ⟨rfl, run_alike c {} {} ws (relapse {} {}) rfl, by decide +kernel⟩

end Recorder

end Uptime
