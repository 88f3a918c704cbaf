import Mathlib.Data.List.Forall2
import Uptime.Proofs.Monitor.Summary
import Uptime.Proofs.Recorder.Publishing

/-!
# Checks that are not recorded

A check that is not recorded takes over what it measured and leaves no other trace. Between a run
and the same run without such checks nothing differs but measurements: those that the status shows,
and those that a later record falls back on (`checks_unrecorded`).
-/

namespace Uptime

/-- The hit without what was measured. -/
def Hit.unmeasured (h : Hit) : Hit := { h with latency := 0, pingTime := 0 }

/-- The failure without what was measured. -/
def Failure.unmeasured (f : Failure) : Failure := { f with pingTime := 0, errorCode := 0 }

/-- The record without what was measured. -/
def Record.unmeasured : Record → Record
  | .hit h => .hit h.unmeasured
  | .failure f => .failure f.unmeasured

namespace Call

/-- The call without what was measured. -/
def unmeasured : Call → Call
  | .storeHit h => .storeHit h.unmeasured
  | .storeFailure f => .storeFailure f.unmeasured
  | .onSuccess t => .onSuccess t
  | .onFailure t f => .onFailure t f.unmeasured

@[simp] theorem unmeasured_store (r : Record) : (store r).unmeasured = store r.unmeasured := by
  cases r <;> rfl

@[simp] theorem unmeasured_announce (t : Target) (r : Record) :
    (announce t r).unmeasured = announce t r.unmeasured := by
  cases r <;> rfl

end Call

namespace Status

/-- The status without the latest measurements. -/
def unmeasured (s : Status) : Status :=
  { s with latency := .zero, pingTime := .zero, lastResponse := "", lastStatusCode := 0 }

variable {s s' : Status}

theorem unmeasured_measured (s : Status) (o : Outcome) :
    (s.measured o).unmeasured = s.unmeasured := rfl

/-- What was measured is nothing to a record but what it shows. -/
theorem record_unmeasured (s : Status) (t : Target) (issue : Option String) (now : Instant)
    (offset : Int) :
    ((s.record t issue now offset).1.unmeasured, (s.record t issue now offset).2.unmeasured) =
      ((s.unmeasured.record t issue now offset).1.unmeasured,
        (s.unmeasured.record t issue now offset).2.unmeasured) := by
  cases issue <;> rfl

theorem record_congr (same : s.unmeasured = s'.unmeasured) (t : Target) (issue : Option String)
    (now : Instant) (offset : Int) :
    (s.record t issue now offset).1.unmeasured = (s'.record t issue now offset).1.unmeasured ∧
      (s.record t issue now offset).2.unmeasured = (s'.record t issue now offset).2.unmeasured := by
  refine Prod.mk.inj ?_
  rw [record_unmeasured s, record_unmeasured s', same]

end Status

/-- Records that differ in measurements only are published by calls that differ so. -/
theorem Recorder.publish_congr (c : RecorderConfig) (a : Replies) (t : Target) {r r' : Record}
    (same : r.unmeasured = r'.unmeasured) :
    (publish c a.storage a.notifier t r).calls.map Call.unmeasured =
      (publish c a.storage a.notifier t r').calls.map Call.unmeasured := by
  rw [calls_publish, calls_publish]
  cases announces c a.storage <;> simp [same]

namespace Monitor

/-- What a check of a run leaves. -/
def checkAt (c : RecorderConfig) (m : Monitor) (o : Occasion) : Check :=
  m.conclude c o.storage o.notifier o.now o.attempt o.recorded

/-- What the checks of a run leave, one after the other. -/
def checks (c : RecorderConfig) (m : Monitor) : List Occasion → List Check
  | [] => []
  | o :: os => m.checkAt c o :: (m.next c o).checks c os

/-- The calls of a run, in order. -/
def calls (c : RecorderConfig) (m : Monitor) (os : List Occasion) : List Call :=
  (m.checks c os).flatMap (·.calls)

/-- The records of a run, in order. -/
def records (c : RecorderConfig) (m : Monitor) (os : List Occasion) : List Record :=
  (m.checks c os).filterMap (·.record)

/-- Two monitors of a target that differ in the latest measurements only. -/
structure Alike (m m' : Monitor) : Prop where
  target : m.target = m'.target
  status : m.status.unmeasured = m'.status.unmeasured

variable {c : RecorderConfig} {m m' : Monitor} {o : Occasion} {os : List Occasion}

theorem Alike.refl (m : Monitor) : m.Alike m := ⟨rfl, rfl⟩

theorem next_eq_after (c : RecorderConfig) (m : Monitor) (o : Occasion) :
    m.next c o = m.after (m.checkAt c o) := rfl

/-! ## One check -/

/-- A check that is not recorded calls nobody, leaves no record, and tells whether its own attempt
succeeded. -/
theorem checkAt_unrecorded (m : Monitor) (unrecorded : o.recorded = false) :
    (m.checkAt c o).calls = [] ∧ (m.checkAt c o).record = none ∧
      (m.checkAt c o).online = o.succeeded ∧
      (m.checkAt c o).status = m.status.measured o.attempt.outcome := by
  rw [checkAt, unrecorded]
  exact ⟨rfl, rfl, rfl, rfl⟩

theorem Alike.unrecorded (alike : m.Alike m') (unrecorded : o.recorded = false) :
    (m.next c o).Alike m' where
  target := alike.target
  status := by
    obtain ⟨-, -, -, status⟩ := checkAt_unrecorded (c := c) m unrecorded
    calc (m.next c o).status.unmeasured
        = (m.status.measured o.attempt.outcome).unmeasured := congrArg Status.unmeasured status
      _ = m.status.unmeasured := Status.unmeasured_measured ..
      _ = m'.status.unmeasured := alike.status

/-- A recorded check of monitors that are alike leaves the same but for measurements. -/
theorem Alike.recorded (alike : m.Alike m') (recorded : o.recorded = true) :
    (m.next c o).Alike (m'.next c o) ∧
      (m.checkAt c o).calls.map Call.unmeasured = (m'.checkAt c o).calls.map Call.unmeasured ∧
      (m.checkAt c o).record.map Record.unmeasured =
        (m'.checkAt c o).record.map Record.unmeasured := by
  obtain ⟨t, s⟩ := m
  obtain ⟨t', s'⟩ := m'
  obtain ⟨rfl, same⟩ : t = t' ∧ s.unmeasured = s'.unmeasured := ⟨alike.target, alike.status⟩
  have measured : (s.measured o.attempt.outcome).unmeasured =
      (s'.measured o.attempt.outcome).unmeasured := same
  obtain ⟨status, record⟩ := Status.record_congr measured t o.attempt.outcome.issue o.now c.offset
  rw [next_eq_after, next_eq_after, checkAt, checkAt, recorded]
  exact ⟨⟨rfl, status⟩, Recorder.publish_congr c ⟨o.storage, o.notifier⟩ t record,
    congrArg some record⟩

/-! ## A run -/

theorem calls_cons (c : RecorderConfig) (m : Monitor) (o : Occasion) (os : List Occasion) :
    m.calls c (o :: os) = (m.checkAt c o).calls ++ (m.next c o).calls c os := rfl

theorem records_cons (c : RecorderConfig) (m : Monitor) (o : Occasion) (os : List Occasion) :
    m.records c (o :: os) = (m.checkAt c o).record.toList ++ (m.next c o).records c os := by
  rw [records, checks, List.filterMap_cons]
  cases (m.checkAt c o).record <;> rfl

/-- A run of one monitor is followed by a run of another that leaves out the checks that are not
recorded. -/
theorem Alike.run (alike : m.Alike m') (os : List Occasion) :
    (m.run c os).Alike (m'.run c (Occasion.records os)) ∧
      (m.calls c os).map Call.unmeasured =
        (m'.calls c (Occasion.records os)).map Call.unmeasured ∧
      (m.records c os).map Record.unmeasured =
        (m'.records c (Occasion.records os)).map Record.unmeasured := by
  induction os generalizing m m' with
  | nil => exact ⟨alike, rfl, rfl⟩
  | cons o os ih =>
    cases recorded : o.recorded with
    | false =>
      have rest : Occasion.records (o :: os) = Occasion.records os := by
        simp [Occasion.records, recorded]
      obtain ⟨calls, record, -, -⟩ := checkAt_unrecorded (c := c) m recorded
      rw [rest, calls_cons, calls, records_cons, record]
      exact ih (alike.unrecorded recorded)
    | true =>
      have rest : Occasion.records (o :: os) = o :: Occasion.records os := by
        simp [Occasion.records, recorded]
      obtain ⟨next, calls, record⟩ := alike.recorded (c := c) recorded
      obtain ⟨after, laterCalls, laterRecords⟩ := ih next
      rw [rest]
      refine ⟨after, ?_, ?_⟩
      · rw [calls_cons, calls_cons, List.map_append, List.map_append, calls, laterCalls]
      · rw [records_cons, records_cons, List.map_append, List.map_append, ← Option.toList_map,
          ← Option.toList_map, record, laterRecords]

/-- In a run each check that is not recorded calls nobody, leaves no record and tells whether its
own attempt succeeded. Without these checks the run would have left the same status, calls and
records, but for measurements. -/
theorem checks_unrecorded (c : RecorderConfig) (m : Monitor) (os : List Occasion) :
    List.Forall₂ (fun o k => o.recorded = false →
      k.calls = [] ∧ k.record = none ∧ k.online = o.succeeded) os (m.checks c os) ∧
    (m.run c os).status.unmeasured = (m.run c (Occasion.records os)).status.unmeasured ∧
    (m.calls c os).map Call.unmeasured =
      (m.calls c (Occasion.records os)).map Call.unmeasured ∧
    (m.records c os).map Record.unmeasured =
      (m.records c (Occasion.records os)).map Record.unmeasured := by
  obtain ⟨alike, calls, records⟩ := (Alike.refl m).run (c := c) os
  refine ⟨?_, alike.status, calls, records⟩
  clear alike calls records
  induction os generalizing m with
  | nil => exact .nil
  | cons o os ih =>
    refine .cons (fun unrecorded => ?_) (ih (m.next c o))
    obtain ⟨calls, record, online, -⟩ := checkAt_unrecorded (c := c) m unrecorded
    exact ⟨calls, record, online⟩

end Monitor

end Uptime
