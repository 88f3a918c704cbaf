import Mathlib.Data.List.DropRight
import Mathlib.Data.List.Induction
import Uptime.Monitor

/-!
# What a status tells

The status of a target is changed check by check, by rules that differ from field to field. Over a
whole run it is a summary of what happened (`summary`): the last recorded check, the last recorded
success, the failures recorded since, and the latest measurements.
-/

namespace Uptime

/-- A check in a run: what the clock shows, what the attempt finds, whether it is recorded, and how
storage and notifier take the record. A check that breaks off is none of them, since the run ends
with it. -/
structure Occasion where
  now : Instant
  attempt : Attempt
  recorded : Bool
  storage : Reply := .done
  notifier : Notifier := .log

/-- Whether the attempt succeeded. -/
def Occasion.succeeded (o : Occasion) : Bool := o.attempt.outcome.isSuccess

namespace Monitor

/-- The monitor after one more check. -/
def next (c : RecorderConfig) (m : Monitor) (o : Occasion) : Monitor :=
  m.after (m.conclude c o.storage o.notifier o.now o.attempt o.recorded)

/-- The monitor after a run of checks. -/
def run (c : RecorderConfig) (m : Monitor) (os : List Occasion) : Monitor := os.foldl (next c) m

theorem run_concat (c : RecorderConfig) (m : Monitor) (os : List Occasion) (o : Occasion) :
    m.run c (os ++ [o]) = (m.run c os).next c o := by
  rw [run, run, List.foldl_append]
  rfl

theorem target_run (c : RecorderConfig) (m : Monitor) (os : List Occasion) :
    (m.run c os).target = m.target := by
  induction os using List.reverseRecOn with
  | nil => rfl
  | append_singleton os o ih =>
    rw [run_concat]
    exact ih

theorem status_next (c : RecorderConfig) (m : Monitor) (o : Occasion) :
    (m.next c o).status =
      if o.recorded then
        if o.succeeded then (m.status.measured o.attempt.outcome).succeeded o.now c.offset
        else (m.status.measured o.attempt.outcome).failedAt m.target.name o.now
      else m.status.measured o.attempt.outcome := by
  unfold next after conclude Occasion.succeeded Outcome.isSuccess
  cases o.recorded with
  | false => rfl
  | true => cases o.attempt.outcome.issue <;> rfl

end Monitor

namespace Occasion

/-- The recorded checks of a run. -/
def records (os : List Occasion) : List Occasion := os.filter (·.recorded)

/-- Whether the last recorded check succeeded; false if none was recorded. -/
def succeededLast (os : List Occasion) : Bool := (records os).getLast?.any (·.succeeded)

/-- The last recorded success. -/
def lastSuccess? (os : List Occasion) : Option Occasion :=
  ((records os).filter (·.succeeded)).getLast?

/-- The failures that were recorded since the last recorded success. -/
def streak (os : List Occasion) : List Occasion := (records os).rtakeWhile fun o => !o.succeeded

/-- The latest value that was measured by any check, recorded or not. -/
def latest? {α : Type} (value : Outcome → Option α) (os : List Occasion) : Option α :=
  (os.filterMap fun o => value o.attempt.outcome).getLast?

/-- The text about the downtime: nothing unless there were failures since the last success. -/
def downText (name : String) (os : List Occasion) : String :=
  match (streak os).head?, (streak os).getLast? with
  | some first, some last =>
    downtimeText name last.now (((lastSuccess? os).map (·.now)).getD first.now)
  | _, _ => ""

/-- The summary of a run. -/
def summary (name : String) (offset : Int) (os : List Occasion) : Status :=
  { online := succeededLast os
    latency := (latest? (·.latency) os).getD .zero
    pingTime := (latest? (·.pingTime) os).getD .zero
    lastResponse := (latest? (·.response) os).getD ""
    lastStatusCode := (latest? (·.statusCode) os).getD 0
    failureCount := .ofNat (streak os).length
    lastOnline := (lastSuccess? os).map fun o => ⟨o.now, offset⟩
    downSince := (streak os).head?.map (·.now)
    downText := downText name os
    successNotified := succeededLast os }

section

variable (os : List Occasion) (o : Occasion)

theorem records_concat :
    records (os ++ [o]) = if o.recorded then records os ++ [o] else records os := by
  unfold records
  cases h : o.recorded <;> simp [h]

theorem latest?_concat {α : Type} (value : Outcome → Option α) :
    latest? value (os ++ [o]) = (value o.attempt.outcome).or (latest? value os) := by
  unfold latest?
  cases h : value o.attempt.outcome <;> simp [h]

variable {os o}

/-- A check that is not recorded changes the measurements only. -/
theorem summary_unrecorded (name : String) (offset : Int) (unrecorded : o.recorded = false) :
    summary name offset (os ++ [o]) = (summary name offset os).measured o.attempt.outcome := by
  have same : records (os ++ [o]) = records os := by
    rw [records_concat, unrecorded]
    rfl
  simp only [summary, Status.measured, downText, succeededLast, lastSuccess?, streak, same,
    latest?_concat, Option.getD_or]

/-- A recorded success ends the streak of failures. -/
theorem summary_success (name : String) (offset : Int) (recorded : o.recorded = true)
    (success : o.succeeded = true) : summary name offset (os ++ [o]) =
      ((summary name offset os).measured o.attempt.outcome).succeeded o.now offset := by
  have more : records (os ++ [o]) = records os ++ [o] := by
    rw [records_concat, recorded]
    rfl
  have last : succeededLast (os ++ [o]) = true := by
    rw [succeededLast, more, List.getLast?_concat]
    exact success
  have latest : lastSuccess? (os ++ [o]) = some o := by
    rw [lastSuccess?, more, List.filter_append, List.filter_singleton, success]
    exact List.getLast?_concat ..
  have none : streak (os ++ [o]) = [] := by
    rw [streak, more, List.rtakeWhile_concat_neg _ _ _ (by simp [success])]
  simp only [summary, Status.measured, Status.succeeded, downText, last, latest, none,
    latest?_concat, Option.getD_or]
  rfl

/-- A recorded failure begins or continues a streak. -/
theorem summary_failure (name : String) (offset : Int) (recorded : o.recorded = true)
    (failure : o.succeeded = false) : summary name offset (os ++ [o]) =
      ((summary name offset os).measured o.attempt.outcome).failedAt name o.now := by
  have more : records (os ++ [o]) = records os ++ [o] := by
    rw [records_concat, recorded]
    rfl
  have last : succeededLast (os ++ [o]) = false := by
    rw [succeededLast, more, List.getLast?_concat]
    exact failure
  have same : lastSuccess? (os ++ [o]) = lastSuccess? os := by
    rw [lastSuccess?, more, List.filter_append, List.filter_singleton, failure]
    exact congrArg _ (List.append_nil _)
  have longer : streak (os ++ [o]) = streak os ++ [o] := by
    rw [streak, more, List.rtakeWhile_concat_pos _ _ _ (by simp [failure])]
    rfl
  have first : (streak (os ++ [o])).head?.map (·.now) =
      some (((streak os).head?.map (·.now)).getD o.now) := by
    rw [longer]
    cases streak os <;> rfl
  have text : downText name (os ++ [o]) = downtimeText name o.now
      (((lastSuccess? os).map (·.now)).getD (((streak os).head?.map (·.now)).getD o.now)) := by
    rw [downText, same, longer, List.getLast?_concat]
    cases streak os <;> rfl
  have count : UInt32.ofNat (streak (os ++ [o])).length = UInt32.ofNat (streak os).length + 1 := by
    rw [longer, List.length_append]
    exact UInt32.ofNat_add _ _
  simp only [summary, Status.measured, Status.failedAt, last, same, first, text, count,
    latest?_concat, Option.getD_or, Option.map_map]
  rfl

end

end Occasion

/-- After every run the status of a target is the summary of the run, and it counts the failures of
the present streak as long as they fit into 32 bits. -/
theorem status_run (c : RecorderConfig) (t : Target) (os : List Occasion)
    (few : (Occasion.streak os).length < 4294967296) :
    (({ target := t } : Monitor).run c os).status = Occasion.summary t.name c.offset os ∧
      (Occasion.summary t.name c.offset os).failureCount.toNat = (Occasion.streak os).length := by
  refine ⟨?_, UInt32.toNat_ofNat_of_lt' few⟩
  clear few
  induction os using List.reverseRecOn with
  | nil => rfl
  | append_singleton os o ih =>
    rw [Monitor.run_concat, Monitor.status_next, Monitor.target_run, ih]
    split
    · next recorded =>
      split
      · next success => exact (Occasion.summary_success _ _ recorded success).symm
      · next failure => exact (Occasion.summary_failure _ _ recorded (by simpa using failure)).symm
    · next unrecorded => exact (Occasion.summary_unrecorded _ _ (by simpa using unrecorded)).symm

/-- A success, a failure after ten seconds, an attempt that is not recorded, and a failure after
half a minute. -/
def outage : List Occasion :=
  let lost : Attempt := { outcome := ({} : Outcome).failed "no answer" }
  [{ now := ⟨0, 0⟩, attempt := { outcome := {} }, recorded := true },
    { now := ⟨10, 0⟩, attempt := lost, recorded := true },
    { now := ⟨20, 0⟩, attempt := { outcome := {} }, recorded := false },
    { now := ⟨30, 0⟩, attempt := lost, recorded := true }]

/-- The downtime counts from the success, the streak from the first failure. -/
theorem status_run_outage : (Occasion.streak outage).length < 4294967296 ∧
    (({ target := { name := "a" } } : Monitor).run {} outage).status.downText =
      "a has been offline for 30 seconds" ∧
    (({ target := { name := "a" } } : Monitor).run {} outage).status.downSince = some ⟨10, 0⟩ ∧
    (({ target := { name := "a" } } : Monitor).run {} outage).status.failureCount.toNat = 2 := by
  have few : (Occasion.streak outage).length < 4294967296 := by decide
  obtain ⟨told, count⟩ := status_run {} { name := "a" } outage few
  refine ⟨few, ?_⟩
  rw [told]
  exact ⟨by decide +kernel, rfl, count⟩

end Uptime
