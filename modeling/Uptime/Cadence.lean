import Uptime.Time.Duration

/-!
# Wake-up times of one target

The checkpoint moves by exactly one interval for every check, so wake-ups stay on a fixed grid
however long the checks take. Times are durations since some fixed beginning.
-/

namespace Uptime

/-- The state of the schedule of one check loop. -/
structure Cadence where
  /-- The point of the grid that was reached. -/
  checkpoint : Duration
  interval : Duration
  /-- How long to wait before the next check. -/
  sleep : Duration
deriving DecidableEq, Repr

namespace Cadence

/-- The time between the first checks of consecutive ids. -/
def staggerStep : Duration := .ofMillis 100

/-- How long the first check of an id waits: no time below zero, and no longer than for the greatest
number of 32 bits. -/
def stagger (id : Int64) : Duration :=
  ⟨staggerStep.nanoseconds * min id.toInt.toNat 4294967295⟩

/-- A schedule that starts at the time `now`. -/
def start (now interval : Duration) (id : Int64) : Cadence := ⟨now, interval, stagger id⟩

/-- The schedule after a check that ended at the time `now`. A target that is offline waits a full
interval from there instead of catching up with the grid. -/
def advance (c : Cadence) (now : Duration) (online : Bool) : Cadence :=
  let checkpoint := c.checkpoint + c.interval
  let sleep := if online then ⟨checkpoint.nanoseconds - now.nanoseconds⟩ else c.interval
  ⟨checkpoint, c.interval, sleep⟩

@[simp] theorem checkpoint_start (now interval : Duration) (id : Int64) :
    (start now interval id).checkpoint = now := rfl

@[simp] theorem checkpoint_advance (c : Cadence) (now : Duration) (online : Bool) :
    (c.advance now online).checkpoint = c.checkpoint + c.interval := rfl

@[simp] theorem interval_advance (c : Cadence) (now : Duration) (online : Bool) :
    (c.advance now online).interval = c.interval := rfl

theorem sleep_advance_offline (c : Cadence) (now : Duration) :
    (c.advance now false).sleep = c.interval := rfl

/-- After a check that ended behind the grid's last point, no wait ends before its next one. -/
theorem checkpoint_advance_le {c : Cadence} {now : Duration} (reached : c.checkpoint ≤ now)
    (online : Bool) : (c.advance now online).checkpoint ≤ now + (c.advance now online).sleep := by
  rw [Duration.le_iff] at reached
  cases online with
  | true =>
    show c.checkpoint.nanoseconds + c.interval.nanoseconds ≤
      now.nanoseconds + (c.checkpoint.nanoseconds + c.interval.nanoseconds - now.nanoseconds)
    omega
  | false =>
    show c.checkpoint.nanoseconds + c.interval.nanoseconds ≤
      now.nanoseconds + c.interval.nanoseconds
    omega

end Cadence

end Uptime
