import Uptime.Time.Duration

/-!
# Timers

Timers count whole milliseconds: a wait ends at the first whole millisecond that is not before its
time. A wait of no time ends at once.
-/

namespace Uptime.Duration

/-- The first whole millisecond that is not before this time. -/
def roundedUp (d : Duration) : Duration := ⟨(d.nanoseconds + 999999) / 1000000 * 1000000⟩

/-- When a wait that begins at `now` ends. -/
def wakeAfter (now wait : Duration) : Duration := (now + wait).roundedUp

theorem le_roundedUp (d : Duration) : d ≤ d.roundedUp := by
  show d.nanoseconds ≤ (d.nanoseconds + 999999) / 1000000 * 1000000
  omega

/-- Whether a time is a whole number of milliseconds. -/
def Whole (d : Duration) : Prop := 1000000 ∣ d.nanoseconds

theorem whole_roundedUp (d : Duration) : d.roundedUp.Whole := Nat.dvd_mul_left _ _

theorem Whole.roundedUp_eq {d : Duration} (h : d.Whole) : d.roundedUp = d := by
  unfold Whole at h
  refine ext_iff.2 ?_
  show (d.nanoseconds + 999999) / 1000000 * 1000000 = d.nanoseconds
  omega

/-- Whole milliseconds do not matter for the rounding. -/
theorem roundedUp_add {a b : Duration} (h : b.Whole) : (a + b).roundedUp = a.roundedUp + b := by
  unfold Whole at h
  refine ext_iff.2 ?_
  show (a.nanoseconds + b.nanoseconds + 999999) / 1000000 * 1000000 =
    (a.nanoseconds + 999999) / 1000000 * 1000000 + b.nanoseconds
  omega

/-- A wait never ends early. -/
theorem le_wakeAfter (now wait : Duration) : now + wait ≤ wakeAfter now wait := le_roundedUp _

end Uptime.Duration
