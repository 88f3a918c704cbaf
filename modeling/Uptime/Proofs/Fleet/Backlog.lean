import Uptime.Proofs.Fleet.Grid

/-!
# Checks that follow each other at once

The checkpoint moves by one interval for every check, also while a target is offline and every check
is followed by a full interval. So an outage leaves the loop behind its grid by the length of all
its checks (`backlog_offline`), and the checks after it follow each other at once until that is made
up for (`sleep_eq_zero`). Times are in nanoseconds, checks are counted from one.
-/

namespace Uptime.Fleet

/-- How far the start of a check lies behind the point of the grid that belongs to it. -/
def Cycle.backlog (c : Cycle) (interval : Nat) : Nat → Nat
  | 0 => (Cadence.stagger c.id).nanoseconds
  | n + 1 =>
    if c.finds (n + 1) then c.backlog interval n + c.length (n + 1) - interval
    else c.backlog interval n + c.length (n + 1)

namespace Course

variable {ticket : Nat} {c : Cycle} {began interval : Duration}

/-! ## What the backlog says -/

theorem startOf_backlog (whole : interval.Whole) (takes : ∀ n, (c.takes n).Whole) (n : Nat) :
    ((start ticket c began interval).startOf (n + 1)).nanoseconds =
      began.roundedUp.nanoseconds + n * interval.nanoseconds +
        c.backlog interval.nanoseconds n := by
  induction n with
  | zero =>
    rw [startOf_one, Nat.zero_mul, Nat.add_zero]
    rfl
  | succ n ih =>
    have succ : (n + 1) * interval.nanoseconds = n * interval.nanoseconds + interval.nanoseconds :=
      Nat.succ_mul _ _
    rw [Cycle.backlog]
    split
    next online =>
      rw [startOf_next whole takes (Nat.le_add_left 1 n) online, ih, succ]
      omega
    next offline =>
      have found : c.online n = false := Bool.eq_false_iff.2 offline
      rw [startOf_succ, cadenceAfter_succ, found, Cadence.sleep_advance_offline, interval_after,
        Duration.wakeAfter, Duration.roundedUp_add whole, (whole_endOf (takes n)).roundedUp_eq,
        Duration.nanoseconds_add, nanoseconds_endOf, ih, succ]
      omega

/-- There is a wait after every check but one that finds the target online and ends at the next point
of the schedule or behind it. -/
theorem sleep_pos_iff (pos : 0 < interval.nanoseconds) (n : Nat) :
    0 < ((start ticket c began interval).cadenceAfter (n + 1)).sleep.nanoseconds ↔
      c.finds (n + 1) = true →
        ((start ticket c began interval).endOf (n + 1)).nanoseconds <
          began.nanoseconds + (n + 1) * interval.nanoseconds := by
  have reached := checkpoint_after ticket c began interval (n + 1)
  rw [cadenceAfter_succ, Cadence.checkpoint_advance] at reached
  rw [cadenceAfter_succ]
  cases found : c.online n with
  | true =>
    have online : c.finds (n + 1) = true := found
    show 0 < Duration.nanoseconds (_ + _) - _ ↔ _
    rw [reached, Nat.sub_pos_iff_lt]
    exact ⟨fun early _ => early, fun early => early online⟩
  | false =>
    have offline : ¬ c.finds (n + 1) = true := Bool.eq_false_iff.1 found
    rw [Cadence.sleep_advance_offline, interval_after]
    exact iff_of_true pos fun online => absurd online offline

/-- There is a wait after every check but one that finds the target online so late that, with its own
length, the backlog takes up the interval. -/
theorem sleep_pos_iff_backlog (whole : interval.Whole) (takes : ∀ n, (c.takes n).Whole)
    (pos : 0 < interval.nanoseconds) (n : Nat) :
    0 < ((start ticket c began interval).cadenceAfter (n + 1)).sleep.nanoseconds ↔
      c.finds (n + 1) = true →
        c.backlog interval.nanoseconds n + c.length (n + 1) < interval.nanoseconds := by
  have ended : ((start ticket c began interval).endOf (n + 1)).nanoseconds = _ :=
    nanoseconds_endOf n
  rw [startOf_backlog whole takes] at ended
  have endsWhole : 1000000 ∣ ((start ticket c began interval).endOf (n + 1)).nanoseconds :=
    whole_endOf (takes n)
  have point : 1000000 ∣ n * interval.nanoseconds := Nat.dvd_mul_left_of_dvd whole _
  have length : 1000000 ∣ interval.nanoseconds := whole
  have succ : (n + 1) * interval.nanoseconds = n * interval.nanoseconds + interval.nanoseconds :=
    Nat.succ_mul _ _
  -- Everything but the beginning is in whole milliseconds, so its fraction does not decide.
  have rounded : began.roundedUp.nanoseconds = (began.nanoseconds + 999999) / 1000000 * 1000000 :=
    rfl
  rw [sleep_pos_iff pos]
  refine forall_congr' fun _ => ?_
  rw [succ]
  omega

/-- A wait of no time: the next check starts when the last one ends. -/
theorem startOf_succ_of_sleep {n : Nat} (takes : (c.takes n).Whole)
    (none : ((start ticket c began interval).cadenceAfter (n + 1)).sleep.nanoseconds = 0) :
    (start ticket c began interval).startOf (n + 2) =
      (start ticket c began interval).endOf (n + 1) := by
  have zero : ((start ticket c began interval).cadenceAfter (n + 1)).sleep = .zero :=
    Duration.ext_iff.2 none
  rw [startOf_succ, zero]
  exact (whole_endOf takes).roundedUp_eq

/-! ## How it comes and goes -/

/-- While a target is offline the backlog grows by the length of every check. -/
theorem backlog_offline (interval m k : Nat)
    (offline : ∀ j ∈ Finset.Ioc m (m + k), c.finds j = false) :
    c.backlog interval (m + k) = c.backlog interval m + ∑ j ∈ Finset.Ioc m (m + k), c.length j := by
  induction k with
  | zero => simp
  | succ k ih =>
    have last : c.finds (m + k + 1) = false := offline _ (Finset.mem_Ioc.2 ⟨by omega, by omega⟩)
    have before := ih fun j hj => offline j (Finset.Ioc_subset_Ioc_right (by omega) hj)
    rw [← Nat.add_assoc, Cycle.backlog, last, before, Finset.sum_Ioc_succ_top (by omega)]
    exact Nat.add_assoc _ _ _

/-- An online check makes up for one interval at most. -/
theorem backlog_online (interval m k : Nat)
    (online : ∀ j ∈ Finset.Ioc m (m + k), c.finds j = true) :
    c.backlog interval m ≤ c.backlog interval (m + k) + k * interval := by
  induction k with
  | zero => simp
  | succ k ih =>
    have last : c.finds (m + k + 1) = true := online _ (Finset.mem_Ioc.2 ⟨by omega, by omega⟩)
    have before := ih fun j hj => online j (Finset.Ioc_subset_Ioc_right (by omega) hj)
    rw [← Nat.add_assoc, Cycle.backlog, if_pos last, Nat.succ_mul]
    omega

/-- As many online checks as intervals go into the backlog have no wait behind them. -/
theorem sleep_eq_zero (whole : interval.Whole) (takes : ∀ n, (c.takes n).Whole)
    (pos : 0 < interval.nanoseconds) {m k : Nat}
    (online : ∀ j ∈ Finset.Ioc m (m + k), c.finds j = true)
    (behind : k * interval.nanoseconds ≤ c.backlog interval.nanoseconds m) :
    ∀ j ∈ Finset.Ioc m (m + k),
      ((start ticket c began interval).cadenceAfter j).sleep.nanoseconds = 0 := by
  intro j hj
  obtain ⟨after, upTo⟩ := Finset.mem_Ioc.1 hj
  obtain ⟨i, rfl⟩ : ∃ i, j = m + i + 1 := ⟨j - m - 1, by omega⟩
  have left : c.backlog interval.nanoseconds m ≤ _ :=
    backlog_online interval.nanoseconds m i fun j hj =>
      online j (Finset.Ioc_subset_Ioc_right (by omega) hj)
  have most : (i + 1) * interval.nanoseconds ≤ k * interval.nanoseconds :=
    Nat.mul_le_mul_right _ (by omega)
  rw [Nat.succ_mul] at most
  refine Nat.eq_zero_of_not_pos fun waits => ?_
  have short := (sleep_pos_iff_backlog whole takes pos (m + i)).1 waits (online _ hj)
  omega

/-- Short checks that all find the target online leave no backlog behind. -/
theorem backlog_steady {interval : Nat} (first : c.id.toInt ≤ 0)
    (short : ∀ n, c.length n ≤ interval) (online : ∀ n, c.finds n = true) (n : Nat) :
    c.backlog interval n = 0 := by
  induction n with
  | zero =>
    show 100000000 * min c.id.toInt.toNat 4294967295 = 0
    rw [Int.toNat_of_nonpos first]
    rfl
  | succ n ih =>
    rw [Cycle.backlog, if_pos (online _), ih, Nat.zero_add]
    exact Nat.sub_eq_zero_of_le (short _)

/-- When a loop that is left alone checks again without a wait. -/
structure CatchesUp (ticket : Nat) (c : Cycle) (began interval : Duration) : Prop where
  /-- A start lies behind its point of the grid by the backlog. -/
  starts : ∀ n, ((start ticket c began interval).startOf (n + 1)).nanoseconds =
    began.roundedUp.nanoseconds + n * interval.nanoseconds + c.backlog interval.nanoseconds n
  /-- A check has no wait behind it if it finds the target online and the backlog, with its length,
  takes up the interval. -/
  waits : ∀ n, 0 < ((start ticket c began interval).cadenceAfter (n + 1)).sleep.nanoseconds ↔
    c.finds (n + 1) = true →
      c.backlog interval.nanoseconds n + c.length (n + 1) < interval.nanoseconds
  /-- Without a wait the next check starts when the last one ends. -/
  atOnce : ∀ n, ((start ticket c began interval).cadenceAfter (n + 1)).sleep.nanoseconds = 0 →
    (start ticket c began interval).startOf (n + 2) =
      (start ticket c began interval).endOf (n + 1)
  /-- An outage adds the lengths of all its checks to the backlog. -/
  outage : ∀ m k, (∀ j ∈ Finset.Ioc m (m + k), c.finds j = false) →
    c.backlog interval.nanoseconds (m + k) =
      c.backlog interval.nanoseconds m + ∑ j ∈ Finset.Ioc m (m + k), c.length j
  /-- After it as many checks follow each other at once as intervals go into the backlog. -/
  burst : ∀ m k, (∀ j ∈ Finset.Ioc m (m + k), c.finds j = true) →
    k * interval.nanoseconds ≤ c.backlog interval.nanoseconds m →
      ∀ j ∈ Finset.Ioc m (m + k),
        ((start ticket c began interval).cadenceAfter j).sleep.nanoseconds = 0
  /-- With short checks, no outage and no stagger there is always a wait. -/
  steady : c.id.toInt ≤ 0 → (∀ n, c.length n < interval.nanoseconds) →
    (∀ n, c.finds n = true) →
      ∀ n, 0 < ((start ticket c began interval).cadenceAfter (n + 1)).sleep.nanoseconds

/-- A loop waits after every check as long as there is no outage, and makes up at once for what an
outage took; so do the loops of a fleet until they are told to stop, which are on such a course. -/
theorem catchesUp {interval : Duration} (whole : interval.Whole) (pos : 0 < interval.nanoseconds)
    {c : Cycle} (takes : ∀ n, (c.takes n).Whole) (ticket : Nat) (began : Duration) :
    CatchesUp ticket c began interval ∧
      ∀ as, Timely as {} → ∀ l ∈ (perform as {}).loops, l.isTold = false →
        Follows (movesOf l.ticket (trace as {})) l := by
  refine ⟨?_, fun as timely => (onCourse_perform timely).follows⟩
  exact
    { starts := startOf_backlog whole takes
      waits := sleep_pos_iff_backlog whole takes pos
      atOnce := fun n none => startOf_succ_of_sleep (takes n) none
      outage := backlog_offline interval.nanoseconds
      burst := fun m k online behind => sleep_eq_zero whole takes pos online behind
      steady := fun first short online n => by
        refine (sleep_pos_iff_backlog whole takes pos n).2 fun _ => ?_
        rw [backlog_steady first (fun n => (short n).le) online, Nat.zero_add]
        exact short _ }

/-- A target whose first four checks find it offline. -/
def recovering : Cycle :=
  { id := 0, name := "recovering", interval := 10, takes := fun _ => .ofSeconds 3,
    online := fun n => decide (4 ≤ n) }

/-- Four checks of three seconds with an interval of ten put off the fifth by more than one
interval, so that the sixth starts when the fifth ends. -/
theorem catchesUp_recovering :
    (start 0 recovering (.ofMillis 5) recovering.period).startOf 6 =
      (start 0 recovering (.ofMillis 5) recovering.period).endOf 5 := by
  have whole : recovering.period.Whole := ⟨10000, rfl⟩
  have takes : ∀ n, (recovering.takes n).Whole := fun _ => ⟨3000, rfl⟩
  have catches := (catchesUp whole (by decide) takes 0 (.ofMillis 5)).1
  have behind := catches.outage 0 4 (by decide)
  have none := catches.burst 4 1 (by decide) (by rw [← Nat.zero_add 4, behind]; decide) 5 (by decide)
  exact catches.atOnce 4 none

/-- Short checks and no stagger are not enough for a wait after every check. -/
theorem waits_not_kept : ¬ ∀ (ticket : Nat) (c : Cycle) (began : Duration),
    c.id = 0 → (∀ n, c.takes n < c.period) →
      ∀ n, 0 < ((start ticket c began c.period).cadenceAfter (n + 1)).sleep.nanoseconds := by
  intro waits
  have short : ∀ n, recovering.takes n < recovering.period := fun _ =>
    show Duration.ofSeconds 3 < recovering.period by decide
  have fifth := waits 0 recovering (.ofMillis 5) rfl short 4
  revert fifth
  decide

end Course

end Uptime.Fleet
