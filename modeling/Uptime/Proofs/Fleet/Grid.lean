import Mathlib
import Uptime.Proofs.Fleet.Course

/-!
# Keeping to the grid

The start of a check follows from the one before it by a recursion with a maximum: a check that ends
late is followed at once, and one that ends early waits for the grid. Over checks that all find the
target online the recursion has a closed form (`Course.startOf_stretch`). Times are in nanoseconds,
checks are counted from one.
-/

namespace Uptime.Fleet

/-- How long a check takes. -/
def Cycle.length (c : Cycle) (n : Nat) : Nat := (c.takes (n - 1)).nanoseconds

/-- Whether a check finds the target online. -/
def Cycle.finds (c : Cycle) (n : Nat) : Bool := c.online (n - 1)

namespace Course

variable {ticket : Nat} {c : Cycle} {began interval : Duration}

theorem whole_startOf (n : Nat) : ((start ticket c began interval).startOf (n + 1)).Whole := by
  rw [startOf_succ]
  exact Duration.whole_roundedUp _

theorem whole_endOf {n : Nat} (takes : (c.takes n).Whole) :
    ((start ticket c began interval).endOf (n + 1)).Whole := by
  rw [endOf_succ]
  exact Nat.dvd_add (whole_startOf n) takes

/-- The first check starts after the stagger of the id. -/
theorem startOf_one : (start ticket c began interval).startOf 1 =
    began.roundedUp + Cadence.stagger c.id := by
  rw [startOf_succ]
  refine Duration.roundedUp_add ?_
  exact Nat.dvd_trans ⟨100, rfl⟩ (Nat.dvd_mul_right _ _)

theorem nanoseconds_endOf (n : Nat) :
    ((start ticket c began interval).endOf (n + 1)).nanoseconds =
      ((start ticket c began interval).startOf (n + 1)).nanoseconds + c.length (n + 1) := by
  rw [endOf_succ]
  rfl

/-- After a check that found the target online the next one starts at once or on the grid. -/
theorem startOf_online (whole : interval.Whole) {n : Nat} (takes : (c.takes n).Whole)
    (online : c.finds (n + 1) = true) :
    ((start ticket c began interval).startOf (n + 2)).nanoseconds =
      max ((start ticket c began interval).endOf (n + 1)).nanoseconds
        (began.roundedUp.nanoseconds + (n + 1) * interval.nanoseconds) := by
  have reached := checkpoint_after ticket c began interval (n + 1)
  have ended : 1000000 ∣ ((start ticket c began interval).endOf (n + 1)).nanoseconds :=
    whole_endOf takes
  have point : 1000000 ∣ (n + 1) * interval.nanoseconds := Nat.dvd_mul_left_of_dvd whole _
  rw [cadenceAfter_succ, Cadence.checkpoint_advance] at reached
  have found : c.online n = true := online
  rw [startOf_succ, cadenceAfter_succ, found]
  show (_ + (_ - _) + 999999) / 1000000 * 1000000 = max _ ((_ + 999999) / 1000000 * 1000000 + _)
  rw [reached]
  omega

/-- One step of the recursion. -/
theorem startOf_next (whole : interval.Whole) (takes : ∀ n, (c.takes n).Whole) {n : Nat}
    (pos : 1 ≤ n) (online : c.finds n = true) :
    ((start ticket c began interval).startOf (n + 1)).nanoseconds =
      max (((start ticket c began interval).startOf n).nanoseconds + c.length n)
        (began.roundedUp.nanoseconds + n * interval.nanoseconds) := by
  obtain ⟨n, rfl⟩ := Nat.exists_eq_add_of_le' pos
  rw [startOf_online whole (takes n) online, nanoseconds_endOf]

/-- What holds a start back grows with a further check by its length, unless the grid holds it back
for longer. -/
theorem sup_grid_succ (c : Cycle) (began interval : Nat) {m n : Nat} (le : m ≤ n) :
    ((Finset.Icc m (n + 1)).sup fun i =>
        began + i * interval + ∑ j ∈ Finset.Ioc i (n + 1), c.length j) =
      max (((Finset.Icc m n).sup fun i => began + i * interval + ∑ j ∈ Finset.Ioc i n, c.length j) +
        c.length (n + 1)) (began + (n + 1) * interval) := by
  have extend : Finset.Icc m (n + 1) = insert (n + 1) (Finset.Icc m n) := by
    ext i
    simp only [Finset.mem_insert, Finset.mem_Icc]
    omega
  have later : ∀ i ∈ Finset.Icc m n, began + i * interval + ∑ j ∈ Finset.Ioc i (n + 1), c.length j =
      began + i * interval + ∑ j ∈ Finset.Ioc i n, c.length j + c.length (n + 1) := by
    intro i hi
    rw [Finset.sum_Ioc_succ_top (Finset.mem_Icc.1 hi).2]
    exact (Nat.add_assoc _ _ _).symm
  have some : (Finset.Icc m n).Nonempty := Finset.nonempty_Icc.2 le
  rw [extend, Finset.sup_insert, Finset.sup_congr rfl later, ← Finset.sup_add some, Finset.Ioc_self,
    Finset.sum_empty, Nat.add_zero]
  exact max_comm _ _

/-- The start after a stretch of online checks: all of them followed at once, or one of them had to
wait for the grid and all that came after it followed at once. -/
theorem startOf_stretch (whole : interval.Whole) (takes : ∀ n, (c.takes n).Whole) {m : Nat}
    (pos : 1 ≤ m) (k : Nat) (online : ∀ j ∈ Finset.Icc m (m + k), c.finds j = true) :
    ((start ticket c began interval).startOf (m + k + 1)).nanoseconds =
      max (((start ticket c began interval).startOf m).nanoseconds +
          ∑ j ∈ Finset.Icc m (m + k), c.length j)
        ((Finset.Icc m (m + k)).sup fun i =>
          began.roundedUp.nanoseconds + i * interval.nanoseconds +
            ∑ j ∈ Finset.Ioc i (m + k), c.length j) := by
  -- One check more adds its length to all that held the start back, and its own point of the grid.
  induction k with
  | zero =>
    have last : c.finds m = true := online m (by simp)
    simpa using startOf_next whole takes pos last
  | succ k ih =>
    have last : c.finds (m + k + 1) = true := online _ (Finset.mem_Icc.2 ⟨by omega, by omega⟩)
    have before : ∀ j ∈ Finset.Icc m (m + k), c.finds j = true := fun j hj =>
      online j (Finset.Icc_subset_Icc_right (by omega) hj)
    rw [← Nat.add_assoc, startOf_next whole takes (by omega) last, ih before,
      sup_grid_succ c _ _ (Nat.le_add_right m k), Finset.sum_Icc_succ_top (by omega)]
    omega

/-- If the first check ends before the second point of the grid and no check takes longer than the
interval, every further check starts on the grid. -/
theorem startOf_steady (whole : interval.Whole) (takes : ∀ n, (c.takes n).Whole)
    (first : ((start ticket c began interval).endOf 1).nanoseconds ≤
      began.roundedUp.nanoseconds + interval.nanoseconds) {n : Nat} (pos : 1 ≤ n)
    (short : ∀ j ∈ Finset.Icc 1 n, c.length j ≤ interval.nanoseconds)
    (online : ∀ j ∈ Finset.Icc 1 n, c.finds j = true) :
    ((start ticket c began interval).startOf (n + 1)).nanoseconds =
      began.roundedUp.nanoseconds + n * interval.nanoseconds := by
  induction n, pos using Nat.le_induction with
  | base =>
    have ended : ((start ticket c began interval).endOf 1).nanoseconds = _ :=
      nanoseconds_endOf 0
    rw [startOf_next whole takes (Nat.le_refl 1) (online 1 (by simp)), ← ended, Nat.one_mul]
    exact max_eq_right first
  | succ n pos ih =>
    have before : Finset.Icc 1 n ⊆ Finset.Icc 1 (n + 1) :=
      Finset.Icc_subset_Icc_right (Nat.le_succ n)
    have last : n + 1 ∈ Finset.Icc 1 (n + 1) := Finset.mem_Icc.2 ⟨by omega, Nat.le_refl _⟩
    have here := ih (fun j hj => short j (before hj)) (fun j hj => online j (before hj))
    have lasts := short (n + 1) last
    rw [startOf_next whole takes (by omega) (online (n + 1) last), here, Nat.succ_mul]
    omega

/-- How a loop that is left alone keeps to the grid of its interval. -/
structure KeepsGrid (ticket : Nat) (c : Cycle) (began interval : Duration) : Prop where
  moves : ∀ n, (start ticket c began interval).moves (2 * n) =
    (List.range n).flatMap fun k =>
      [(.started, (start ticket c began interval).startOf (k + 1)),
        (.finished, (start ticket c began interval).endOf (k + 1))]
  /-- The checkpoint moves by one interval for every check. -/
  checkpoint : ∀ n, ((start ticket c began interval).cadenceAfter n).checkpoint.nanoseconds =
    began.nanoseconds + n * interval.nanoseconds
  /-- The first check starts 100 ms later for every id below its own, as far as 32 bits go. -/
  first : ((start ticket c began interval).startOf 1).nanoseconds =
    began.roundedUp.nanoseconds + 100000000 * min c.id.toInt.toNat 4294967295
  /-- After a stretch of online checks the latest of all that holds the next check back counts: the
  stretch itself, and for each of its checks the next point of the grid and the checks after it. -/
  stretch : ∀ m k, 1 ≤ m → (∀ j ∈ Finset.Icc m (m + k), c.finds j = true) →
    ((start ticket c began interval).startOf (m + k + 1)).nanoseconds =
      max (((start ticket c began interval).startOf m).nanoseconds +
          ∑ j ∈ Finset.Icc m (m + k), c.length j)
        ((Finset.Icc m (m + k)).sup fun i =>
          began.roundedUp.nanoseconds + i * interval.nanoseconds +
            ∑ j ∈ Finset.Ioc i (m + k), c.length j)
  /-- With short checks only, every start but the first is on the grid. -/
  steady : ((start ticket c began interval).endOf 1).nanoseconds ≤
      began.roundedUp.nanoseconds + interval.nanoseconds →
    ∀ n, 1 ≤ n → (∀ j ∈ Finset.Icc 1 n, c.length j ≤ interval.nanoseconds) →
      (∀ j ∈ Finset.Icc 1 n, c.finds j = true) →
      ((start ticket c began interval).startOf (n + 1)).nanoseconds =
        began.roundedUp.nanoseconds + n * interval.nanoseconds
  /-- Timers count whole milliseconds; a beginning at a whole one is not rounded. -/
  whole : began.Whole → began.roundedUp = began

/-- A loop that is left alone keeps to the grid of its interval, and so do the loops of a fleet
until they are told to stop: their moves are those of such a course from the time at which they
began. -/
theorem keepsGrid {interval : Duration} (whole : interval.Whole) {c : Cycle}
    (takes : ∀ n, (c.takes n).Whole) (ticket : Nat) (began : Duration) :
    KeepsGrid ticket c began interval ∧
      ∀ as, Timely as {} → ∀ l ∈ (perform as {}).loops, l.isTold = false →
        Follows (movesOf l.ticket (trace as {})) l := by
  refine ⟨?_, fun as timely => (onCourse_perform timely).follows⟩
  exact
    { moves := moves_eq ticket c began interval
      checkpoint := checkpoint_after ticket c began interval
      first := by rw [startOf_one]; rfl
      stretch := fun m k pos online => startOf_stretch whole takes pos k online
      steady := fun first n pos short online => startOf_steady whole takes first pos short online
      whole := fun even => even.roundedUp_eq }

/-- A target whose checks take longer than its interval, every one longer than the one before. -/
def slower : Cycle :=
  { id := 3, name := "slower", interval := 2, takes := fun n => .ofSeconds (n + 2),
    online := fun _ => true }

/-- Checks of two, three and four seconds with an interval of two. -/
theorem keepsGrid_slower :
    ((start 0 slower (.ofMillis 5) (.ofSeconds 2)).startOf 4).nanoseconds = 9305000000 := by
  have whole : (Duration.ofSeconds 2).Whole := ⟨2000, rfl⟩
  have takes : ∀ n, (slower.takes n).Whole := fun n => ⟨(n + 2) * 1000, by
    show (n + 2) * 1000000000 = 1000000 * ((n + 2) * 1000)
    omega⟩
  have keeps := (keepsGrid whole takes 0 (.ofMillis 5)).1
  have online : ∀ j ∈ Finset.Icc 1 (1 + 2), slower.finds j = true := fun _ _ => rfl
  rw [keeps.stretch 1 2 (Nat.le_refl 1) online, keeps.first]
  decide

end Course

end Uptime.Fleet
