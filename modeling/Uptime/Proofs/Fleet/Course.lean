import Uptime.Proofs.Fleet.Each
import Uptime.Proofs.Fleet.Ending

/-!
# The course of a loop

What a loop does that nobody tells to stop follows from its schedule alone: each move is made when
it is due (`Course.next`). Every such loop of a fleet is on its course in every timely history
(`onCourse_perform`), whatever else happens, so what is shown of courses holds in fleets.
-/

namespace Uptime.Fleet

/-- A loop, and the time of its latest move. -/
structure Course where
  time : Duration
  loop : Loop

namespace Course

/-- A loop that waits for its next check after so many checks, of which the last ended at the time
`ended`. -/
def resting (ticket : Nat) (c : Cycle) (checks : Nat) (ended : Duration) (cadence : Cadence) :
    Course :=
  ⟨ended, ({ ticket, cycle := c, cadence, checks } : Loop).wait ended⟩

/-- A loop that has just begun its schedule, with an interval of its own. -/
def start (ticket : Nat) (c : Cycle) (began interval : Duration) : Course :=
  resting ticket c 0 began (.start began interval c.id)

/-- The loop after its next move, which is made when it is due. -/
def next (s : Course) : Course :=
  ⟨dueAt s.time s.loop, (s.loop.step (dueAt s.time s.loop)).2⟩

/-- The next move and its time. -/
def move (s : Course) : Move × Duration :=
  ((s.loop.step (dueAt s.time s.loop)).1, dueAt s.time s.loop)

/-- The loop after so many moves. -/
def after (s : Course) : Nat → Course
  | 0 => s
  | n + 1 => (s.after n).next

/-- The first moves of a loop. -/
def moves (s : Course) : Nat → List (Move × Duration)
  | 0 => []
  | n + 1 => s.moves n ++ [(s.after n).move]

/-! ## Checks -/

/-- When a check starts; the checks are counted from one. -/
def startOf (s : Course) (n : Nat) : Duration := (s.after (2 * n - 1)).time

/-- When a check ends. The schedule begins with the end of check zero. -/
def endOf (s : Course) (n : Nat) : Duration := (s.after (2 * n)).time

/-- The schedule after so many checks. -/
def cadenceAfter (s : Course) (n : Nat) : Cadence := (s.after (2 * n)).loop.cadence

section

variable (ticket : Nat) (c : Cycle)

theorem next_resting (checks : Nat) (ended : Duration) (cadence : Cadence) :
    (resting ticket c checks ended cadence).next =
      ⟨ended.wakeAfter cadence.sleep,
        { ticket, cycle := c, cadence, checks := checks + 1,
          phase := .checking (ended.wakeAfter cadence.sleep + c.takes checks) }⟩ := rfl

theorem next_checking (checks : Nat) (started done : Duration) (cadence : Cadence) :
    (⟨started, { ticket, cycle := c, cadence, checks := checks + 1, phase := .checking done }⟩ :
      Course).next =
      resting ticket c (checks + 1) done (cadence.advance done (c.online checks)) := rfl

variable (began interval : Duration) (n : Nat)

/-- After every check a loop waits for the time that its schedule says. -/
theorem after_eq_resting : (start ticket c began interval).after (2 * n) =
    resting ticket c n ((start ticket c began interval).endOf n)
      ((start ticket c began interval).cadenceAfter n) := by
  induction n with
  | zero => rfl
  | succ n ih =>
    have twice : (start ticket c began interval).after (2 * (n + 1)) =
        ((start ticket c began interval).after (2 * n)).next.next := rfl
    rw [endOf, cadenceAfter, twice, ih, next_resting, next_checking]
    rfl

theorem startOf_succ : (start ticket c began interval).startOf (n + 1) =
    ((start ticket c began interval).endOf n).wakeAfter
      ((start ticket c began interval).cadenceAfter n).sleep := by
  show ((start ticket c began interval).after (2 * n)).next.time = _
  rw [after_eq_resting, next_resting]

theorem endOf_succ : (start ticket c began interval).endOf (n + 1) =
    (start ticket c began interval).startOf (n + 1) + c.takes n := by
  show ((start ticket c began interval).after (2 * n)).next.next.time = _
  rw [startOf_succ, after_eq_resting, next_resting, next_checking]
  rfl

theorem cadenceAfter_succ : (start ticket c began interval).cadenceAfter (n + 1) =
    ((start ticket c began interval).cadenceAfter n).advance
      ((start ticket c began interval).endOf (n + 1)) (c.online n) := by
  show ((start ticket c began interval).after (2 * n)).next.next.loop.cadence = _
  rw [endOf_succ, startOf_succ, after_eq_resting, next_resting, next_checking]
  rfl

theorem move_after : ((start ticket c began interval).after (2 * n)).move =
    (.started, (start ticket c began interval).startOf (n + 1)) := by
  rw [startOf_succ, after_eq_resting]
  rfl

theorem move_after_succ : ((start ticket c began interval).after (2 * n + 1)).move =
    (.finished, (start ticket c began interval).endOf (n + 1)) := by
  rw [endOf_succ, startOf_succ]
  show ((start ticket c began interval).after (2 * n)).next.move = _
  rw [after_eq_resting, next_resting]
  rfl

/-- The moves are those of the checks, one after the other. -/
theorem moves_eq : (start ticket c began interval).moves (2 * n) =
    (List.range n).flatMap fun k =>
      [(.started, (start ticket c began interval).startOf (k + 1)),
        (.finished, (start ticket c began interval).endOf (k + 1))] := by
  induction n with
  | zero => rfl
  | succ n ih =>
    show (start ticket c began interval).moves (2 * n) ++
      [((start ticket c began interval).after (2 * n)).move] ++
      [((start ticket c began interval).after (2 * n + 1)).move] = _
    rw [ih, move_after, move_after_succ, List.range_succ, List.flatMap_append]
    simp

theorem interval_after :
    ((start ticket c began interval).cadenceAfter n).interval = interval := by
  induction n with
  | zero => rfl
  | succ n ih => rw [cadenceAfter_succ, Cadence.interval_advance, ih]

/-- The checkpoint moves by one interval for every check, whenever it ends. -/
theorem checkpoint_after : ((start ticket c began interval).cadenceAfter n).checkpoint.nanoseconds =
    began.nanoseconds + n * interval.nanoseconds := by
  induction n with
  | zero =>
    rw [Nat.zero_mul]
    rfl
  | succ n ih =>
    rw [cadenceAfter_succ, Cadence.checkpoint_advance, Duration.nanoseconds_add, ih, interval_after,
      Nat.succ_mul, Nat.add_assoc]

/-- On its course a loop is due at a time that does not depend on the clock. -/
theorem dueAt_after (now : Duration) :
    dueAt now ((start ticket c began interval).after n).loop =
      dueAt ((start ticket c began interval).after n).time
        ((start ticket c began interval).after n).loop := by
  obtain ⟨m, rfl | rfl⟩ : ∃ m, n = 2 * m ∨ n = 2 * m + 1 := ⟨n / 2, by omega⟩
  · rw [after_eq_resting, dueAt_waiting (by rfl) (by rfl), dueAt_waiting (by rfl) (by rfl)]
  · rw [after, after_eq_resting, next_resting, dueAt_checking (by rfl), dueAt_checking (by rfl)]

end

end Course

/-! ## Loops of a fleet -/

/-- How the moves of a loop are those of its course. -/
inductive Follows (ms : List (Move × Duration)) (l : Loop) : Prop
  | spawned (loop : l = .spawn l.ticket l.cycle) (moves : ms = [])
  | running (began : Duration) (n : Nat)
      (loop : l = ((Course.start l.ticket l.cycle began l.cycle.period).after n).loop)
      (moves : ms =
        (.woke, began) :: (Course.start l.ticket l.cycle began l.cycle.period).moves n)

/-- The loops of a fleet that nobody told to stop are on their courses. -/
structure OnCourse (ms : List Moment) (f : Fleet) : Prop where
  moved : ∀ m ∈ ms, m.ticket < f.offered
  follows : ∀ l ∈ f.loops, l.isTold = false → Follows (movesOf l.ticket ms) l

/-- A loop that was not told to stop makes each move when its course says. -/
theorem own_follows : Own fun ms l => l.isTold = false → Follows ms l where
  spawn _ _ _ := .spawned rfl rfl
  hearing a h untold := by
    have same := Loop.hearing_of_untold untold
    rw [same] at untold ⊢
    exact h untold
  step {ms l now} _ due h untold := by
    rw [Loop.isTold_step] at untold
    cases h untold with
    | spawned loop moves =>
      have wakes : l.step now =
          (.woke, (Course.start l.ticket l.cycle now l.cycle.period).loop) := by
        rw [loop]
        rfl
      refine .running now 0 ?_ ?_
      · rw [Loop.ticket_step, Loop.cycle_step, wakes]
        rfl
      · rw [moves, wakes]
        rfl
    | running began n loop moves =>
      let s := Course.start l.ticket l.cycle began l.cycle.period
      have time : dueAt (s.after n).time (s.after n).loop = now := by
        rw [← Course.dueAt_after _ _ _ _ _ now, ← loop]
        exact due
      have step :
          (s.after n).loop.step (dueAt (s.after n).time (s.after n).loop) = l.step now := by
        rw [time, ← loop]
      refine .running began (n + 1) ?_ ?_
      · rw [Loop.ticket_step, Loop.cycle_step, Course.after, Course.next, step]
      · rw [Loop.ticket_step, Loop.cycle_step, Course.moves, Course.move, step, time, moves]
        rfl

theorem onCourse_perform {as : List Action} (timely : Timely as {}) :
    OnCourse (trace as {}) (perform as {}) :=
  ⟨(each_perform own_follows timely).moved, (each_perform own_follows timely).each⟩

end Uptime.Fleet
