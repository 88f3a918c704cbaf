import Uptime.Proofs.Fleet.Each
import Uptime.Proofs.Fleet.Ending

/-!
# How close checks follow each other

No check starts before its point of the grid, whether the ones before it caught up with the grid or
waited a full interval, and no loop asks for a longer wait than that (`loops_keepDistance`).
Intervals are at least ten milliseconds long, so no loop spins. Checks are counted from zero here.
-/

namespace Uptime.Fleet

/-- Starts of checks that keep a distance of one interval on the whole, from the time `began` on. -/
structure Spaced (interval began : Duration) (starts : List Duration) : Prop where
  start : ∀ n t, starts[n]? = some t →
    began.nanoseconds + n * interval.nanoseconds ≤ t.nanoseconds
  few : ∀ time, (starts.filter (· ≤ time)).length ≤
    if time < began then 0
    else (time.nanoseconds - began.nanoseconds) / interval.nanoseconds + 1

/-- The point of the grid before which a loop does not start its next check. -/
def Loop.nextPoint (l : Loop) : Nat :=
  match l.phase with
  | .checking _ => l.cadence.checkpoint.nanoseconds + l.cycle.period.nanoseconds
  | _ => l.cadence.checkpoint.nanoseconds

/-- How a loop keeps its distance that began its schedule at the time `began`, with the moves that
it made since. -/
structure Loop.OnGrid (began : Duration) (ms : List (Move × Duration)) (l : Loop) : Prop where
  ran : l.phase ≠ .spawned
  count : (timesOf .started ms).length = l.checks
  start : ∀ n t, (timesOf .started ms)[n]? = some t →
    began.nanoseconds + n * l.cycle.period.nanoseconds ≤ t.nanoseconds
  grid : l.nextPoint = began.nanoseconds + l.checks * l.cycle.period.nanoseconds
  /-- The wait after a check is at most an interval, and a whole one if the target was offline. -/
  wait : ∀ wake, l.phase = .waiting wake → 0 < l.checks →
    l.cadence.sleep ≤ l.cycle.period ∧
      (l.cycle.online (l.checks - 1) = false → l.cadence.sleep = l.cycle.period)

/-- A loop has not run yet, or keeps its distance since it began its schedule. -/
inductive Distant (ms : List (Move × Duration)) (l : Loop) : Prop
  | spawned (phase : l.phase = .spawned) (checks : l.checks = 0) (moves : ms = [])
  | running (began : Duration) (rest : List (Move × Duration)) (moves : ms = (.woke, began) :: rest)
      (onGrid : l.OnGrid began rest)

theorem timesOf_started (ms : List (Move × Duration)) (time : Duration) :
    timesOf .started (ms ++ [(.started, time)]) = timesOf .started ms ++ [time] :=
  List.filterMap_append

theorem timesOf_quiet {move : Move} (other : move ≠ .started) (ms : List (Move × Duration))
    (time : Duration) : timesOf .started (ms ++ [(move, time)]) = timesOf .started ms := by
  have none : timesOf .started [(move, time)] = [] :=
    List.filterMap_cons_none (if_neg other)
  rw [timesOf, List.filterMap_append]
  exact (congrArg (timesOf .started ms ++ ·) none).trans (List.append_nil _)

/-- The wait after a check is no longer than the interval, and as long if the target was offline. -/
theorem sleep_advance_le {c : Cadence} {now : Duration} (reached : c.checkpoint ≤ now)
    (online : Bool) : (c.advance now online).sleep ≤ c.interval ∧
      (online = false → (c.advance now online).sleep = c.interval) := by
  rw [Duration.le_iff] at reached
  cases online with
  | true =>
    refine ⟨?_, nofun⟩
    show c.checkpoint.nanoseconds + c.interval.nanoseconds - now.nanoseconds ≤
      c.interval.nanoseconds
    omega
  | false => exact ⟨Nat.le_refl _, fun _ => rfl⟩

namespace Loop

variable {l : Loop} {ms : List (Move × Duration)} {now began : Duration}

/-- A move that starts no check keeps the distance if it keeps the grid. -/
theorem OnGrid.quiet (h : l.OnGrid began ms) {move : Move} (other : move ≠ .started) {k : Loop}
    (cycle : k.cycle = l.cycle) (checks : k.checks = l.checks) (ran : k.phase ≠ .spawned)
    (grid : k.nextPoint = l.nextPoint)
    (wait : ∀ wake, k.phase = .waiting wake → k.cadence.sleep ≤ l.cycle.period ∧
      (l.cycle.online (l.checks - 1) = false → k.cadence.sleep = l.cycle.period)) :
    k.OnGrid began (ms ++ [(move, now)]) where
  ran := ran
  count := by rw [timesOf_quiet other, h.count, checks]
  start := by rw [timesOf_quiet other, cycle]; exact h.start
  grid := by rw [grid, h.grid, cycle, checks]
  wait := fun wake waiting _ => by rw [cycle, checks]; exact wait wake waiting

/-- A check that starts at the next point of the grid or later keeps the distance. -/
theorem OnGrid.started (h : l.OnGrid began ms) {k : Loop} {done : Duration}
    (cycle : k.cycle = l.cycle) (checks : k.checks = l.checks + 1)
    (phase : k.phase = .checking done)
    (grid : k.nextPoint = l.nextPoint + l.cycle.period.nanoseconds)
    (reached : l.nextPoint ≤ now.nanoseconds) : k.OnGrid began (ms ++ [(.started, now)]) where
  ran := by rw [phase]; nofun
  count := by rw [timesOf_started, List.length_append, h.count, checks]; rfl
  start := by
    intro n t found
    rw [timesOf_started, List.getElem?_append, h.count] at found
    rw [cycle]
    split at found
    · exact h.start n t found
    · next late =>
      rw [List.getElem?_singleton] at found
      split at found
      · next zero =>
        have last : n = l.checks := by omega
        rw [← Option.some.inj found, last, ← h.grid]
        exact reached
      · cases found
  grid := by rw [grid, h.grid, cycle, checks, Nat.succ_mul, Nat.add_assoc]
  wait := fun wake waiting => by rw [phase] at waiting; cases waiting

theorem OnGrid.step (h : l.OnGrid began ms) (paced : l.Paced now) (due : dueAt now l = now) :
    (l.step now).2.OnGrid began (ms ++ [((l.step now).1, now)]) := by
  cases phase : l.phase with
  | spawned => exact absurd phase h.ran
  | waiting wake =>
    cases told : l.isTold with
    | true =>
      rw [step_told phase told]
      refine h.quiet (by simp) rfl rfl Phase.noConfusion ?_ fun wake => Phase.noConfusion
      simp [nextPoint, phase]
    | false =>
      rw [step_waiting phase told]
      rw [dueAt_waiting phase told] at due
      have reached := paced.waiting wake phase
      rw [due, Duration.le_iff] at reached
      refine h.started rfl rfl rfl ?_ ?_
      · simp [nextPoint, phase]
      · simpa [nextPoint, phase] using reached
  | checking done =>
    rw [step_checking phase]
    rw [dueAt_checking phase] at due
    have reached := paced.checking done phase
    rw [due] at reached
    refine h.quiet (by simp) rfl rfl Phase.noConfusion ?_ ?_
    · simp [nextPoint, Loop.wait, phase, paced.interval]
    · intro _ _
      rw [← paced.interval]
      exact sleep_advance_le reached _
  | exited =>
    rw [step_exited phase]
    refine h.quiet (by simp) rfl rfl h.ran rfl fun wake waiting => ?_
    rw [phase] at waiting
    cases waiting

/-- What happens to the stop channel changes nothing about the distance. -/
theorem distant_tell (how : Channel → Channel) (h : Distant ms l) : Distant ms (l.tell how) := by
  cases h with
  | spawned phase checks moves => exact .spawned phase checks moves
  | running began rest moves onGrid =>
    exact .running began rest moves
      ⟨onGrid.ran, onGrid.count, onGrid.start, onGrid.grid, onGrid.wait⟩

/-- A loop that begins its schedule is at the beginning of its grid. -/
theorem onGrid_wake (phase : l.phase = .spawned) (checks : l.checks = 0) (now : Duration) :
    (l.step now).2.OnGrid now [] := by
  rw [step_spawned phase]
  refine ⟨nofun, checks.symm, nofun, ?_, ?_⟩
  · show now.nanoseconds = now.nanoseconds + l.checks * _
    rw [checks, Nat.zero_mul, Nat.add_zero]
  · intro _ _ pos
    have none : 0 < l.checks := pos
    omega

theorem distant_step (h : Distant ms l) (paced : l.Paced now) (due : dueAt now l = now) :
    Distant (ms ++ [((l.step now).1, now)]) (l.step now).2 := by
  cases h with
  | spawned phase checks moves =>
    refine .running now [] ?_ (onGrid_wake phase checks now)
    rw [moves, step_spawned phase]
    rfl
  | running began rest moves onGrid =>
    exact .running began (rest ++ [_]) (by rw [moves]; rfl) (onGrid.step paced due)

theorem cycle_movesUntil (limit : Duration) (fuel : Nat) (l : Loop) (now : Duration) :
    (l.movesUntil limit fuel now).2.cycle = l.cycle := by
  induction fuel generalizing now l with
  | zero => rfl
  | succ fuel ih =>
    unfold movesUntil
    split
    · rfl
    · split
      · rfl
      · exact (ih _ _).trans (l.cycle_step _)

/-- A lone loop begins its schedule at once. -/
theorem movesUntil_spawn (limit : Duration) (fuel : Nat) (c : Cycle) :
    ∃ rest, ((spawn 0 c).movesUntil limit (fuel + 1) .zero).1 = (.woke, .zero) :: rest := by
  have due : dueAt .zero (spawn 0 c) ≤ limit := Nat.zero_le _
  rw [movesUntil_due (by nofun) due]
  exact ⟨_, rfl⟩

end Loop

/-- Loops of a fleet keep their distance. -/
theorem own_distant : Own Distant where
  spawn _ _ := .spawned rfl rfl rfl
  hearing {ms l} a h := by
    rcases l.hearing_eq a with same | told
    · rwa [same]
    · rw [told]
      exact Loop.distant_tell .send h
  step paced due h := Loop.distant_step h paced due

/-- Of starts that keep to the grid, those that are in time are among the first. -/
theorem spaced_of_start {interval began : Duration} {starts : List Duration}
    (pos : 0 < interval.nanoseconds) (start : ∀ n t, starts[n]? = some t →
      began.nanoseconds + n * interval.nanoseconds ≤ t.nanoseconds) :
    Spaced interval began starts := by
  refine ⟨start, fun time => ?_⟩
  have late : ∀ first, time.nanoseconds < began.nanoseconds + first * interval.nanoseconds →
      (starts.filter (· ≤ time)).length ≤ first := by
    intro first beyond
    have none : (starts.drop first).filter (· ≤ time) = [] := by
      refine List.filter_eq_nil_iff.2 fun t ht => ?_
      obtain ⟨n, found⟩ := List.mem_iff_getElem?.1 ht
      rw [List.getElem?_drop] at found
      have here := start _ t found
      rw [Nat.add_mul] at here
      rw [decide_eq_true_eq, Duration.le_iff]
      omega
    rw [← List.take_append_drop first starts, List.filter_append, none, List.append_nil]
    exact Nat.le_trans (List.length_filter_le _ _) (List.length_take_le _ _)
  split
  · next early =>
    rw [Duration.lt_iff] at early
    exact late 0 (by omega)
  · next begun =>
    refine late _ ?_
    have ended := Nat.lt_mul_div_succ (time.nanoseconds - began.nanoseconds) pos
    rw [Nat.mul_comm] at ended
    omega

/-- What a loop shows of its distance, with the moves that it made. -/
structure KeepsDistance (ms : List (Move × Duration)) (l : Loop) : Prop where
  /-- No check starts before its point of the grid, which begins when the loop first runs. -/
  starts : ms = [] ∨ ∃ began rest, ms = (.woke, began) :: rest ∧
    Spaced l.cycle.period began (timesOf .started rest) ∧ (timesOf .started rest).length = l.checks
  /-- The wait after a check is at most an interval, and a whole one if the target was offline. -/
  wait : ∀ wake, l.phase = .waiting wake → 0 < l.checks →
    l.cadence.sleep ≤ l.cycle.period ∧
      (l.cycle.online (l.checks - 1) = false → l.cadence.sleep = l.cycle.period)

theorem Cycle.period_pos (c : Cycle) : 0 < c.period.nanoseconds :=
  Nat.lt_of_lt_of_le (by decide) c.period_ge

theorem Distant.keepsDistance {ms : List (Move × Duration)} {l : Loop} (h : Distant ms l) :
    KeepsDistance ms l := by
  cases h with
  | spawned phase checks moves =>
    refine ⟨.inl moves, fun wake waiting => ?_⟩
    rw [phase] at waiting
    cases waiting
  | running began rest moves onGrid =>
    exact ⟨.inr ⟨began, rest, moves, spaced_of_start l.cycle.period_pos onGrid.start, onGrid.count⟩,
      onGrid.wait⟩

/-- Lone loops keep their distance. -/
theorem distant_movesUntil (c : Cycle) (limit : Duration) (fuel : Nat) :
    Distant (Loop.movesUntil limit fuel .zero (.spawn 0 c)).1
      (Loop.movesUntil limit fuel .zero (.spawn 0 c)).2 :=
  own_distant.movesUntil fuel (own_distant.spawn 0 c) (Loop.paced_spawn 0 c .zero)

/-- Whatever happens to its channel, a lone loop keeps its distance from the time zero on. -/
theorem spaced_movesTold {how : Channel → Channel} (ready : ∀ c, (how c).isReady = true) (c : Cycle)
    (stop : Duration) : Spaced c.period .zero (timesOf .started (Loop.movesTold how c stop)) := by
  obtain ⟨before, l, ends⟩ := endsAlone ready c stop
  have distant := distant_movesUntil c stop (Loop.moveBound stop)
  obtain ⟨rest, begun⟩ : ∃ rest, (Loop.movesUntil stop (Loop.moveBound stop) .zero (.spawn 0 c)).1 =
      (.woke, .zero) :: rest := Loop.movesUntil_spawn stop _ c
  have cycle : l.cycle = c :=
    (congrArg (·.2.cycle) ends.untold).symm.trans (Loop.cycle_movesUntil _ _ (Loop.spawn 0 c) .zero)
  rw [ends.untold] at distant begun
  have begun : before = (.woke, .zero) :: rest := begun
  have quiet : timesOf .started (l.ending stop) = [] :=
    List.filterMap_eq_nil_iff.2 fun m hm => if_neg (ends.idle m hm)
  have same : timesOf .started (Loop.movesTold how c stop) = timesOf .started rest := by
    rw [ends.moves, begun, timesOf, List.filterMap_append]
    exact (congrArg (_ ++ ·) quiet).trans (List.append_nil _)
  cases distant with
  | spawned phase checks moves =>
    rw [begun] at moves
    cases moves
  | running began made moves onGrid =>
    rw [begun] at moves
    cases moves
    rw [same, ← cycle]
    exact spaced_of_start l.cycle.period_pos onGrid.start

/-- Every loop keeps its distance: those of a fleet in every timely history, whoever is told to stop
when, and lone loops with whatever happens to their channels. No interval is below ten
milliseconds. -/
theorem loops_keepDistance :
    (∀ t : Target, 10000000 ≤ t.period.nanoseconds) ∧
    (∀ as, Timely as {} → ∀ l ∈ (perform as {}).loops,
      10000000 ≤ l.cycle.period.nanoseconds ∧ KeepsDistance (movesOf l.ticket (trace as {})) l) ∧
    (∀ c limit fuel, KeepsDistance (Loop.movesUntil limit fuel .zero (.spawn 0 c)).1
      (Loop.movesUntil limit fuel .zero (.spawn 0 c)).2) ∧
    ∀ how ∈ [Channel.send, Channel.close], ∀ c stop,
      Spaced c.period .zero (timesOf .started (Loop.movesTold how c stop)) := by
  refine ⟨fun t => Target.periodOf_ge _, fun as timely l hl => ⟨l.cycle.period_ge, ?_⟩,
    fun c limit fuel => (distant_movesUntil c limit fuel).keepsDistance, fun how told c stop => ?_⟩
  · exact ((each_perform own_distant timely).each l hl).keepsDistance
  · refine spaced_movesTold (fun channel => ?_) c stop
    rcases List.mem_pair.1 told with rfl | rfl
    · exact channel.isReady_send
    · exact channel.isReady_close

end Uptime.Fleet
