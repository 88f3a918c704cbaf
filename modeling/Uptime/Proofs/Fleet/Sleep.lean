import Uptime.Proofs.Fleet.Pace

/-!
# Sleeping

The grid of a loop bounds the moves that can be due until a time (`Loop.budget`), since no two
checks take the same point of it. So the moves that `Fleet.sleep` allows for are enough: to sleep is
a timely history after which nothing is due (`sleep_eq`).
-/

namespace Uptime.Fleet

/-- How many points of a grid are not behind its checkpoint and not beyond a limit. -/
def points (limit checkpoint interval : Duration) : Nat :=
  (limit.nanoseconds + interval.nanoseconds - checkpoint.nanoseconds) / interval.nanoseconds

/-- A bound on the moves of a loop that are due until a limit. A check that starts takes one point
of the grid and two moves. -/
def Loop.budget (limit now : Duration) (l : Loop) : Nat :=
  match l.phase with
  | .spawned => 2 * points limit now l.cycle.period + 3
  | .waiting _ => 2 * points limit l.cadence.checkpoint l.cycle.period + 2
  | .checking _ => 2 * points limit l.cadence.checkpoint l.cycle.period + 1
  | .exited => 1

theorem points_add {limit checkpoint interval : Duration} (pos : 0 < interval.nanoseconds)
    (within : checkpoint ≤ limit) :
    points limit checkpoint interval = points limit (checkpoint + interval) interval + 1 := by
  rw [Duration.le_iff] at within
  simp only [points, Duration.nanoseconds_add]
  rw [← Nat.add_div_right _ pos]
  congr 1
  omega

theorem points_mono {limit interval a b : Duration} (le : a ≤ b) :
    points limit b interval ≤ points limit a interval :=
  Nat.div_le_div_right (Nat.sub_le_sub_left le _)

theorem Cycle.period_ge (c : Cycle) : 10000000 ≤ c.period.nanoseconds := Target.periodOf_ge _

theorem Loop.budget_mono (l : Loop) {limit now later : Duration} (le : now ≤ later) :
    l.budget limit later ≤ l.budget limit now := by
  unfold Loop.budget
  split
  · have fewer : points limit later l.cycle.period ≤ points limit now l.cycle.period :=
      points_mono le
    omega
  all_goals exact Nat.le_refl _

/-- A move that is due before the limit lowers the bound on the moves that are due. -/
theorem Loop.budget_step {l : Loop} {limit now : Duration} (paced : l.Paced now)
    (due : dueAt now l ≤ now) (within : now ≤ limit) :
    (l.moved now).elim 0 (·.budget limit now) < l.budget limit now := by
  have pos : 0 < l.cycle.period.nanoseconds := Nat.lt_of_lt_of_le (by decide) l.cycle.period_ge
  cases h : l.phase with
  | spawned =>
    simp [Loop.moved, step_spawned h, h, Loop.budget, Loop.wait]
  | waiting wake =>
    cases told : l.isTold with
    | true => simp [Loop.moved, step_told h told, h, Loop.budget]
    | false => simp [Loop.moved, step_waiting h told, h, Loop.budget]
  | checking done =>
    rw [dueAt_checking h] at due
    have reached : l.cadence.checkpoint ≤ limit :=
      Nat.le_trans (paced.checking done h) (Nat.le_trans due within)
    have fewer := points_add pos reached
    simp only [Loop.moved, step_checking h, h, Loop.budget, Loop.wait, reduceCtorEq, if_false,
      Option.elim, Cadence.checkpoint_advance, paced.interval]
    omega
  | exited => simp [Loop.moved, h, Loop.budget]

/-- The bounds of several loops together. -/
def Loop.budgets (limit now : Duration) : List Loop → Nat
  | [] => 0
  | l :: ls => l.budget limit now + budgets limit now ls

/-- If no bound grows, their sum does not; and it falls if one of them falls. -/
theorem Loop.budgets_filterMap {limit now later : Duration} {next : Loop → Option Loop}
    {ls : List Loop}
    (le : ∀ k ∈ ls, (next k).elim 0 (·.budget limit later) ≤ k.budget limit now) :
    budgets limit later (ls.filterMap next) ≤ budgets limit now ls ∧
      ∀ l ∈ ls, (next l).elim 0 (·.budget limit later) < l.budget limit now →
        budgets limit later (ls.filterMap next) < budgets limit now ls := by
  induction ls with
  | nil => exact ⟨Nat.le_refl _, nofun⟩
  | cons k ls ih =>
    obtain ⟨head, tail⟩ := List.forall_mem_cons.1 le
    obtain ⟨rest, falls⟩ := ih tail
    have split : budgets limit later ((k :: ls).filterMap next) =
        (next k).elim 0 (·.budget limit later) + budgets limit later (ls.filterMap next) := by
      cases found : next k with
      | none => rw [List.filterMap_cons_none found]; exact (Nat.zero_add _).symm
      | some k' => rw [List.filterMap_cons_some found]; rfl
    rw [split, budgets]
    refine ⟨Nat.add_le_add head rest, fun l hl lt => ?_⟩
    rcases List.mem_cons.1 hl with rfl | hl
    · exact Nat.add_lt_add_of_lt_of_le lt rest
    · exact Nat.add_lt_add_of_le_of_lt head (falls l hl lt)

/-- The number of moves that is allowed for a loop is enough. -/
theorem Loop.budget_le (l : Loop) (limit now : Duration) :
    l.budget limit now ≤ moveBound limit := by
  have large := l.cycle.period_ge
  have pos : 0 < l.cycle.period.nanoseconds := Nat.lt_of_lt_of_le (by decide) large
  have few : ∀ checkpoint, points limit checkpoint l.cycle.period ≤
      limit.nanoseconds / 10000000 + 1 := by
    intro checkpoint
    calc points limit checkpoint l.cycle.period
        ≤ (limit.nanoseconds + l.cycle.period.nanoseconds) / l.cycle.period.nanoseconds :=
          Nat.div_le_div_right (Nat.sub_le _ _)
      _ = limit.nanoseconds / l.cycle.period.nanoseconds + 1 := Nat.add_div_right _ pos
      _ ≤ limit.nanoseconds / 10000000 + 1 :=
          Nat.add_le_add_right (Nat.div_le_div_left large (by decide)) 1
  have here := few now
  have there := few l.cadence.checkpoint
  unfold Loop.budget moveBound
  split <;> omega

theorem Loop.budget_pos (l : Loop) (limit now : Duration) : 0 < l.budget limit now := by
  unfold Loop.budget
  split <;> exact Nat.succ_pos _

theorem Loop.budgets_eq_zero {limit now : Duration} {ls : List Loop}
    (h : budgets limit now ls = 0) : ls = [] := by
  cases ls with
  | nil => rfl
  | cons l ls =>
    have pos := l.budget_pos limit now
    rw [budgets] at h
    omega

theorem Loop.budgets_le (limit now : Duration) (ls : List Loop) :
    budgets limit now ls ≤ ls.length * (moveBound limit + 1) := by
  induction ls with
  | nil => exact Nat.zero_le _
  | cons l ls ih =>
    have head := l.budget_le limit now
    rw [budgets, List.length_cons, Nat.succ_mul]
    omega

/-- Nothing is due until a time. -/
def Free (limit : Duration) (f : Fleet) : Prop := ∀ l ∈ f.loops, limit < dueAt f.now l

/-- The next move of a loop, as a history: time passes until it is due, and the loop moves. -/
def hop (l : Loop) (f : Fleet) : List Action := [.pass (dueAt f.now l), .move l.ticket]

section

variable {f : Fleet} {l : Loop} {limit : Duration}

/-- With the clock put forward to it, the next move is due. -/
theorem dueAt_advanceTo (l : Loop) (f : Fleet) :
    dueAt (f.advanceTo (dueAt f.now l)).now l ≤ (f.advanceTo (dueAt f.now l)).now := by
  unfold advanceTo
  dsimp only
  split
  · rw [dueAt_dueAt]
    exact Nat.le_refl _
  · next reached => exact Nat.le_of_not_lt reached

theorem now_le_advanceTo (time : Duration) (f : Fleet) : f.now ≤ (f.advanceTo time).now :=
  now_le_apply (.pass time) f

theorem advanceTo_le {time : Duration} (now : f.now ≤ limit) (le : time ≤ limit) :
    (f.advanceTo time).now ≤ limit := by
  unfold advanceTo
  dsimp only
  split
  · exact le
  · exact now

theorem perform_hop (sound : Sound f) (hl : l ∈ f.loops) :
    perform (hop l f) f = (f.advanceTo (dueAt f.now l)).move l := by
  have found : (f.advanceTo (dueAt f.now l)).loop? l.ticket = some l := sound.loop?_eq hl
  simp only [hop, perform, Action.apply, found, Option.elim]

/-- The earliest move may be the next. -/
theorem timely_hop (sound : Sound f) (hl : l ∈ f.loops)
    (least : ∀ k ∈ f.loops, dueAt f.now l ≤ dueAt f.now k) : Timely (hop l f) f := by
  refine ⟨least, fun k found => ?_, trivial⟩
  have own : (f.advanceTo (dueAt f.now l)).loop? l.ticket = some l := sound.loop?_eq hl
  obtain rfl : l = k := Option.some.inj (own.symm.trans found)
  exact dueAt_advanceTo l f

theorem budgets_hop (sound : Sound f) (paced : Paced f) (hl : l ∈ f.loops)
    (least : ∀ k ∈ f.loops, dueAt f.now l ≤ dueAt f.now k) (now : f.now ≤ limit)
    (within : dueAt f.now l ≤ limit) :
    Loop.budgets limit (f.advanceTo (dueAt f.now l)).now
        ((f.advanceTo (dueAt f.now l)).move l).loops <
      Loop.budgets limit f.now f.loops := by
  have later := now_le_advanceTo (dueAt f.now l) f
  have own : l.Paced (f.advanceTo (dueAt f.now l)).now := paced.advanceTo least l hl
  have falls := Loop.budget_step own (dueAt_advanceTo l f) (advanceTo_le now within)
  have falls := Nat.lt_of_lt_of_le falls (l.budget_mono later)
  rw [loops_move]
  refine (Loop.budgets_filterMap fun k hk => ?_).2 l hl (by simpa using falls)
  by_cases same : k.ticket = l.ticket
  · obtain rfl := sound.eq_of_ticket hk hl same
    simpa using Nat.le_of_lt falls
  · simpa [same] using k.budget_mono later

/-- What every next move keeps that is due until a limit, all of them keep; and enough fuel makes
all of them. -/
theorem runUntil_keeps {P : Fleet → Prop} (fuel : Nat) (sound : Sound f) (paced : Paced f)
    (now : f.now ≤ limit) (enough : Loop.budgets limit f.now f.loops ≤ fuel)
    (hop : ∀ {g l}, Sound g → Paced g → l ∈ g.loops →
      (∀ k ∈ g.loops, dueAt g.now l ≤ dueAt g.now k) → dueAt g.now l ≤ limit → P g →
      P ((g.advanceTo (dueAt g.now l)).move l))
    (start : P f) :
    P (runUntil limit fuel f) ∧ (runUntil limit fuel f).now ≤ limit ∧
      Free limit (runUntil limit fuel f) := by
  -- Every move that is due lowers the sum of the bounds, so the fuel lasts as long as this sum.
  induction fuel generalizing f with
  | zero =>
    refine ⟨start, now, fun l hl => ?_⟩
    have none : f.loops = [] := Loop.budgets_eq_zero (Nat.le_zero.1 enough)
    have some : l ∈ f.loops := hl
    rw [none] at some
    cases some
  | succ fuel ih =>
    unfold runUntil
    split
    · next none =>
      refine ⟨start, now, ?_⟩
      simp [Free, earliest?_eq_none none]
    · next l first =>
      obtain ⟨hl, least⟩ := earliest?_eq_some first
      dsimp only
      split
      · next free => exact ⟨start, now, fun k hk => Nat.lt_of_lt_of_le free (least k hk)⟩
      · next hit =>
        have within : dueAt f.now l ≤ limit := Nat.le_of_not_lt hit
        have fewer := budgets_hop sound paced hl least now within
        exact ih ((sound.advanceTo _).move hl)
          ((paced.advanceTo least).move (sound.advanceTo _) hl (dueAt_advanceTo l f))
          (by rw [now_move]; exact advanceTo_le now within) (by rw [now_move]; omega)
          (hop sound paced hl least within start)

/-- To make the moves that are due until a limit is a timely history, and enough fuel makes all of
them. -/
theorem runUntil_eq (fuel : Nat) (sound : Sound f) (paced : Paced f) (now : f.now ≤ limit)
    (enough : Loop.budgets limit f.now f.loops ≤ fuel) :
    ∃ as, Timely as f ∧ perform as f = runUntil limit fuel f ∧
      (runUntil limit fuel f).now ≤ limit ∧ Free limit (runUntil limit fuel f) := by
  obtain ⟨⟨as, timely, same⟩, rest⟩ :=
    runUntil_keeps (P := fun g => ∃ as, Timely as f ∧ perform as f = g) fuel sound paced now enough
      (by
        rintro g l sound - hl least - ⟨as, timely, rfl⟩
        refine ⟨as ++ hop l (perform as f),
          timely_append.2 ⟨timely, timely_hop sound hl least⟩, ?_⟩
        rw [perform_append, perform_hop sound hl])
      ⟨[], trivial, rfl⟩
  exact ⟨as, timely, same, rest⟩

/-- To sleep is a timely history, after which nothing is due. -/
theorem sleep_eq (sound : Sound f) (paced : Paced f) (d : Duration) :
    ∃ as, Timely as f ∧ perform as f = f.sleep d ∧ Free (f.now + d) (f.sleep d) := by
  obtain ⟨as, timely, same, inside, free⟩ :=
    runUntil_eq _ sound paced (Nat.le_add_right _ _ : f.now ≤ f.now + d)
      (Loop.budgets_le (f.now + d) f.now f.loops)
  have awake : (perform as f).advanceTo (f.now + d) = f.sleep d := by
    rw [same]
    unfold advanceTo sleep
    congr 1
    split
    · rfl
    · next reached => exact Duration.ext_iff.2 (Nat.le_antisymm inside (Nat.le_of_not_lt reached))
  refine ⟨as ++ [.pass (f.now + d)], timely_append.2 ⟨timely, ?_, trivial⟩, ?_, fun l hl => ?_⟩
  · intro l hl
    rw [same] at hl ⊢
    exact Nat.le_of_lt (free l hl)
  · rw [perform_append]
    exact awake
  · have later := free l hl
    rwa [dueAt_of_lt (Nat.lt_of_le_of_lt inside later)]

end

end Uptime.Fleet
