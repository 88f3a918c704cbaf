import Uptime.Proofs.Fleet.Grid
import Uptime.Proofs.Fleet.Spacing

/-!
# Loops with one interval

The stagger of an id puts off the first check only. The checkpoint does not know of it, so the wait
after the first check makes up for it (`startOf_of_endOf`), and of loops that began together and
never fall behind all checks but the first start at the same instants (`gather`).
-/

namespace Uptime.Fleet

namespace Course

variable {ticket : Nat} {c : Cycle} {began interval : Duration}

/-- A point of the grid of a loop that began at the time `began`. -/
def point (began interval : Duration) (n : Nat) : Duration :=
  ⟨began.nanoseconds + n * interval.nanoseconds⟩

/-- A loop whose checks all find the target online and end before the next point of the grid. -/
structure Punctual (ticket : Nat) (c : Cycle) (began interval : Duration) : Prop where
  online : ∀ n, c.finds (n + 1) = true
  ends : ∀ n, (start ticket c began interval).endOf (n + 1) < point began interval (n + 1)

/-- After a check that found the target online in time, the next one starts at the point of the
grid, whenever the one before it started. -/
theorem startOf_of_endOf {n : Nat} (online : c.finds (n + 1) = true)
    (inTime : (start ticket c began interval).endOf (n + 1) ≤ point began interval (n + 1)) :
    (start ticket c began interval).startOf (n + 2) =
      (point began interval (n + 1)).roundedUp := by
  have reached : ((start ticket c began interval).cadenceAfter (n + 1)).checkpoint =
      point began interval (n + 1) :=
    Duration.ext_iff.2 (checkpoint_after ticket c began interval _)
  have found : c.online n = true := online
  rw [cadenceAfter_succ, Cadence.checkpoint_advance] at reached
  rw [startOf_succ, cadenceAfter_succ, found, Cadence.advance, reached]
  refine congrArg Duration.roundedUp (Duration.ext_iff.2 ?_)
  exact Nat.add_sub_cancel' inTime

theorem Punctual.startOf (h : Punctual ticket c began interval) (n : Nat) :
    (start ticket c began interval).startOf (n + 2) = (point began interval (n + 1)).roundedUp :=
  startOf_of_endOf (h.online n) (Nat.le_of_lt (h.ends n))

/-- Short checks are never late if the first one is not. -/
theorem punctual_of_short (whole : interval.Whole) (takes : ∀ n, (c.takes n).Whole)
    (even : began.Whole) (online : ∀ n, c.finds n = true)
    (first : (Cadence.stagger c.id).nanoseconds + c.length 1 < interval.nanoseconds)
    (short : ∀ n, c.length n < interval.nanoseconds) : Punctual ticket c began interval := by
  have begins : began.roundedUp = began := even.roundedUp_eq
  have ended : ((start ticket c began interval).endOf 1).nanoseconds <
      began.nanoseconds + interval.nanoseconds := by
    rw [nanoseconds_endOf, startOf_one, begins, Duration.nanoseconds_add, Nat.add_assoc]
    exact Nat.add_lt_add_left first _
  refine ⟨fun n => online (n + 1), fun n => Duration.lt_iff.2 ?_⟩
  show _ < began.nanoseconds + (n + 1) * interval.nanoseconds
  cases n with
  | zero => rwa [Nat.zero_add, Nat.one_mul]
  | succ n =>
    have onGrid : ((start ticket c began interval).startOf (n + 2)).nanoseconds =
        began.roundedUp.nanoseconds + (n + 1) * interval.nanoseconds :=
      startOf_steady whole takes (by rw [begins]; exact ended.le) (Nat.le_add_left 1 n)
        (fun j _ => (short j).le) fun j _ => online j
    rw [nanoseconds_endOf, onGrid, begins, Nat.succ_mul (n + 1), ← Nat.add_assoc]
    exact Nat.add_lt_add_left (short _) _

/-- The first checks of small ids start apart. -/
theorem stagger_injective {i j : Int64} (hi : 0 ≤ i.toInt ∧ i.toInt < 2 ^ 32)
    (hj : 0 ≤ j.toInt ∧ j.toInt < 2 ^ 32) (same : Cadence.stagger i = Cadence.stagger j) :
    i = j := by
  have equal : 100000000 * min i.toInt.toNat 4294967295 =
      100000000 * min j.toInt.toNat 4294967295 := congrArg Duration.nanoseconds same
  exact Int64.toInt_inj.1 (by omega)

/-! ## Loops of a fleet -/

/-- The starts among the moves of a course are those of its checks, in order. -/
theorem timesOf_moves (ticket : Nat) (c : Cycle) (began interval : Duration) (m : Nat) :
    ∃ k, timesOf .started ((start ticket c began interval).moves m) =
      (List.range k).map fun n => (start ticket c began interval).startOf (n + 1) := by
  have pairs : ∀ k, timesOf .started ((start ticket c began interval).moves (2 * k)) =
      (List.range k).map fun n => (start ticket c began interval).startOf (n + 1) := by
    intro k
    rw [moves_eq, timesOf, List.filterMap_flatMap, List.map_eq_flatMap]
    rfl
  obtain ⟨k, rfl | rfl⟩ : ∃ k, m = 2 * k ∨ m = 2 * k + 1 := ⟨m / 2, by omega⟩
  · exact ⟨k, pairs k⟩
  · refine ⟨k + 1, ?_⟩
    rw [Course.moves, move_after, timesOf_started, pairs, List.range_succ, List.map_append]
    rfl

theorem startOf_of_getElem? {m n : Nat} {t : Duration}
    (found : (timesOf .started ((start ticket c began interval).moves m))[n]? = some t) :
    t = (start ticket c began interval).startOf (n + 1) := by
  obtain ⟨k, starts⟩ := timesOf_moves ticket c began interval m
  rw [starts, List.getElem?_map, Option.map_eq_some_iff] at found
  obtain ⟨j, there, rfl⟩ := found
  obtain ⟨-, rfl⟩ := List.getElem?_eq_some_iff.1 there
  rw [List.getElem_range]

/-- After a history the loop with this number checks this cycle since the time `began`, and nobody
told it to stop. -/
structure Checks (as : List Action) (ticket : Nat) (c : Cycle) (began : Duration) : Prop where
  alive : ∃ l ∈ (perform as {}).loops, l.ticket = ticket ∧ l.cycle = c ∧ l.isTold = false
  began : (.woke, began) ∈ movesOf ticket (trace as {})

/-- When the checks of the loop with this number started in a history. -/
def startsIn (as : List Action) (ticket : Nat) : List Duration :=
  timesOf .started (movesOf ticket (trace as {}))

/-- A course begins only once. -/
theorem woke_notMem_moves (time : Duration) (n : Nat) :
    (.woke, time) ∉ (start ticket c began interval).moves n := by
  have evenly : ∀ k, (.woke, time) ∉ (start ticket c began interval).moves (2 * k) := by
    intro k
    simp [moves_eq]
  obtain ⟨k, rfl | rfl⟩ : ∃ k, n = 2 * k ∨ n = 2 * k + 1 := ⟨n / 2, by omega⟩
  · exact evenly k
  · simp [Course.moves, move_after, evenly]

/-- The checks of a loop in a fleet start when its course says. -/
theorem startOf_of_checks {as : List Action} (timely : Timely as {})
    (checks : Checks as ticket c began) {n : Nat} {t : Duration}
    (found : (startsIn as ticket)[n]? = some t) :
    t = (start ticket c began c.period).startOf (n + 1) := by
  obtain ⟨⟨l, hl, rfl, rfl, untold⟩, woke⟩ := checks
  cases (onCourse_perform timely).follows l hl untold with
  | spawned loop moves =>
    rw [moves] at woke
    cases woke
  | running time m loop moves =>
    rw [moves, List.mem_cons] at woke
    rcases woke with same | later
    · cases same
      have starts : startsIn as l.ticket =
          timesOf .started ((start l.ticket l.cycle began l.cycle.period).moves m) := by
        rw [startsIn, moves]
        rfl
      rw [starts] at found
      exact startOf_of_getElem? found
    · exact absurd later (woke_notMem_moves began m)

/-! ## What they do together -/

/-- What becomes of the stagger of two loops with one interval that began together. -/
structure Gathers (ticket ticket' : Nat) (c d : Cycle) (began interval : Duration) : Prop where
  /-- The first checks start apart, by the stagger of the ids. -/
  apart : (start ticket c began interval).startOf 1 = began.roundedUp + Cadence.stagger c.id ∧
    (start ticket' d began interval).startOf 1 = began.roundedUp + Cadence.stagger d.id ∧
    Cadence.stagger c.id ≠ Cadence.stagger d.id
  /-- All further checks start at the same instants, which are the points of the grid. -/
  together : ∀ n,
    (start ticket c began interval).startOf (n + 2) = (point began interval (n + 1)).roundedUp ∧
    (start ticket' d began interval).startOf (n + 2) = (point began interval (n + 1)).roundedUp
  /-- So do those of two such loops of a fleet. -/
  fleet : ∀ as, Timely as {} → c.period = interval → d.period = interval →
    Checks as ticket c began → Checks as ticket' d began →
    ∀ n t u, (startsIn as ticket)[n]? = some t → (startsIn as ticket')[n]? = some u →
      (t = u ↔ n ≠ 0)

/-- The stagger of small ids keeps only the first checks of two loops apart that have one interval,
began together and are never late. -/
theorem gather {ticket ticket' : Nat} {c d : Cycle} {began interval : Duration}
    (small : 0 ≤ c.id.toInt ∧ c.id.toInt < 2 ^ 32)
    (small' : 0 ≤ d.id.toInt ∧ d.id.toInt < 2 ^ 32) (distinct : c.id ≠ d.id)
    (punctual : Punctual ticket c began interval)
    (punctual' : Punctual ticket' d began interval) :
    Gathers ticket ticket' c d began interval := by
  have apart : Cadence.stagger c.id ≠ Cadence.stagger d.id := fun same =>
    distinct (stagger_injective small small' same)
  refine
    { apart := ⟨startOf_one, startOf_one, apart⟩
      together := fun n => ⟨punctual.startOf n, punctual'.startOf n⟩
      fleet := ?_ }
  rintro as timely rfl same checks checks' n t u found found'
  rw [startOf_of_checks timely checks found, startOf_of_checks timely checks' found', same]
  cases n with
  | zero =>
    refine iff_of_false (fun equal => apart ?_) fun pos => pos rfl
    rw [startOf_one, startOf_one] at equal
    exact Duration.ext_iff.2 (Nat.add_left_cancel (congrArg Duration.nanoseconds equal))
  | succ n =>
    rw [punctual.startOf, punctual'.startOf]
    exact iff_of_true rfl n.succ_ne_zero

/-- A target that is always online. -/
def steady (id : Int64) : Cycle :=
  { id, name := "steady", interval := 10, takes := fun _ => .ofSeconds 3, online := fun _ => true }

theorem punctual_steady (ticket : Nat) {id : Int64} (first : id.toInt.toNat < 70)
    (even : began.Whole) : Punctual ticket (steady id) began (.ofSeconds 10) := by
  have short : (Duration.ofSeconds 3).nanoseconds < (Duration.ofSeconds 10).nanoseconds := by decide
  refine punctual_of_short ⟨10000, rfl⟩ (fun _ => ⟨3000, rfl⟩) even (fun _ => rfl) ?_
    fun _ => short
  show 100000000 * min id.toInt.toNat 4294967295 + 3000000000 < 10000000000
  omega

/-- The first checks of the ids 1 and 2 start 100 ms apart, the second ones at the same instant. -/
theorem gather_steady :
    (start 0 (steady 1) (.ofMillis 5) (.ofSeconds 10)).startOf 1 = .ofMillis 105 ∧
      (start 1 (steady 2) (.ofMillis 5) (.ofSeconds 10)).startOf 1 = .ofMillis 205 ∧
      (start 0 (steady 1) (.ofMillis 5) (.ofSeconds 10)).startOf 2 = .ofMillis 10005 ∧
      (start 1 (steady 2) (.ofMillis 5) (.ofSeconds 10)).startOf 2 = .ofMillis 10005 := by
  have gathers := gather (c := steady 1) (d := steady 2) (by decide) (by decide) (by decide)
    (punctual_steady 0 (by decide) ⟨5, rfl⟩) (punctual_steady 1 (by decide) ⟨5, rfl⟩)
  obtain ⟨first, first', -⟩ := gathers.apart
  obtain ⟨second, second'⟩ := gathers.together 0
  exact ⟨first, first', second, second'⟩

/-- The same for two loops of a fleet. -/
example :
    let f := (({} : Fleet).launch [steady 1, steady 2]).2.sleep (.ofSeconds 21)
    f.starts 0 = [.ofMillis 100, .ofSeconds 10, .ofSeconds 20] ∧
      f.starts 1 = [.ofMillis 200, .ofSeconds 10, .ofSeconds 20] := by
  exact ⟨rfl, rfl⟩

/-- The stagger does not keep the checks of loops with one interval apart. -/
theorem stagger_not_kept : ¬ ∀ (ticket ticket' : Nat) (c d : Cycle) (began interval : Duration),
    (0 ≤ c.id.toInt ∧ c.id.toInt < 2 ^ 32) → (0 ≤ d.id.toInt ∧ d.id.toInt < 2 ^ 32) →
      c.id ≠ d.id → Cadence.stagger c.id < interval → Cadence.stagger d.id < interval →
      Punctual ticket c began interval → Punctual ticket' d began interval →
      ∀ n, (start ticket c began interval).startOf (n + 1) ≠
        (start ticket' d began interval).startOf (n + 1) := by
  intro apart
  have second := apart 0 1 (steady 0) (steady 1) .zero (.ofSeconds 10) (by decide)
    (by decide) (by decide) (by decide) (by decide) (punctual_steady 0 (by decide) ⟨0, rfl⟩)
    (punctual_steady 1 (by decide) ⟨0, rfl⟩) 1
  revert second
  decide

end Course

end Uptime.Fleet
