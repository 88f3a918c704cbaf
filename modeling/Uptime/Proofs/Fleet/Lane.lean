import Uptime.Proofs.Fleet.Sleep

/-!
# The fleet as one target sees it

The loops of one id come one after the other and never meet the others. What such an id notices is a
`Lane`: its loop, the clock, and the checks of its cycles by the order in which these were offered.
While the fleet sleeps, the loop in the lane makes the moves that it would make alone
(`Tracked.sleep`).
-/

namespace Uptime.Fleet

/-- The starts and ends of checks among some moves. -/
def checksIn (ms : List (Move × Duration)) : List (Move × Duration) :=
  ms.filter fun m => m.1 == .started || m.1 == .finished

/-- The start or end of a check of a cycle that an event takes down. -/
def Event.check? (ticket : Nat) : Event → Option (Move × Duration)
  | .started k time => if k = ticket then some (.started, time) else none
  | .finished k time => if k = ticket then some (.finished, time) else none
  | _ => none

/-- The starts and ends of the checks of a cycle, in order. -/
def report (ticket : Nat) (f : Fleet) : List (Move × Duration) :=
  f.history.reverse.filterMap (·.check? ticket)

/-- A fleet as far as the loops of one id are concerned. -/
structure Lane where
  /-- The loop of the id. Its number is the place of its cycle among those of the id. -/
  loop? : Option Loop := none
  now : Duration := .zero
  /-- The checks of every cycle of the id that was offered. -/
  reports : List (List (Move × Duration)) := []

/-- The loop under another number. -/
def Loop.renumber (ticket : Nat) (l : Loop) : Loop := { l with ticket }

/-- The lane of an id whose cycles got these numbers. -/
def lane (id : Int64) (numbers : List Nat) (f : Fleet) : Lane where
  loop? := (f.holder? id).map fun l => l.renumber (numbers.idxOf l.ticket)
  now := f.now
  reports := numbers.map f.report

namespace Lane

/-- Another cycle is offered. It is taken if there is no loop. -/
def add (c : Cycle) (v : Lane) : Lane :=
  { v with
    loop? := v.loop?.or (some (.spawn v.reports.length c))
    reports := v.reports ++ [[]] }

/-- The loop is told to stop. -/
def signal (v : Lane) : Lane := { v with loop? := v.loop?.map Loop.signal }

/-- Time passes until a limit: the loop does what it does alone, and is cleared away if it ends. -/
def passUntil (limit : Duration) (fuel : Nat) (v : Lane) : Lane :=
  match v.loop? with
  | none => { v with now := limit }
  | some l =>
    let (ms, last) := l.movesUntil limit fuel v.now
    { loop? := if last.phase = .exited then none else some last
      now := limit
      reports := v.reports.modify l.ticket (· ++ checksIn ms) }

/-- The next move of the loop, at its time. -/
def hop (l : Loop) (v : Lane) : Lane where
  loop? := l.moved (dueAt v.now l)
  now := dueAt v.now l
  reports := v.reports.modify l.ticket
    (· ++ checksIn [((l.step (dueAt v.now l)).1, dueAt v.now l)])

theorem passUntil_none {v : Lane} (h : v.loop? = none) (limit : Duration) (fuel : Nat) :
    v.passUntil limit fuel = { v with now := limit } := by
  simp only [passUntil, h]

theorem passUntil_some {v : Lane} {l : Loop} (h : v.loop? = some l) (limit : Duration)
    (fuel : Nat) :
    v.passUntil limit fuel =
      { loop? :=
          if (l.movesUntil limit fuel v.now).2.phase = .exited then none
          else some (l.movesUntil limit fuel v.now).2
        now := limit
        reports :=
          v.reports.modify l.ticket (· ++ checksIn (l.movesUntil limit fuel v.now).1) } := by
  simp only [passUntil, h]

end Lane

/-! ## Moves and numbers -/

namespace Loop

variable {l : Loop} {now limit : Duration}

@[simp] theorem dueAt_renumber (ticket : Nat) (l : Loop) (now : Duration) :
    dueAt now (l.renumber ticket) = dueAt now l := rfl

/-- The number of a loop has no influence on its moves. -/
theorem step_renumber (ticket : Nat) (l : Loop) (now : Duration) :
    (l.renumber ticket).step now = ((l.step now).1, (l.step now).2.renumber ticket) := by
  cases phase : l.phase with
  | spawned =>
    rw [step_spawned phase, step_spawned (l := l.renumber ticket) phase]
    rfl
  | waiting wake =>
    cases told : l.isTold with
    | true =>
      rw [step_told phase told, step_told (l := l.renumber ticket) phase told]
      rfl
    | false =>
      rw [step_waiting phase told, step_waiting (l := l.renumber ticket) phase told]
      rfl
  | checking done =>
    rw [step_checking phase, step_checking (l := l.renumber ticket) phase]
    rfl
  | exited =>
    rw [step_exited phase, step_exited (l := l.renumber ticket) phase]

/-- While no move is due, it does not matter when one begins to look. -/
theorem movesUntil_later {time : Duration} (paced : now ≤ time) (le : time ≤ dueAt now l)
    (fuel : Nat) : l.movesUntil limit fuel time = l.movesUntil limit fuel now := by
  have same : dueAt time l = dueAt now l := by
    rcases l.dueAt_eq with atOnce | ⟨due, same⟩
    · rw [atOnce] at le
      rw [Duration.ext_iff.2 (Nat.le_antisymm le paced)]
    · rw [same, same]
  cases fuel with
  | zero => rfl
  | succ fuel =>
    by_cases ended : l.phase = .exited
    · rw [movesUntil_exited ended, movesUntil_exited ended]
    · rw [movesUntil, movesUntil, due?_eq_some ended, due?_eq_some ended, same]

end Loop

/-! ## What is taken down -/

theorem checksIn_append (ms ns : List (Move × Duration)) :
    checksIn (ms ++ ns) = checksIn ms ++ checksIn ns := List.filter_append ..

theorem checksIn_cons (m : Move × Duration) (ms : List (Move × Duration)) :
    checksIn (m :: ms) = checksIn [m] ++ checksIn ms := checksIn_append [m] ms

/-- What happens besides the checks of a cycle is not in their report. -/
theorem report_note {ticket : Nat} {e : Event} (other : e.check? ticket = none) (f : Fleet) :
    (f.note e).report ticket = f.report ticket := by
  rw [report, history_note, List.reverse_cons, List.filterMap_append,
    List.filterMap_cons_none other, List.filterMap_nil, List.append_nil, report]

/-- A move is taken down for the cycle of its loop and for no other. -/
theorem report_move (ticket : Nat) (l : Loop) (f : Fleet) :
    (f.move l).report ticket =
      f.report ticket ++
        if l.ticket = ticket then checksIn [((l.step f.now).1, f.now)] else [] := by
  by_cases gone : l.phase = .exited
  · rw [move_exited gone, Loop.step_exited gone]
    simp [report, clear, checksIn]
  · have history : (f.move l).history =
        (eventOf l f.now (l.step f.now).1).toList ++ f.history := by rw [move_eq gone]
    rw [report, history, List.reverse_append, List.filterMap_append]
    congr 1
    by_cases own : l.ticket = ticket
    · cases (l.step f.now).1 <;> simp [eventOf, Event.check?, checksIn, own]
    · cases (l.step f.now).1 <;> simp [eventOf, Event.check?, own]

theorem report_stop (ticket : Nat) (id : Int64) (f : Fleet) :
    (f.stop id).2.report ticket = f.report ticket := by
  unfold Fleet.stop
  split
  · exact report_note rfl _
  · rfl

theorem report_stopAll (ticket : Nat) (f : Fleet) :
    f.stopAll.report ticket = f.report ticket := report_note rfl _

theorem report_add (ticket : Nat) (c : Cycle) (f : Fleet) :
    (f.add c).2.report ticket = f.report ticket := by
  unfold Fleet.add
  split <;> exact report_note rfl _

/-- The announcement of a launch is nothing to a lane. -/
theorem lane_note (id : Int64) (numbers : List Nat) (count : Nat) (f : Fleet) :
    lane id numbers (f.note (.launching count)) = lane id numbers f := by
  have same : ∀ n, (f.note (.launching count)).report n = f.report n :=
    fun _ => report_note rfl f
  simp only [lane, funext same]
  rfl

theorem Loop.moved_renumber (ticket : Nat) (l : Loop) (now : Duration) :
    (l.renumber ticket).moved now = (l.moved now).map (·.renumber ticket) := by
  unfold Loop.moved
  rw [Loop.step_renumber]
  show (if l.phase = .exited then none else _) = _
  split <;> rfl

/-! ## The lane while time passes -/

namespace Lane

variable {v : Lane} {l : Loop} {limit : Duration}

theorem reports_nil (v : Lane) (place : Nat) :
    v.reports.modify place (· ++ checksIn []) = v.reports := by
  have same : (fun ms : List (Move × Duration) => ms ++ checksIn []) = id :=
    funext List.append_nil
  rw [same, List.modify_id]

theorem passUntil_free (free : ∀ l ∈ v.loop?, limit < dueAt v.now l)
    (alive : ∀ l ∈ v.loop?, l.phase ≠ .exited) (fuel : Nat) :
    v.passUntil limit fuel = { v with now := limit } := by
  cases found : v.loop? with
  | none => rw [passUntil_none found, ← found]
  | some l =>
    rw [passUntil_some found, Loop.movesUntil_free (free l found), if_neg (alive l found),
      reports_nil]

theorem passUntil_later {time : Duration} (later : v.now ≤ time)
    (le : ∀ l ∈ v.loop?, time ≤ dueAt v.now l) (fuel : Nat) :
    ({ v with now := time } : Lane).passUntil limit fuel = v.passUntil limit fuel := by
  rcases found : v.loop? with _ | l
  · rw [passUntil_none found, passUntil_none rfl, found]
  · rw [passUntil_some found, passUntil_some rfl, Loop.movesUntil_later later (le l found)]

/-- The moves until a limit begin with the next one. -/
theorem passUntil_hop (found : v.loop? = some l) (due : dueAt v.now l ≤ limit) (fuel : Nat) :
    v.passUntil limit (fuel + 1) = (v.hop l).passUntil limit fuel := by
  by_cases ended : l.phase = .exited
  · have gone : (v.hop l).loop? = none := by rw [hop, Loop.moved, if_pos ended]
    rw [passUntil_some found, passUntil_none gone, Loop.movesUntil_exited ended, if_pos ended]
    simp only [hop, Loop.moved, if_pos ended, Loop.step_exited ended]
    rfl
  · have stays : (v.hop l).loop? = some (l.step (dueAt v.now l)).2 := by
      rw [hop, Loop.moved, if_neg ended]
    rw [passUntil_some found, passUntil_some stays, Loop.movesUntil_due ended due]
    dsimp only [hop]
    rw [checksIn_cons, Loop.ticket_step, List.modify_modify_eq]
    simp only [Function.comp_def, List.append_assoc]
    rfl

end Lane

end Uptime.Fleet
