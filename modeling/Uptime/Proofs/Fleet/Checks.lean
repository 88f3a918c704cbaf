import Uptime.Proofs.Fleet.Hearing

/-!
# One check at a time

The checks of one id never overlap, whichever loops made them: in every trace the starts and ends of
the checks of an id alternate, every end belongs to the loop that made the start before it, and the
times ascend. What carries the argument is that the check under way according to the trace is the
one that the loop of the id is in (`Watched`).
-/

namespace Uptime.Fleet

/-- The starts and ends of the checks of an id. -/
def checksOf (id : Int64) (ms : List Moment) : List Moment :=
  ms.filter fun m => m.id == id && (m.move == .started || m.move == .finished)

theorem checksOf_append (id : Int64) (ms ns : List Moment) :
    checksOf id (ms ++ ns) = checksOf id ms ++ checksOf id ns := List.filter_append ..

/-- Starts and ends of checks of which each starts only after the one before it was finished. The
last check may still be under way. -/
inductive OneByOne : List Moment → Prop
  | idle : OneByOne []
  | busy {s : Moment} (start : s.move = .started) : OneByOne [s]
  | check {s e : Moment} {ms : List Moment} (start : s.move = .started)
      (finish : e.move = .finished) (own : e.ticket = s.ticket) (lasts : s.time ≤ e.time)
      (after : ∀ m ∈ ms, e.time ≤ m.time) (rest : OneByOne ms) : OneByOne (s :: e :: ms)

/-- Whose check is under way after these starts and ends, if they alternate. -/
def underWay : Option Nat → List Moment → Option (Option Nat)
  | busy, [] => some busy
  | none, m :: ms => if m.move = .started then underWay (some m.ticket) ms else none
  | some ticket, m :: ms =>
    if m.move = .finished ∧ m.ticket = ticket then underWay none ms else none

theorem underWay_append (busy : Option Nat) (ms ns : List Moment) :
    underWay busy (ms ++ ns) = (underWay busy ms).bind fun later => underWay later ns := by
  induction ms generalizing busy with
  | nil => rfl
  | cons m ms ih =>
    cases busy with
    | none =>
      simp only [List.cons_append, underWay]
      split
      · exact ih _
      · rfl
    | some ticket =>
      simp only [List.cons_append, underWay]
      split
      · exact ih _
      · rfl

/-- Starts and ends that alternate at ascending times are one by one. -/
theorem oneByOne_of_underWay (ms : List Moment) (alternate : (underWay none ms).isSome)
    (ascend : ms.Pairwise (·.time ≤ ·.time)) : OneByOne ms := by
  match ms with
  | [] => exact .idle
  | [s] =>
    simp only [underWay] at alternate
    split at alternate
    · next start => exact .busy start
    · cases alternate
  | s :: e :: ms =>
    simp only [underWay] at alternate
    split at alternate
    · next start =>
      split at alternate
      · next finish =>
        obtain ⟨ahead, ascend⟩ := List.pairwise_cons.1 ascend
        obtain ⟨after, ascend⟩ := List.pairwise_cons.1 ascend
        exact .check start finish.1 finish.2 (ahead e List.mem_cons_self) after
          (oneByOne_of_underWay ms alternate ascend)
      · cases alternate
    · cases alternate

/-! ## Times ascend -/

/-- The moves so far have ascending times, none of them in the future. -/
structure Past (ms : List Moment) (f : Fleet) : Prop where
  ascend : ms.Pairwise (·.time ≤ ·.time)
  past : ∀ m ∈ ms, m.time ≤ f.now

theorem time_moments {f : Fleet} {a : Action} {m : Moment} (hm : m ∈ a.moments f) :
    m.time = f.now := by
  cases a with
  | move ticket =>
    simp only [Action.moments, List.mem_map] at hm
    obtain ⟨l, -, rfl⟩ := hm
    rfl
  | _ => cases hm

theorem Past.apply {ms : List Moment} {f : Fleet} (h : Past ms f) (a : Action) :
    Past (ms ++ a.moments f) (a.apply f) := by
  have present : ∀ m ∈ a.moments f, ∀ n ∈ a.moments f, m.time ≤ n.time := fun m hm n hn => by
    rw [time_moments hm, time_moments hn]
    exact Nat.le_refl _
  constructor
  · refine List.pairwise_append.2
      ⟨h.ascend, List.pairwise_of_forall_mem_list present, fun m hm n hn => ?_⟩
    rw [time_moments hn]
    exact h.past m hm
  · intro m hm
    have present : m.time ≤ f.now := by
      rcases List.mem_append.1 hm with hm | hm
      · exact h.past m hm
      · exact Nat.le_of_eq (congrArg Duration.nanoseconds (time_moments hm))
    exact Nat.le_trans present (now_le_apply a f)

theorem past_trace (as : List Action) : Past (trace as {}) (perform as {}) :=
  perform_keeps (fun _ _ a h => h.apply a) [] {} ⟨.nil, by simp⟩ as

/-! ## The check under way -/

/-- The number of a loop that is in a check. -/
def Loop.busy? (l : Loop) : Option Nat :=
  match l.phase with
  | .checking _ => some l.ticket
  | _ => none

/-- The number of the loop that is in a check of an id. -/
def busy? (id : Int64) (f : Fleet) : Option Nat := (f.holder? id).bind Loop.busy?

/-- In a trace the check of an id that is under way is the one in which the loop of the id is. -/
def Watched (id : Int64) (ms : List Moment) (f : Fleet) : Prop :=
  underWay none (checksOf id ms) = some (f.busy? id)

@[simp] theorem Loop.busy?_hearing (l : Loop) (a : Action) : (l.hearing a).busy? = l.busy? := by
  simp only [Loop.busy?, Loop.phase_hearing, Loop.ticket_hearing]

/-- A move starts a check if none is under way, and ends none but its own. -/
theorem Loop.underWay_step (l : Loop) (now : Duration) :
    underWay l.busy? (checksOf l.cycle.id [⟨now, l.cycle.id, l.ticket, (l.step now).1⟩]) =
      some ((l.moved now).bind Loop.busy?) := by
  cases h : l.phase with
  | spawned => simp [Loop.moved, Loop.busy?, step_spawned h, h, checksOf, underWay, Loop.wait]
  | waiting wake =>
    cases told : l.isTold with
    | true => simp [Loop.moved, Loop.busy?, step_told h told, h, checksOf, underWay]
    | false => simp [Loop.moved, Loop.busy?, step_waiting h told, h, checksOf, underWay]
  | checking done =>
    simp [Loop.moved, Loop.busy?, step_checking h, h, checksOf, underWay, Loop.wait]
  | exited => simp [Loop.moved, Loop.busy?, step_exited h, h, checksOf, underWay]

theorem busy?_add {f : Fleet} (h : Sound f) (c : Cycle) (id : Int64) :
    (f.add c).2.busy? id = f.busy? id := by
  rw [busy?, busy?, h.holder?_add]
  cases f.holder? id with
  | some l => rfl
  | none =>
    rw [Option.none_or]
    split <;> rfl

theorem busy?_hearing {f g : Fleet} {id : Int64} {a : Action}
    (same : g.holder? id = (f.holder? id).map (·.hearing a)) : g.busy? id = f.busy? id := by
  rw [busy?, busy?, same]
  cases f.holder? id with
  | none => rfl
  | some l => exact l.busy?_hearing a

theorem busy?_move {f : Fleet} (h : Sound f) {l : Loop} (hl : l ∈ f.loops) (id : Int64) :
    (f.move l).busy? id =
      if l.cycle.id == id then (l.moved f.now).bind Loop.busy? else f.busy? id := by
  rw [busy?, h.holder?_move hl]
  split <;> rfl

namespace Watched

variable {id : Int64} {ms : List Moment} {f : Fleet} {l : Loop}

theorem move (h : Watched id ms f) (sound : Sound f) (hl : l ∈ f.loops) :
    Watched id (ms ++ [⟨f.now, l.cycle.id, l.ticket, (l.step f.now).1⟩]) (f.move l) := by
  unfold Watched at h ⊢
  rw [checksOf_append, underWay_append, h, Option.bind_some, busy?_move sound hl]
  by_cases own : l.cycle.id = id
  · subst own
    rw [busy?, sound.holder?_eq hl]
    simpa using l.underWay_step f.now
  · simp [own, checksOf, underWay]

theorem apply (h : Sound f ∧ Watched id ms f) (a : Action) :
    Sound (a.apply f) ∧ Watched id (ms ++ a.moments f) (a.apply f) := by
  have keep : ∀ {g k : Fleet}, g.busy? id = k.busy? id → Watched id ms k → Watched id ms g :=
    fun same h => h.trans (congrArg some same.symm)
  refine a.keeps (P := fun ms f => Sound f ∧ Watched id ms f) ms (fun g count h => ?_)
    (fun g c h => ?_) (fun i h => ?_) (fun h => ?_) (fun time _ h => ?_)
    (fun ticket l _ found h => ?_) h
  · exact ⟨h.1.note _, h.2⟩
  · exact ⟨h.1.add c, keep (busy?_add h.1 c id) h.2⟩
  · exact ⟨h.1.stop i, keep (busy?_hearing (h.1.holder?_stop i id)) h.2⟩
  · exact ⟨h.1.stopAll, keep (busy?_hearing (h.1.holder?_stopAll id)) h.2⟩
  · exact ⟨h.1.advanceTo time, h.2⟩
  · have hl := (mem_of_loop? found).1
    exact ⟨h.1.move hl, h.2.move h.1 hl⟩

end Watched

theorem watched_trace (id : Int64) (as : List Action) : Watched id (trace as {}) (perform as {}) :=
  (perform_keeps (P := fun ms f => Sound f ∧ Watched id ms f) (fun _ _ a h => Watched.apply h a)
    [] {} ⟨.empty, rfl⟩ as).2

/-- Whatever the order of operations and moves, the checks of an id are made one by one. -/
theorem oneByOne_trace (id : Int64) (as : List Action) : OneByOne (checksOf id (trace as {})) := by
  refine oneByOne_of_underWay _ ?_ ((past_trace as).ascend.filter _)
  rw [watched_trace id as]
  rfl

end Uptime.Fleet
