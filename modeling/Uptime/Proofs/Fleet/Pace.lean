import Uptime.Proofs.Fleet.Hearing

/-!
# Loops that move in time

In a timely history no loop is late, and no check begins or ends before the point of the grid that
its loop reached (`Loop.Paced`).
-/

namespace Uptime.Fleet

/-! ## When a loop is due -/

theorem dueAt_told {l : Loop} {wake : Duration} (h : l.phase = .waiting wake)
    (told : l.isTold = true) (now : Duration) : dueAt now l = now := by
  simp [dueAt, Loop.due?, h, told]

theorem dueAt_waiting {l : Loop} {wake : Duration} (h : l.phase = .waiting wake)
    (told : l.isTold = false) (now : Duration) : dueAt now l = wake := by
  simp [dueAt, Loop.due?, h, told]

theorem dueAt_checking {l : Loop} {done : Duration} (h : l.phase = .checking done)
    (now : Duration) : dueAt now l = done := by
  simp [dueAt, Loop.due?, h]

theorem dueAt_spawned {l : Loop} (h : l.phase = .spawned) (now : Duration) : dueAt now l = now := by
  simp [dueAt, Loop.due?, h]

theorem dueAt_exited {l : Loop} (h : l.phase = .exited) (now : Duration) : dueAt now l = now := by
  simp [dueAt, Loop.due?, h]

theorem Loop.due?_eq_some {l : Loop} (h : l.phase ≠ .exited) (now : Duration) :
    l.due? now = some (dueAt now l) := by
  cases phase : l.phase with
  | exited => exact absurd phase h
  | _ => simp [dueAt, due?, phase]

/-- A loop is due at once or at a time that does not depend on the clock. -/
theorem Loop.dueAt_eq (l : Loop) :
    (∀ now, dueAt now l = now) ∨ ∃ time, ∀ now, dueAt now l = time := by
  cases h : l.phase with
  | spawned => exact .inl (dueAt_spawned h)
  | waiting wake =>
    cases told : l.isTold with
    | true => exact .inl (dueAt_told h told)
    | false => exact .inr ⟨wake, dueAt_waiting h told⟩
  | checking done => exact .inr ⟨done, dueAt_checking h⟩
  | exited => exact .inl (dueAt_exited h)

/-- While time passes, a move that is due later stays due at its time. -/
theorem dueAt_of_lt {l : Loop} {now : Duration} (later : now < dueAt now l) (time : Duration) :
    dueAt time l = dueAt now l := by
  rcases l.dueAt_eq with atOnce | ⟨due, same⟩
  · rw [atOnce now] at later
    exact absurd later (Nat.lt_irrefl _)
  · rw [same, same]

theorem earliest?_eq_none {now : Duration} {ls : List Loop} (h : earliest? now ls = none) :
    ls = [] := by
  cases ls with
  | nil => rfl
  | cons l ls =>
    unfold earliest? at h
    split at h
    · cases h
    · split at h <;> cases h

/-- When the clock shows the time at which a move is due, it is due. -/
theorem dueAt_dueAt (now : Duration) (l : Loop) : dueAt (dueAt now l) l = dueAt now l := by
  rcases l.dueAt_eq with atOnce | ⟨due, same⟩
  · exact atOnce _
  · rw [same, same]

/-- The earliest loop is one of the loops, and no other is due before it. -/
theorem earliest?_eq_some {now : Duration} {ls : List Loop} {l : Loop}
    (h : earliest? now ls = some l) : l ∈ ls ∧ ∀ k ∈ ls, dueAt now l ≤ dueAt now k := by
  induction ls generalizing l with
  | nil => cases h
  | cons k ls ih =>
    unfold earliest? at h
    split at h
    · next none =>
      cases h
      rw [earliest?_eq_none none]
      simp [Duration.le_iff]
    · next m found =>
      obtain ⟨hm, first⟩ := ih found
      split at h
      · next before =>
        cases h
        refine ⟨List.mem_cons_of_mem _ hm, List.forall_mem_cons.2 ⟨Nat.le_of_lt before, first⟩⟩
      · next before =>
        cases h
        have least : dueAt now k ≤ dueAt now m := Nat.le_of_not_lt before
        exact ⟨List.mem_cons_self, List.forall_mem_cons.2
          ⟨Nat.le_refl _, fun j hj => Nat.le_trans least (first j hj)⟩⟩

/-! ## The moves of a lone loop -/

namespace Loop

variable {l : Loop} {now limit : Duration}

theorem movesUntil_exited (h : l.phase = .exited) (limit : Duration) (fuel : Nat)
    (now : Duration) : l.movesUntil limit fuel now = ([], l) := by
  cases fuel with
  | zero => rfl
  | succ fuel => simp only [movesUntil, due?, h]

theorem movesUntil_free (free : limit < dueAt now l) (fuel : Nat) :
    l.movesUntil limit fuel now = ([], l) := by
  cases fuel with
  | zero => rfl
  | succ fuel =>
    by_cases ended : l.phase = .exited
    · exact movesUntil_exited ended limit _ now
    · simp [movesUntil, due?_eq_some ended, free]

theorem movesUntil_due (alive : l.phase ≠ .exited) (due : dueAt now l ≤ limit) (fuel : Nat) :
    l.movesUntil limit (fuel + 1) now =
      (((l.step (dueAt now l)).1, dueAt now l) ::
          ((l.step (dueAt now l)).2.movesUntil limit fuel (dueAt now l)).1,
        ((l.step (dueAt now l)).2.movesUntil limit fuel (dueAt now l)).2) := by
  have never : ¬limit < dueAt now l := Nat.not_lt.2 due
  simp [movesUntil, due?_eq_some alive, never]

end Loop

/-! ## The pace of a loop -/

/-- What holds of a loop as long as it moves in time. -/
structure Loop.Paced (now : Duration) (l : Loop) : Prop where
  interval : l.cadence.interval = l.cycle.period
  /-- No check starts before the point of the grid that was reached, -/
  waiting : ∀ wake, l.phase = .waiting wake → l.cadence.checkpoint ≤ wake
  /-- and none ends before it. -/
  checking : ∀ done, l.phase = .checking done → l.cadence.checkpoint ≤ done
  /-- The next move is not in the past. -/
  due : now ≤ dueAt now l

namespace Loop

variable {l : Loop} {now : Duration}

theorem paced_spawn (ticket : Nat) (c : Cycle) (now : Duration) : (spawn ticket c).Paced now :=
  ⟨rfl, nofun, nofun, Nat.le_refl _⟩

/-- A loop that just began to wait is not late. -/
theorem le_dueAt_wait (now : Duration) (l : Loop) : now ≤ dueAt now (l.wait now) := by
  have wake : now ≤ now.wakeAfter l.cadence.sleep :=
    Nat.le_trans (Nat.le_add_right _ _) (Duration.le_wakeAfter now l.cadence.sleep)
  cases told : (l.wait now).isTold with
  | true => rw [dueAt_told rfl told]; exact Nat.le_refl _
  | false => rw [dueAt_waiting rfl told]; exact wake

theorem Paced.step (h : l.Paced now) (due : dueAt now l ≤ now) : (l.step now).2.Paced now := by
  cases phase : l.phase with
  | spawned =>
    rw [step_spawned phase]
    refine ⟨rfl, fun wake hw => ?_, nofun, le_dueAt_wait now _⟩
    cases hw
    exact Nat.le_trans (Nat.le_add_right _ _) (Duration.le_wakeAfter now _)
  | waiting wake =>
    cases told : l.isTold with
    | true =>
      rw [step_told phase told]
      exact ⟨h.interval, nofun, nofun, Nat.le_refl _⟩
    | false =>
      rw [step_waiting phase told]
      rw [dueAt_waiting phase told] at due
      have lasts : now ≤ now + l.cycle.takes l.checks := Nat.le_add_right _ _
      refine ⟨h.interval, nofun, fun done hd => ?_, ?_⟩
      · cases hd
        exact Nat.le_trans (h.waiting wake phase) (Nat.le_trans due lasts)
      · rw [dueAt_checking rfl]
        exact lasts
  | checking done =>
    rw [step_checking phase]
    rw [dueAt_checking phase] at due
    refine ⟨h.interval, fun wake hw => ?_, nofun, le_dueAt_wait now _⟩
    cases hw
    refine Nat.le_trans ?_ (Duration.le_wakeAfter now _)
    exact Cadence.checkpoint_advance_le (Nat.le_trans (h.checking done phase) due) _
  | exited =>
    rw [step_exited phase]
    exact h

/-- To be told to stop makes a loop due at once, if it makes a difference. -/
theorem dueAt_hearing (l : Loop) (a : Action) :
    (∀ now, dueAt now (l.hearing a) = now) ∨ ∀ now, dueAt now (l.hearing a) = dueAt now l := by
  cases phase : l.phase with
  | spawned => exact .inl (dueAt_spawned (by simpa using phase))
  | waiting wake =>
    have still : (l.hearing a).phase = .waiting wake := by simpa using phase
    cases told : (l.hearing a).isTold with
    | true => exact .inl (dueAt_told still told)
    | false =>
      have before : l.isTold = false := l.isTold_of_hearing told
      exact .inr fun now => by rw [dueAt_waiting still told, dueAt_waiting phase before]
  | checking done =>
    exact .inr fun now => by rw [dueAt_checking (by simpa using phase), dueAt_checking phase]
  | exited => exact .inl (dueAt_exited (by simpa using phase))

theorem Paced.hearing (h : l.Paced now) (a : Action) : (l.hearing a).Paced now := by
  refine ⟨by simpa using h.interval, by simpa using h.waiting, by simpa using h.checking, ?_⟩
  rcases l.dueAt_hearing a with atOnce | same
  · rw [atOnce]
    exact Nat.le_refl _
  · rw [same]
    exact h.due

/-- While no move is due, the clock may be put forward. -/
theorem Paced.later (h : l.Paced now) {time : Duration} (le : time ≤ dueAt now l) :
    l.Paced time := by
  refine ⟨h.interval, h.waiting, h.checking, ?_⟩
  rcases l.dueAt_eq with atOnce | ⟨due, same⟩
  · rw [atOnce]
    exact Nat.le_refl _
  · rw [same] at le ⊢
    exact le

end Loop

/-! ## The pace of a fleet -/

/-- No loop of the fleet is late or ahead of its grid. -/
def Paced (f : Fleet) : Prop := ∀ l ∈ f.loops, l.Paced f.now

theorem mem_add {f : Fleet} {c : Cycle} {k : Loop} (hk : k ∈ (f.add c).2.loops) :
    k ∈ f.loops ∨ k = Loop.spawn f.offered c := by
  unfold Fleet.add at hk
  split at hk
  · exact .inl hk
  · exact (List.mem_append.1 hk).imp_right List.mem_singleton.1

theorem Paced.add {f : Fleet} (h : Paced f) (c : Cycle) : Paced (f.add c).2 := by
  intro k hk
  rw [now_add]
  rcases mem_add hk with old | rfl
  · exact h k old
  · exact Loop.paced_spawn _ c _

theorem Paced.move {f : Fleet} (h : Paced f) (sound : Sound f) {l : Loop} (hl : l ∈ f.loops)
    (due : dueAt f.now l ≤ f.now) : Paced (f.move l) := by
  intro k hk
  rw [now_move]
  rcases (sound.mem_move hl).1 hk with ⟨old, -⟩ | new
  · exact h k old
  · rw [Loop.moved_eq_some new]
    exact (h l hl).step due

theorem Paced.advanceTo {f : Fleet} (h : Paced f) {time : Duration}
    (free : ∀ l ∈ f.loops, time ≤ dueAt f.now l) : Paced (f.advanceTo time) := by
  intro l hl
  unfold Fleet.advanceTo
  dsimp only
  split
  · exact (h l hl).later (free l hl)
  · exact h l hl

theorem Paced.hearing {f g : Fleet} (h : Paced f) {a : Action}
    (loops : g.loops = f.loops.map (·.hearing a)) (now : g.now = f.now) : Paced g := by
  intro k hk
  rw [loops] at hk
  obtain ⟨l, hl, rfl⟩ := List.mem_map.1 hk
  rw [now]
  exact (h l hl).hearing a

theorem Paced.apply {f : Fleet} (h : Sound f ∧ Paced f) {a : Action} (timely : a.Timely f) :
    Sound (a.apply f) ∧ Paced (a.apply f) := by
  refine a.keeps (P := fun _ f => Sound f ∧ Paced f) [] (fun g count h => ?_)
    (fun g c h => ?_) (fun id h => ?_) (fun h => ?_) (fun time pass h => ?_)
    (fun ticket l own found h => ?_) h
  · exact ⟨h.1.note _, h.2⟩
  · exact ⟨h.1.add c, h.2.add c⟩
  · exact ⟨h.1.stop id, h.2.hearing (h.1.loops_stop id) (now_stop id f)⟩
  · exact ⟨h.1.stopAll, h.2.hearing h.1.loops_stopAll rfl⟩
  · subst pass
    exact ⟨h.1.advanceTo time, h.2.advanceTo timely⟩
  · subst own
    have hl := (mem_of_loop? found).1
    exact ⟨h.1.move hl, h.2.move h.1 hl (timely l found)⟩

theorem paced_perform {as : List Action} (timely : Timely as {}) : Paced (perform as {}) :=
  (Timely.keeps (P := fun _ f => Sound f ∧ Paced f) (fun _ _ _ timely h => Paced.apply h timely)
    [] {} ⟨.empty, nofun⟩ timely).2

end Uptime.Fleet
