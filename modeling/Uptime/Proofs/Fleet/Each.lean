import Uptime.Proofs.Fleet.Pace

/-!
# What holds of each loop

A loop of a fleet notices nothing but its own moves and the stop message. So what holds of a new
loop, and is kept by the message and by every move that is made in time, holds of every loop with
the moves that it made, whatever the others do (`each_perform`) and if there are none
(`Own.movesUntil`).
-/

namespace Uptime.Fleet

/-- A property of the loops of a fleet with the moves that they made so far. -/
structure Each (P : List (Move × Duration) → Loop → Prop) (ms : List Moment) (f : Fleet) :
    Prop where
  moved : ∀ m ∈ ms, m.ticket < f.offered
  each : ∀ l ∈ f.loops, P (movesOf l.ticket ms) l

/-- A property of a loop and its moves that only the loop itself and the stop message can touch. -/
structure Own (P : List (Move × Duration) → Loop → Prop) : Prop where
  spawn : ∀ ticket c, P [] (.spawn ticket c)
  hearing : ∀ {ms l} a, P ms l → P ms (l.hearing a)
  /-- A move that is neither early nor late. -/
  step : ∀ {ms l now}, l.Paced now → dueAt now l = now → P ms l →
    P (ms ++ [((l.step now).1, now)]) (l.step now).2

namespace Each

variable {P : List (Move × Duration) → Loop → Prop} {ms : List Moment} {f : Fleet} {l : Loop}

theorem add (own : Own P) (h : Each P ms f) (c : Cycle) : Each P ms (f.add c).2 := by
  refine ⟨fun m hm => ?_, fun l hl => ?_⟩
  · rw [offered_add]
    exact Nat.lt_succ_of_lt (h.moved m hm)
  · rcases mem_add hl with old | rfl
    · exact h.each l old
    · have none : movesOf f.offered ms = [] :=
        List.filterMap_eq_nil_iff.2 fun m hm => if_neg (Nat.ne_of_lt (h.moved m hm))
      show P (movesOf f.offered ms) _
      rw [none]
      exact own.spawn f.offered c

theorem hearing (own : Own P) (h : Each P ms f) {g : Fleet} {a : Action}
    (loops : g.loops = f.loops.map (·.hearing a)) (offered : g.offered = f.offered) :
    Each P ms g := by
  refine ⟨by rw [offered]; exact h.moved, fun l hl => ?_⟩
  rw [loops] at hl
  obtain ⟨k, hk, rfl⟩ := List.mem_map.1 hl
  rw [Loop.ticket_hearing]
  exact own.hearing a (h.each k hk)

theorem move (own : Own P) (h : Each P ms f) (sound : Sound f) (paced : Paced f) (hl : l ∈ f.loops)
    (due : dueAt f.now l ≤ f.now) :
    Each P (ms ++ [⟨f.now, l.cycle.id, l.ticket, (l.step f.now).1⟩]) (f.move l) := by
  refine ⟨?_, fun k hk => ?_⟩
  · rw [offered_move]
    exact List.forall_mem_append.2 ⟨h.moved, List.forall_mem_singleton.2 (sound.offered l hl)⟩
  rw [movesOf_append]
  rcases (sound.mem_move hl).1 hk with ⟨old, other⟩ | new
  · -- The move of another loop is none of the moves of this one.
    have apart : l.ticket ≠ k.ticket := fun same => other (sound.eq_of_ticket old hl same.symm)
    have quiet : movesOf k.ticket [⟨f.now, l.cycle.id, l.ticket, (l.step f.now).1⟩] = [] := by
      simp [movesOf, apart]
    rw [quiet, List.append_nil]
    exact h.each k old
  · obtain rfl := Loop.moved_eq_some new
    have made : movesOf (l.step f.now).2.ticket
        [⟨f.now, l.cycle.id, l.ticket, (l.step f.now).1⟩] = [((l.step f.now).1, f.now)] := by
      simp [movesOf]
    have now : dueAt f.now l = f.now :=
      Duration.ext_iff.2 (Nat.le_antisymm due (paced l hl).due)
    rw [made, Loop.ticket_step]
    exact own.step (paced l hl) now (h.each l hl)

theorem apply (own : Own P) (h : Sound f ∧ Paced f ∧ Each P ms f) {a : Action}
    (timely : a.Timely f) :
    Sound (a.apply f) ∧ Paced (a.apply f) ∧ Each P (ms ++ a.moments f) (a.apply f) := by
  refine ⟨h.1.apply a, (Paced.apply ⟨h.1, h.2.1⟩ timely).2, ?_⟩
  obtain ⟨sound, paced, each⟩ := h
  refine a.keeps ms (fun g count h => ?_) (fun g c h => h.add own c) (fun id h => ?_) (fun h => ?_)
    (fun time _ h => ?_) (fun ticket l is found h => ?_) each
  · exact ⟨h.moved, h.each⟩
  · exact h.hearing own (sound.loops_stop id) (offered_stop id f)
  · exact h.hearing own sound.loops_stopAll rfl
  · exact ⟨h.moved, h.each⟩
  · subst is
    exact h.move own sound paced (mem_of_loop? found).1 (timely l found)

end Each

/-- After every timely history it holds of each loop with the moves that it made. -/
theorem each_perform {P : List (Move × Duration) → Loop → Prop} (own : Own P) {as : List Action}
    (timely : Timely as {}) : Each P (trace as {}) (perform as {}) :=
  (Timely.keeps (P := fun ms f => Sound f ∧ Paced f ∧ Each P ms f)
    (fun _ _ _ timely h => Each.apply own h timely) [] {} ⟨.empty, nofun, nofun, nofun⟩ timely).2.2

/-- It holds of a lone loop until any time. -/
theorem Own.movesUntil {P : List (Move × Duration) → Loop → Prop} (own : Own P) {limit : Duration}
    (fuel : Nat) {ms : List (Move × Duration)} {l : Loop} {now : Duration} (h : P ms l)
    (paced : l.Paced now) :
    P (ms ++ (l.movesUntil limit fuel now).1) (l.movesUntil limit fuel now).2 := by
  induction fuel generalizing ms now l with
  | zero => rwa [Loop.movesUntil, List.append_nil]
  | succ fuel ih =>
    by_cases ended : l.phase = .exited
    · rwa [Loop.movesUntil_exited ended, List.append_nil]
    by_cases due : dueAt now l ≤ limit
    · have there : l.Paced (dueAt now l) := paced.later (Nat.le_refl _)
      have next := dueAt_dueAt now l
      have rest := ih (own.step there next h) (there.step (Nat.le_of_eq (congrArg _ next)))
      rw [List.append_assoc] at rest
      rwa [Loop.movesUntil_due ended due]
    · have free : limit < dueAt now l := Nat.lt_of_not_le due
      rwa [Loop.movesUntil_free free, List.append_nil]

end Uptime.Fleet
