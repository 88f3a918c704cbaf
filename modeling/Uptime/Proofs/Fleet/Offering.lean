import Mathlib.Data.Finset.Card
import Uptime.Proofs.Fleet.Pace

/-!
# Cycles that are offered

A cycle is taken if its id has no slot. While no loop is cleared away, cycles that are offered one
after the other, by launches or one by one, come to the same whatever else happens meanwhile: every
free id gets the first of its cycles, and the others are refused (`Offered`). No cycle that was
refused is ever checked (`movesOf_of_refused`).
-/

namespace Uptime.Fleet

/-- The cycles that an action offers, in order. -/
def Action.offers : Action → List Cycle
  | .add c => [c]
  | .launch cs => cs
  | _ => []

/-- How many cycles an action takes, as it is answered. -/
def Action.taken (f : Fleet) : Action → Nat
  | .add c => if (f.add c).1 then 1 else 0
  | .launch cs => (f.launch cs).1
  | _ => 0

/-- How many cycles are taken in a history. -/
def takenIn : List Action → Fleet → Nat
  | [], _ => 0
  | a :: as, f => a.taken f + takenIn as (a.apply f)

/-- The cycle that the loop of an id serves, with its number. -/
def served? (id : Int64) (f : Fleet) : Option (Cycle × Nat) :=
  (f.holder? id).map fun l => (l.cycle, l.ticket)

variable {f g h : Fleet} {c : Cycle} {cs ds : List Cycle} {l : Loop} {id : Int64}

/-! ## One cycle -/

theorem add_eq_true_iff (c : Cycle) (f : Fleet) :
    (f.add c).1 = true ↔ f.slot? c.id = none := by
  unfold add
  cases f.slot? c.id <;> simp

/-- Only the slot of its own id can be new. -/
theorem slot?_add (c : Cycle) (f : Fleet) (id : Int64) :
    (f.add c).2.slot? id =
      (f.slot? id).or (if c.id = id then some { id := c.id, ticket := f.offered } else none) := by
  unfold add
  cases taken : f.slot? c.id with
  | some slot =>
    show f.slot? id = _
    split
    · next same =>
      rw [← same, taken]
      rfl
    · rw [Option.or_none]
  | none => simp [slot?]

/-- A cycle that is refused leaves no more behind than a line in the log, and its number. -/
theorem add_refused {slot : Slot} (taken : f.slot? c.id = some slot) :
    f.add c = (false, ({ f with offered := f.offered + 1 } : Fleet).note
      (.refused f.offered c.name slot.stopping)) := by
  unfold add
  rw [taken]

theorem Sound.served?_eq_none_iff (sound : Sound f) (id : Int64) :
    f.served? id = none ↔ f.slot? id = none := by
  rw [sound.slot?_eq, served?, Option.map_eq_none_iff, Option.map_eq_none_iff]

theorem Sound.served?_add (sound : Sound f) (c : Cycle) (id : Int64) :
    (f.add c).2.served? id =
      (f.served? id).or (if c.id = id then some (c, f.offered) else none) := by
  rw [served?, sound.holder?_add, served?]
  cases f.holder? id with
  | some l => rfl
  | none =>
    rw [Option.none_or]
    split <;> rfl

theorem served?_hearing {a : Action} (heard : g.holder? id = (f.holder? id).map (·.hearing a)) :
    g.served? id = f.served? id := by
  rw [served?, served?, heard, Option.map_map]
  refine congrArg (Option.map · (f.holder? id)) (funext fun l => ?_)
  rw [Function.comp, l.cycle_hearing, l.ticket_hearing]

/-- A loop that makes a move serves what it served before. -/
theorem Sound.served?_move (sound : Sound f) (hl : l ∈ f.loops) (alive : l.phase ≠ .exited)
    (id : Int64) : (f.move l).served? id = f.served? id := by
  rw [served?, sound.holder?_move hl, served?]
  split
  · next own =>
    rw [← beq_iff_eq.1 own, sound.holder?_eq hl, Loop.moved, if_neg alive, Option.map_some,
      Option.map_some, Loop.cycle_step, Loop.ticket_step]
  · rfl

theorem mem_history_apply {e : Event} (he : e ∈ f.history) (a : Action) :
    e ∈ (a.apply f).history := by
  refine a.keeps (P := fun _ g => e ∈ g.history) [] (fun _ _ h => List.mem_cons_of_mem _ h)
    (fun g c h => ?_) (fun id h => ?_) (fun h => List.mem_cons_of_mem _ h) (fun _ _ h => h)
    (fun _ l _ _ h => ?_) he
  · unfold add
    cases g.slot? c.id <;> exact List.mem_cons_of_mem _ h
  · unfold stop
    split
    · exact List.mem_cons_of_mem _ h
    · exact h
  · by_cases gone : l.phase = .exited
    · rw [move_exited gone]
      exact h
    · rw [move_eq gone]
      exact List.mem_append_right _ h

theorem mem_history_perform {e : Event} (he : e ∈ f.history) (as : List Action) :
    e ∈ (perform as f).history := by
  induction as generalizing f with
  | nil => exact he
  | cons a as ih => exact ih (mem_history_apply he a)

/-! ## Many cycles -/

/-- What came of it that cycles were offered one after the other while no loop was cleared away. -/
structure Offered (f : Fleet) (cs : List Cycle) (count : Nat) (g : Fleet) : Prop where
  /-- Every cycle gets a number. -/
  offered : g.offered = f.offered + cs.length
  /-- Free are the ids that were free before and of which no cycle was offered. -/
  free : ∀ id, g.slot? id = none ↔ f.slot? id = none ∧ id ∉ cs.map (·.id)
  /-- Under an id the same cycle is served as before, or else the first one that was offered. -/
  served : ∀ id, g.served? id =
    (f.served? id).or ((cs.zipIdx f.offered).find? (·.1.id == id))
  /-- Every cycle that is not served was refused. -/
  refused : ∀ p ∈ cs.zipIdx f.offered, g.served? p.1.id = some p ∨
    ∃ stopping, .refused p.2 p.1.name stopping ∈ g.history
  /-- As many are taken as there are different ids among them that had no slot. -/
  count : count = ((cs.map (·.id)).toFinset.filter fun id => f.slot? id = none).card
  history : ∀ e ∈ f.history, e ∈ g.history

namespace Offered

theorem quiet (offered : g.offered = f.offered)
    (free : ∀ id, g.slot? id = none ↔ f.slot? id = none)
    (served : ∀ id, g.served? id = f.served? id) (history : ∀ e ∈ f.history, e ∈ g.history) :
    Offered f [] 0 g := by
  refine ⟨offered, ?_, ?_, nofun, rfl, history⟩
  · simpa using free
  · simpa using served

/-- Offers that follow each other are one offer. -/
theorem trans {m n : Nat} (first : Offered f cs m g) (second : Offered g ds n h) :
    Offered f (cs ++ ds) (m + n) h where
  offered := by rw [second.offered, first.offered, List.length_append, Nat.add_assoc]
  free id := by
    rw [second.free, first.free, List.map_append, List.mem_append, not_or, and_assoc]
  served id := by
    rw [second.served, first.served, first.offered, List.zipIdx_append, List.find?_append,
      Option.or_assoc]
  refused p hp := by
    rw [List.zipIdx_append, List.mem_append, ← first.offered] at hp
    rcases hp with hp | hp
    · rcases first.refused p hp with served | ⟨stopping, refused⟩
      · refine .inl ?_
        rw [second.served, served]
        rfl
      · exact .inr ⟨stopping, second.history _ refused⟩
    · exact second.refused p hp
  count := by
    rw [first.count, second.count, ← Finset.card_union_of_disjoint]
    · congr 1
      ext id
      simp only [Finset.mem_union, Finset.mem_filter, List.mem_toFinset, List.map_append,
        List.mem_append, first.free]
      tauto
    · rw [Finset.disjoint_left]
      intro id earlier later
      rw [Finset.mem_filter, List.mem_toFinset] at earlier
      rw [Finset.mem_filter, first.free] at later
      exact later.2.2 earlier.1
  history e he := second.history e (first.history e he)

theorem add (sound : Sound f) (c : Cycle) :
    Offered f [c] (if (f.add c).1 then 1 else 0) (f.add c).2 where
  offered := offered_add c f
  free id := by
    rw [slot?_add, Option.or_eq_none_iff]
    by_cases own : c.id = id
    · simp [own]
    · simp [own, Ne.symm own]
  served id := by
    rw [sound.served?_add]
    by_cases own : c.id = id <;> simp [own]
  refused p hp := by
    obtain rfl := List.mem_singleton.1 hp
    cases free : f.slot? c.id with
    | none =>
      refine .inl ?_
      rw [sound.served?_add, (sound.served?_eq_none_iff c.id).2 free, if_pos rfl]
      rfl
    | some slot =>
      refine .inr ⟨slot.stopping, ?_⟩
      rw [add_refused free]
      exact List.mem_cons_self
  count := by
    simp only [add_eq_true_iff]
    by_cases free : f.slot? c.id = none <;> simp [free, Finset.filter_singleton]
  history e he := mem_history_apply he (.add c)

theorem addAll (sound : Sound f) (cs : List Cycle) :
    Offered f cs (addAll cs f).1 (addAll cs f).2 := by
  induction cs generalizing f with
  | nil => exact quiet rfl (fun _ => .rfl) (fun _ => rfl) fun _ he => he
  | cons c cs ih =>
    have rest := (add sound c).trans (ih (sound.add c))
    rw [Nat.add_comm] at rest
    exact rest

/-- A launch announces and then offers its cycles one by one. -/
theorem launch (sound : Sound f) (cs : List Cycle) :
    Offered f cs (f.launch cs).1 (f.launch cs).2 := by
  have announced : Offered f [] 0 (f.note (.launching cs.length)) :=
    quiet rfl (fun _ => .rfl) (fun _ => rfl) fun _ he => List.mem_cons_of_mem _ he
  have all := announced.trans (addAll (sound.note _) cs)
  rwa [List.nil_append, Nat.zero_add] at all

/-- What is not an offer changes nothing of this unless it clears a loop away. -/
theorem apply (sound : Sound f) (a : Action) (stays : ∀ m ∈ a.moments f, m.move ≠ .none) :
    Offered f a.offers (a.taken f) (a.apply f) := by
  have same : ∀ {g : Fleet}, Sound g → g.offered = f.offered →
      (∀ id, g.served? id = f.served? id) → (∀ e ∈ f.history, e ∈ g.history) →
      Offered f [] 0 g := by
    intro g sound' offered served history
    refine quiet offered (fun id => ?_) served history
    rw [← sound'.served?_eq_none_iff, served, sound.served?_eq_none_iff]
  have history : ∀ e ∈ f.history, e ∈ (a.apply f).history := fun e he => mem_history_apply he a
  have sound' := sound.apply a
  cases a with
  | add c => exact add sound c
  | launch cs => exact launch sound cs
  | announce count => exact same sound' rfl (fun _ => rfl) history
  | pass time => exact same sound' rfl (fun _ => rfl) history
  | stop i =>
    exact same sound' (offered_stop i f) (fun id => served?_hearing (sound.holder?_stop i id))
      history
  | stopAll =>
    exact same sound' rfl (fun id => served?_hearing (sound.holder?_stopAll id)) history
  | move ticket =>
    cases found : f.loop? ticket with
    | none =>
      have nothing : (Action.move ticket).apply f = f := by simp [Action.apply, found]
      rw [nothing]
      exact same sound rfl (fun _ => rfl) fun _ he => he
    | some l =>
      have hl := (mem_of_loop? found).1
      have moves : (Action.move ticket).apply f = f.move l := by simp [Action.apply, found]
      have alive : l.phase ≠ .exited := by
        intro gone
        have cleared := stays ⟨f.now, l.cycle.id, l.ticket, (l.step f.now).1⟩
          (by simp [Action.moments, found])
        exact cleared (Loop.step_eq_none_iff.2 gone)
      rw [moves] at sound' history ⊢
      exact same sound' (offered_move l f) (sound.served?_move hl alive) history

theorem perform (sound : Sound f) (as : List Action)
    (stays : ∀ m ∈ trace as f, m.move ≠ .none) :
    Offered f (as.flatMap Action.offers) (takenIn as f) (perform as f) := by
  induction as generalizing f with
  | nil => exact quiet rfl (fun _ => .rfl) (fun _ => rfl) fun _ he => he
  | cons a as ih =>
    obtain ⟨now, later⟩ := List.forall_mem_append.1 stays
    exact (apply sound a now).trans (ih (sound.apply a) later)

end Offered

/-! ## Cycles that were refused -/

/-- Under this number there is no loop and there was no move. -/
structure Idle (ticket : Nat) (ms : List Moment) (f : Fleet) : Prop where
  old : ticket < f.offered
  loops : ∀ l ∈ f.loops, l.ticket ≠ ticket
  moves : ∀ m ∈ ms, m.ticket ≠ ticket

/-- Nothing happens under the numbers of refused cycles. -/
structure TurnedAway (ms : List Moment) (f : Fleet) : Prop where
  moved : ∀ m ∈ ms, m.ticket < f.offered
  idle : ∀ ticket name stopping, .refused ticket name stopping ∈ f.history → Idle ticket ms f

namespace TurnedAway

variable {ms : List Moment}

theorem note (turned : TurnedAway ms f) (count : Nat) :
    TurnedAway ms (f.note (.launching count)) := by
  refine ⟨turned.moved, fun ticket name stopping refused => ?_⟩
  have idle := turned.idle ticket name stopping (by simpa using refused)
  exact ⟨idle.old, idle.loops, idle.moves⟩

theorem add (turned : TurnedAway ms f) (sound : Sound f) (c : Cycle) :
    TurnedAway ms (f.add c).2 := by
  have moved : ∀ m ∈ ms, m.ticket < (f.add c).2.offered := fun m hm => by
    rw [offered_add]
    exact Nat.lt_succ_of_lt (turned.moved m hm)
  have still : ∀ ticket, Idle ticket ms f → Idle ticket ms (f.add c).2 := by
    intro ticket idle
    refine ⟨by rw [offered_add]; exact Nat.lt_succ_of_lt idle.old, fun l hl => ?_, idle.moves⟩
    rcases mem_add hl with old | rfl
    · exact idle.loops l old
    · exact Nat.ne_of_gt idle.old
  refine ⟨moved, fun ticket name stopping refused => ?_⟩
  cases free : f.slot? c.id with
  | none =>
    have before : .refused ticket name stopping ∈ f.history := by
      simpa [Fleet.add, free] using refused
    exact still ticket (turned.idle ticket name stopping before)
  | some slot =>
    rw [add_refused free, history_note, List.mem_cons] at refused
    rcases refused with new | before
    · -- The number of the cycle that is refused now was not used yet.
      cases new
      rw [add_refused free]
      exact ⟨Nat.lt_succ_self _, fun l hl => Nat.ne_of_lt (sound.offered l hl),
        fun m hm => Nat.ne_of_lt (turned.moved m hm)⟩
    · exact still ticket (turned.idle ticket name stopping before)

/-- What is neither an offer nor a move refuses nothing and starts no loop. -/
theorem hearing (turned : TurnedAway ms f) {a : Action}
    (loops : g.loops = f.loops.map (·.hearing a)) (offered : g.offered = f.offered)
    (same : ∀ ticket name stopping,
      .refused ticket name stopping ∈ g.history → .refused ticket name stopping ∈ f.history) :
    TurnedAway ms g := by
  refine ⟨by rw [offered]; exact turned.moved, fun ticket name stopping refused => ?_⟩
  have idle := turned.idle ticket name stopping (same _ _ _ refused)
  refine ⟨by rw [offered]; exact idle.old, fun l hl => ?_, idle.moves⟩
  rw [loops] at hl
  obtain ⟨k, hk, rfl⟩ := List.mem_map.1 hl
  rw [Loop.ticket_hearing]
  exact idle.loops k hk

theorem move (turned : TurnedAway ms f) (sound : Sound f) (hl : l ∈ f.loops) :
    TurnedAway (ms ++ [⟨f.now, l.cycle.id, l.ticket, (l.step f.now).1⟩]) (f.move l) := by
  refine ⟨?_, fun ticket name stopping refused => ?_⟩
  · rw [offered_move]
    exact List.forall_mem_append.2
      ⟨turned.moved, List.forall_mem_singleton.2 (sound.offered l hl)⟩
  · have before : .refused ticket name stopping ∈ f.history := by
      by_cases gone : l.phase = .exited
      · rwa [move_exited gone] at refused
      · rw [move_eq gone, List.mem_append] at refused
        refine refused.resolve_left fun event => ?_
        cases move : (l.step f.now).1 <;> simp [eventOf, move] at event
    have idle := turned.idle ticket name stopping before
    refine ⟨by rw [offered_move]; exact idle.old, fun k hk => ?_,
      List.forall_mem_append.2 ⟨idle.moves, List.forall_mem_singleton.2 (idle.loops l hl)⟩⟩
    rcases (sound.mem_move hl).1 hk with ⟨old, -⟩ | new
    · exact idle.loops k old
    · rw [Loop.moved_eq_some new, Loop.ticket_step]
      exact idle.loops l hl

theorem apply (turned : Sound f ∧ TurnedAway ms f) (a : Action) :
    Sound (a.apply f) ∧ TurnedAway (ms ++ a.moments f) (a.apply f) := by
  refine a.keeps (P := fun ms f => Sound f ∧ TurnedAway ms f) ms (fun g count h => ?_)
    (fun g c h => ?_) (fun id h => ?_) (fun h => ?_) (fun time _ h => ?_)
    (fun ticket l _ found h => ?_) turned
  · exact ⟨h.1.note _, h.2.note count⟩
  · exact ⟨h.1.add c, h.2.add h.1 c⟩
  · refine ⟨h.1.stop id, h.2.hearing (h.1.loops_stop id) (offered_stop id f) ?_⟩
    intro ticket name stopping refused
    unfold Fleet.stop at refused
    split at refused
    · exact (List.mem_cons.1 refused).resolve_left nofun
    · exact refused
  · refine ⟨h.1.stopAll, h.2.hearing h.1.loops_stopAll rfl ?_⟩
    intro ticket name stopping refused
    exact (List.mem_cons.1 refused).resolve_left nofun
  · exact ⟨h.1.advanceTo time, h.2.moved, fun ticket name stopping refused =>
      let idle := h.2.idle ticket name stopping refused
      ⟨idle.old, idle.loops, idle.moves⟩⟩
  · have hl := (mem_of_loop? found).1
    exact ⟨h.1.move hl, h.2.move h.1 hl⟩

end TurnedAway

/-- A cycle that was refused is never checked. -/
theorem movesOf_of_refused (as : List Action) {ticket : Nat} {name : String} {stopping : Bool}
    (refused : .refused ticket name stopping ∈ (perform as {}).history) :
    movesOf ticket (trace as {}) = [] := by
  have turned : TurnedAway (trace as {}) (perform as {}) :=
    (perform_keeps (P := fun ms f => Sound f ∧ TurnedAway ms f)
      (fun _ _ a h => TurnedAway.apply h a) [] {} ⟨.empty, nofun, nofun⟩ as).2
  refine List.filterMap_eq_nil_iff.2 fun m hm => if_neg ?_
  exact (turned.idle ticket name stopping refused).moves m hm

end Uptime.Fleet
