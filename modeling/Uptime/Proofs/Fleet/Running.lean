import Mathlib.Data.List.Sort
import Uptime.Proofs.Fleet.Slots

/-!
# One loop for every id

What the loops and slots of a fleet say agrees with what happened. A loop is there from the event
that added it until its own clearing (`Recorded.alive`), and it was sent the stop message if and
only if an event since then told it to stop (`Recorded.told`). With `Sound` this makes every fleet
`Orderly`.
-/

namespace Uptime.Fleet

namespace Event

/-- Whether an event is the start of the loop with a number. -/
def adds (ticket : Nat) : Event → Bool
  | .added k _ => k == ticket
  | _ => false

/-- Whether an event tells the loop of an id to stop. -/
def tells (id : Int64) : Event → Bool
  | .stopping i => i == id
  | .stoppingAll _ => true
  | _ => false

end Event

/-- Whether the history, the latest event first, told the loop of a number and an id to stop since
it was started. -/
def toldSince (ticket : Nat) (id : Int64) (history : List Event) : Bool :=
  (history.takeWhile fun e => !e.adds ticket).any (·.tells id)

theorem toldSince_cons (ticket : Nat) (id : Int64) (e : Event) (es : List Event) :
    toldSince ticket id (e :: es) = (!e.adds ticket && (e.tells id || toldSince ticket id es)) := by
  cases h : e.adds ticket <;> simp [toldSince, h]

/-- An event that neither starts a loop nor tells one to stop. -/
def Event.IsQuiet (e : Event) : Prop := ∀ ticket id, e.adds ticket = false ∧ e.tells id = false

theorem isQuiet_eventOf {l : Loop} {now : Duration} {m : Move} {e : Event}
    (h : eventOf l now m = some e) : e.IsQuiet := by
  intro ticket id
  cases m <;> simp only [eventOf, Option.some.injEq, reduceCtorEq] at h <;> subst h <;>
    exact ⟨rfl, rfl⟩

/-- What the moves and the history say about the loops of a fleet. -/
structure Recorded (ms : List Moment) (f : Fleet) : Prop where
  told : ∀ l ∈ f.loops, l.channel.sent = toldSince l.ticket l.cycle.id f.history
  alive : ∀ ticket, (∃ l ∈ f.loops, l.ticket = ticket) ↔
    (∃ e ∈ f.history, e.adds ticket = true) ∧ ∀ m ∈ ms, m.ticket = ticket → m.move ≠ .none
  added : ∀ ticket, (∃ e ∈ f.history, e.adds ticket = true) → ticket < f.offered
  moved : ∀ m ∈ ms, m.ticket < f.offered

namespace Recorded

variable {ms : List Moment} {f : Fleet} {l : Loop}

theorem empty : Recorded [] {} := by
  constructor <;> simp

theorem quiet (h : Recorded ms f) {e : Event} (quiet : e.IsQuiet) : Recorded ms (f.note e) := by
  have same : ∀ ticket, (∃ e' ∈ (f.note e).history, e'.adds ticket = true) ↔
      ∃ e' ∈ f.history, e'.adds ticket = true := by
    intro ticket
    simp [(quiet ticket 0).1]
  constructor
  · intro l hl
    rw [history_note, toldSince_cons, (quiet l.ticket l.cycle.id).1, (quiet l.ticket l.cycle.id).2]
    simpa using h.told l hl
  · intro ticket
    rw [same]
    exact h.alive ticket
  · intro ticket found
    exact h.added ticket ((same ticket).1 found)
  · exact h.moved

theorem add (h : Recorded ms f) (c : Cycle) : Recorded ms (f.add c).2 := by
  unfold Fleet.add
  cases f.slot? c.id with
  | some slot =>
    have later := h.quiet (e := .refused f.offered c.name slot.stopping) fun _ _ => ⟨rfl, rfl⟩
    exact ⟨later.told, later.alive, fun k found => Nat.lt_succ_of_lt (later.added k found),
      fun m hm => Nat.lt_succ_of_lt (h.moved m hm)⟩
  | none =>
    have found : ∀ ticket, (∃ e ∈ Event.added f.offered c.name :: f.history, e.adds ticket = true) ↔
        f.offered = ticket ∨ ∃ e ∈ f.history, e.adds ticket = true := by
      simp [Event.adds]
    constructor
    · intro l hl
      simp only [history_note, toldSince_cons]
      rcases List.mem_append.1 hl with hl | hl
      · have old : (Event.added f.offered c.name).adds l.ticket = false := by
          have := h.added l.ticket ((h.alive l.ticket).1 ⟨l, hl, rfl⟩).1
          simp only [Event.adds, beq_eq_false_iff_ne]
          omega
        rw [old]
        simpa [Event.tells] using h.told l hl
      · rw [List.mem_singleton.1 hl]
        simp [Loop.spawn, Event.adds]
    · intro ticket
      rw [history_note, found]
      by_cases new : f.offered = ticket
      · -- No loop had this number yet, so none of the moves is one of its own.
        have fresh : ∀ m ∈ ms, m.ticket ≠ ticket := fun m hm => by
          have := h.moved m hm
          omega
        simp only [new, true_or, true_and]
        exact ⟨fun _ m hm same => absurd same (fresh m hm),
          fun _ => ⟨_, List.mem_append_right _ (List.mem_singleton_self _), rfl⟩⟩
      · simp only [new, false_or]
        rw [← h.alive ticket]
        simp [Loop.spawn, new]
    · intro ticket
      rw [history_note, found]
      rintro (rfl | old)
      · exact Nat.lt_succ_self _
      · exact Nat.lt_succ_of_lt (h.added ticket old)
    · exact fun m hm => Nat.lt_succ_of_lt (h.moved m hm)

/-- An event that tells the signalled loops to stop, and no others that were not told before. -/
theorem signal (h : Recorded ms f) (sound : Sound f) {chosen : Slot → Bool} {e : Event}
    (starts : ∀ ticket, e.adds ticket = false)
    (tells : ∀ l : Loop,
      (chosen l.slot || l.channel.sent) = (e.tells l.cycle.id || l.channel.sent)) :
    Recorded ms ((f.signal chosen).note e) := by
  have same : ∀ ticket, (∃ e' ∈ e :: f.history, e'.adds ticket = true) ↔
      ∃ e' ∈ f.history, e'.adds ticket = true := by
    simp [starts]
  have tickets : ∀ ticket, (∃ l ∈ (f.signal chosen).loops, l.ticket = ticket) ↔
      ∃ l ∈ f.loops, l.ticket = ticket := by
    intro ticket
    rw [← List.mem_map, sound.map_signal _ fun _ => rfl, List.mem_map]
  constructor
  · rw [loops_note, sound.loops_signal, List.forall_mem_map]
    intro l hl
    have sent : (if chosen l.slot then l.signal else l).channel.sent =
        (chosen l.slot || l.channel.sent) := by
      cases chosen l.slot <;> rfl
    have ticket : (if chosen l.slot then l.signal else l).ticket = l.ticket := by split <;> rfl
    have cycle : (if chosen l.slot then l.signal else l).cycle = l.cycle := by split <;> rfl
    rw [sent, ticket, cycle, history_note, toldSince_cons, starts, tells]
    simp only [Bool.not_false, Bool.true_and]
    rw [h.told l hl]
    rfl
  · intro ticket
    rw [loops_note, tickets, history_note]
    exact (h.alive ticket).trans (and_congr_left' (same ticket).symm)
  · intro ticket found
    exact h.added ticket ((same ticket).1 found)
  · exact h.moved

theorem stop (h : Recorded ms f) (sound : Sound f) (id : Int64) : Recorded ms (f.stop id).2 := by
  unfold Fleet.stop
  split
  · refine h.signal sound (fun _ => rfl) fun l => ?_
    simp only [Loop.slot, Event.tells, Bool.beq_comm]
  · exact h

theorem stopAll (h : Recorded ms f) (sound : Sound f) : Recorded ms f.stopAll := by
  refine h.signal sound (fun _ => rfl) fun l => ?_
  simp [Loop.slot, Event.tells]

theorem advanceTo (h : Recorded ms f) (time : Duration) : Recorded ms (f.advanceTo time) :=
  ⟨h.1, h.2, h.3, h.4⟩

theorem clear (h : Recorded ms f) (sound : Sound f) (hl : l ∈ f.loops) :
    Recorded (ms ++ [⟨f.now, l.cycle.id, l.ticket, .none⟩]) (f.clear l) := by
  constructor
  · intro k hk
    exact h.told k (List.mem_filter.1 hk).1
  · intro ticket
    have rest : (∃ k ∈ (f.clear l).loops, k.ticket = ticket) ↔
        (∃ k ∈ f.loops, k.ticket = ticket) ∧ l.ticket ≠ ticket := by
      simp only [Fleet.clear, List.mem_filter, Bool.not_eq_true', beq_eq_false_iff_ne]
      constructor
      · rintro ⟨k, ⟨hk, other⟩, rfl⟩
        exact ⟨⟨k, hk, rfl⟩, Ne.symm other⟩
      · rintro ⟨⟨k, hk, rfl⟩, other⟩
        exact ⟨k, ⟨hk, Ne.symm other⟩, rfl⟩
    rw [rest, h.alive ticket]
    simp only [List.mem_append, List.mem_singleton]
    constructor
    · rintro ⟨⟨added, moved⟩, other⟩
      refine ⟨added, fun m hm same => ?_⟩
      rcases hm with hm | rfl
      · exact moved m hm same
      · exact absurd same other
    · rintro ⟨added, moved⟩
      exact ⟨⟨added, fun m hm => moved m (.inl hm)⟩, fun same => moved _ (.inr rfl) same rfl⟩
  · exact h.added
  · exact List.forall_mem_append.2 ⟨h.moved, List.forall_mem_singleton.2 (sound.offered l hl)⟩

theorem move (h : Recorded ms f) (sound : Sound f) (hl : l ∈ f.loops) :
    Recorded (ms ++ [⟨f.now, l.cycle.id, l.ticket, (l.step f.now).1⟩]) (f.move l) := by
  by_cases gone : l.phase = .exited
  · rw [move_exited gone, Loop.step_exited gone]
    exact h.clear sound hl
  have goes : (l.step f.now).1 ≠ .none := fun none => gone (Loop.step_eq_none_iff.1 none)
  have moved : Recorded (ms ++ [⟨f.now, l.cycle.id, l.ticket, (l.step f.now).1⟩])
      { f with
        loops := f.loops.map fun k => if k.ticket == l.ticket then (l.step f.now).2 else k } := by
    constructor
    · rw [List.forall_mem_map]
      intro k hk
      split
      · rw [Loop.channel_step, Loop.ticket_step, Loop.cycle_step]
        exact h.told l hl
      · exact h.told k hk
    · intro ticket
      rw [← List.mem_map, sound.map_replace hl _ (by simp), List.mem_map, h.alive ticket]
      refine and_congr_right' ⟨fun before m hm same => ?_, fun after m hm => ?_⟩
      · rcases List.mem_append.1 hm with hm | hm
        · exact before m hm same
        · rwa [List.mem_singleton.1 hm]
      · exact after m (List.mem_append_left _ hm)
    · exact h.added
    · exact List.forall_mem_append.2 ⟨h.moved, List.forall_mem_singleton.2 (sound.offered l hl)⟩
  rw [move_eq gone]
  cases event : eventOf l f.now (l.step f.now).1 with
  | none => exact moved
  | some e => exact moved.quiet (isQuiet_eventOf event)

/-- Every action keeps moves and history in agreement with the loops. -/
theorem apply (h : Sound f ∧ Recorded ms f) (a : Action) :
    Sound (a.apply f) ∧ Recorded (ms ++ a.moments f) (a.apply f) := by
  refine a.keeps (P := fun ms f => Sound f ∧ Recorded ms f) ms (fun g count h => ?_)
    (fun g c h => ?_) (fun id h => ?_) (fun h => ?_) (fun time _ h => ?_)
    (fun ticket l _ found h => ?_) h
  · exact ⟨h.1.note _, h.2.quiet fun _ _ => ⟨rfl, rfl⟩⟩
  · exact ⟨h.1.add c, h.2.add c⟩
  · exact ⟨h.1.stop id, h.2.stop h.1 id⟩
  · exact ⟨h.1.stopAll, h.2.stopAll h.1⟩
  · exact ⟨h.1.advanceTo time, h.2.advanceTo time⟩
  · have hl := (mem_of_loop? found).1
    exact ⟨h.1.move hl, h.2.move h.1 hl⟩

end Recorded

theorem recorded_perform (as : List Action) : Recorded (trace as {}) (perform as {}) :=
  (perform_keeps (P := fun ms f => Sound f ∧ Recorded ms f) (fun _ _ a h => Recorded.apply h a)
    [] {} ⟨.empty, .empty⟩ as).2

/-! ## The answers of a fleet -/

namespace Sound

variable {f : Fleet} {l : Loop}

theorem mem_running (h : Sound f) {id : Int64} :
    id ∈ f.running ↔ ∃ l ∈ f.loops, l.cycle.id = id := by
  simp [running, h.slots, Loop.slot]

theorem running_ascending (h : Sound f) : f.running.Pairwise (· < ·) := by
  have trans : ∀ a b c : Int64, decide (a ≤ b) = true → decide (b ≤ c) = true →
      decide (a ≤ c) = true := fun a b c => by simpa using Int64.le_trans
  have total : ∀ a b : Int64, (decide (a ≤ b) || decide (b ≤ a)) = true :=
    fun a b => by simpa using Int64.le_total a b
  have sorted : f.running.Pairwise (· ≤ ·) := by
    simpa [running] using List.pairwise_mergeSort trans total (f.slots.map (·.id))
  have nodup : f.running.Nodup := by
    rw [running, (List.mergeSort_perm _ _).nodup_iff, h.slots, List.map_map]
    exact h.ids
  exact sorted.imp₂ (fun _ _ le ne => Int64.lt_of_le_of_ne le ne) nodup

theorem isRunning_iff (h : Sound f) {id : Int64} : f.isRunning id = true ↔ id ∈ f.running := by
  rw [h.mem_running, isRunning, h.slot?_eq, Option.isSome_map, holder?, List.find?_isSome]
  simp

theorem loops_of_id (h : Sound f) (id : Int64) :
    (f.loops.filter (·.cycle.id == id)).length ≤ 1 := by
  have nodup := (List.Nodup.of_map _ h.ids).filter (·.cycle.id == id)
  have mem : ∀ l ∈ f.loops.filter (·.cycle.id == id), l ∈ f.loops ∧ l.cycle.id = id := by simp
  match shape : f.loops.filter (·.cycle.id == id) with
  | [] => simp [shape]
  | [l] => simp [shape]
  | l :: k :: ls =>
    rw [shape] at nodup mem
    obtain ⟨hl, idl⟩ := mem l (by simp)
    obtain ⟨hk, idk⟩ := mem k (by simp)
    have same := h.eq_of_id hl hk (idl.trans idk.symm)
    simp [same] at nodup

end Sound

/-- How loops, slots and the answers of a fleet hang together, given the moves that were made. -/
structure Orderly (ms : List Moment) (f : Fleet) : Prop where
  /-- A loop is there from its start until it removed its slot. -/
  alive : ∀ ticket, (∃ l ∈ f.loops, l.ticket = ticket) ↔
    (∃ e ∈ f.history, e.adds ticket = true) ∧ ∀ m ∈ ms, m.ticket = ticket → m.move ≠ .none
  /-- No id has two loops. -/
  one : ∀ id, (f.loops.filter (·.cycle.id == id)).length ≤ 1
  /-- The slots of an id are those of its loops, marked if the stop message was sent. -/
  slots : ∀ id, f.slots.filter (·.id == id) =
    (f.loops.filter (·.cycle.id == id)).map fun l => ⟨id, l.ticket, l.channel.sent⟩
  /-- The stop message was sent if something told the loop to stop since its start. -/
  told : ∀ l ∈ f.loops, l.channel.sent = toldSince l.ticket l.cycle.id f.history
  /-- The last step of a loop that ended takes away the slot of this loop and no other. -/
  removed : ∀ l ∈ f.loops, l.phase = .exited →
    l.slot ∈ f.slots ∧
      ((Action.move l.ticket).apply f).slots = f.slots.filter fun s => !(s.ticket == l.ticket)
  ascending : f.running.Pairwise (· < ·)
  running : ∀ id, id ∈ f.running ↔ ∃ l ∈ f.loops, l.cycle.id = id
  isRunning : ∀ id, f.isRunning id = true ↔ id ∈ f.running

/-- Whatever the order of operations and moves, a fleet stays orderly. -/
theorem orderly_perform (as : List Action) : Orderly (trace as {}) (perform as {}) := by
  have sound := sound_perform .empty as
  have recorded := recorded_perform as
  refine
    { alive := recorded.alive
      one := sound.loops_of_id
      slots := fun id => ?_
      told := recorded.told
      removed := fun l hl gone => ⟨?_, ?_⟩
      ascending := sound.running_ascending
      running := fun id => sound.mem_running
      isRunning := fun id => sound.isRunning_iff }
  · rw [sound.slots, List.filter_map]
    refine List.map_congr_left fun l hl => ?_
    have own : l.cycle.id = id := by simpa [Loop.slot] using (List.mem_filter.1 hl).2
    rw [Loop.slot, own]
  · rw [sound.slots]
    exact List.mem_map_of_mem hl
  · have found := sound.loop?_eq hl
    simp only [Action.apply, found, Option.elim, move_exited gone, clear]
    rw [sound.slots, List.filter_map, List.filter_map]
    congr 1
    refine List.filter_congr fun k hk => ?_
    simp only [Function.comp, Loop.slot]
    rw [sound.same_id_iff hk hl]

end Uptime.Fleet
