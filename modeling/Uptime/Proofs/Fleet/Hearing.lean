import Uptime.Proofs.Fleet.Slots

/-!
# What a loop notices of its fleet

Apart from the stop message nothing reaches a loop but its own moves. Seen by its number
(`Sound.loop?_apply`) or by its id (`Sound.holder?_move`, `Sound.holder?_stop`), a loop is the same
before and after whatever happens to the others.
-/

namespace Uptime.Fleet

/-- A loop after an action of its fleet that is not a move of this loop. -/
def Loop.hearing (a : Action) (l : Loop) : Loop :=
  match a with
  | .stop id => if l.cycle.id == id then l.signal else l
  | .stopAll => l.signal
  | _ => l

/-- What is left of a loop after its own move: nothing, if it had ended. -/
def Loop.moved (now : Duration) (l : Loop) : Option Loop :=
  if l.phase = .exited then none else some (l.step now).2

theorem Loop.moved_eq_some {l k : Loop} {now : Duration} (h : l.moved now = some k) :
    k = (l.step now).2 := by
  unfold Loop.moved at h
  split at h
  · cases h
  · exact (Option.some.inj h).symm

theorem Loop.hearing_eq (l : Loop) (a : Action) : l.hearing a = l ∨ l.hearing a = l.signal := by
  unfold Loop.hearing
  split
  · split
    · exact .inr rfl
    · exact .inl rfl
  · exact .inr rfl
  · exact .inl rfl

theorem Loop.signal_of_sent {l : Loop} (h : l.channel.sent = true) : l.signal = l := by
  unfold Loop.signal Loop.tell Channel.send
  rw [← h]

/-- A loop that was sent the stop message notices nothing any more. -/
theorem Loop.hearing_of_sent {l : Loop} (h : l.channel.sent = true) (a : Action) :
    l.hearing a = l := by
  cases a with
  | stop id =>
    simp only [Loop.hearing, l.signal_of_sent h, ite_self]
  | stopAll => exact l.signal_of_sent h
  | _ => rfl

/-- A loop that did not hear the stop message is as it was. -/
theorem Loop.hearing_of_untold {l : Loop} {a : Action} (h : (l.hearing a).isTold = false) :
    l.hearing a = l := by
  unfold Loop.hearing at h ⊢
  split at h
  · split at h
    · cases h
    · next other => exact if_neg other
  · cases h
  · rfl

/-- What a loop hears it cannot unhear. -/
theorem Loop.isTold_of_hearing {l : Loop} {a : Action} (h : (l.hearing a).isTold = false) :
    l.isTold = false := by
  rwa [l.hearing_of_untold h] at h

/-- The stop message changes nothing but what the loop hears. -/
theorem Loop.hearing_keeps (l : Loop) (a : Action) :
    (l.hearing a).ticket = l.ticket ∧ (l.hearing a).cycle = l.cycle ∧
      (l.hearing a).cadence = l.cadence ∧ (l.hearing a).phase = l.phase := by
  cases a with
  | stop id =>
    unfold Loop.hearing
    dsimp only
    split <;> exact ⟨rfl, rfl, rfl, rfl⟩
  | _ => exact ⟨rfl, rfl, rfl, rfl⟩

@[simp] theorem Loop.ticket_hearing (l : Loop) (a : Action) : (l.hearing a).ticket = l.ticket :=
  (l.hearing_keeps a).1
@[simp] theorem Loop.cycle_hearing (l : Loop) (a : Action) : (l.hearing a).cycle = l.cycle :=
  (l.hearing_keeps a).2.1
@[simp] theorem Loop.cadence_hearing (l : Loop) (a : Action) : (l.hearing a).cadence = l.cadence :=
  (l.hearing_keeps a).2.2.1
@[simp] theorem Loop.phase_hearing (l : Loop) (a : Action) : (l.hearing a).phase = l.phase :=
  (l.hearing_keeps a).2.2.2

/-! ## Time and numbers -/

theorem now_add (c : Cycle) (f : Fleet) : (f.add c).2.now = f.now := by
  unfold Fleet.add
  cases f.slot? c.id <;> rfl

theorem now_stop (id : Int64) (f : Fleet) : (f.stop id).2.now = f.now := by
  unfold Fleet.stop
  split <;> rfl

theorem now_launch (cs : List Cycle) (f : Fleet) : (f.launch cs).2.now = f.now :=
  launch_keeps (P := fun g => g.now = f.now) (fun _ _ h => h)
    (fun g c h => (now_add c g).trans h) cs rfl

/-- Only the passing of time moves the clock. -/
theorem now_apply (a : Action) (f : Fleet) :
    (a.apply f).now = f.now ∨ ∃ time, a = .pass time ∧ f.now < time ∧ (a.apply f).now = time := by
  cases a with
  | add c => exact .inl (now_add c f)
  | announce count => exact .inl rfl
  | launch cs => exact .inl (now_launch cs f)
  | stop id => exact .inl (now_stop id f)
  | stopAll => exact .inl rfl
  | move ticket =>
    cases found : f.loop? ticket with
    | none => simp [Action.apply, found]
    | some l => simp [Action.apply, found]
  | pass time =>
    by_cases later : f.now < time
    · exact .inr ⟨time, rfl, later, by simp [Action.apply, advanceTo, later]⟩
    · exact .inl (by simp [Action.apply, advanceTo, later])

theorem now_le_apply (a : Action) (f : Fleet) : f.now ≤ (a.apply f).now := by
  rcases now_apply a f with same | ⟨time, -, later, now⟩
  · rw [same]
    exact Nat.le_refl _
  · rw [now]
    exact Nat.le_of_lt later

theorem offered_add (c : Cycle) (f : Fleet) : (f.add c).2.offered = f.offered + 1 := by
  unfold Fleet.add
  cases f.slot? c.id <;> rfl

theorem offered_stop (id : Int64) (f : Fleet) : (f.stop id).2.offered = f.offered := by
  unfold Fleet.stop
  split <;> rfl

theorem offered_le_apply (a : Action) (f : Fleet) : f.offered ≤ (a.apply f).offered := by
  cases a with
  | add c =>
    rw [Action.apply, offered_add]
    omega
  | launch cs =>
    refine launch_keeps (P := fun g => f.offered ≤ g.offered) (fun _ _ h => h) (fun g c h => ?_) cs
      (Nat.le_refl _)
    rw [offered_add]
    omega
  | stop id => exact Nat.le_of_eq (offered_stop id f).symm
  | move ticket =>
    cases found : f.loop? ticket <;> simp [Action.apply, found]
  | _ => exact Nat.le_refl _

/-! ## One loop before and after -/

/-- A move concerns the loop that makes it and no other. -/
theorem loops_move (l : Loop) (f : Fleet) : (f.move l).loops =
    f.loops.filterMap fun k => if k.ticket == l.ticket then l.moved f.now else some k := by
  by_cases gone : l.phase = .exited
  · rw [move_exited gone, Loop.moved, if_pos gone]
    show f.loops.filter _ = _
    rw [← List.filterMap_eq_filter]
    refine List.filterMap_congr fun k _ => ?_
    cases own : k.ticket == l.ticket <;> simp [Option.guard, own]
  · rw [move_eq gone, Loop.moved, if_neg gone]
    show f.loops.map _ = _
    rw [← List.filterMap_eq_map]
    refine List.filterMap_congr fun k _ => ?_
    simp only [Function.comp]
    split <;> rfl

theorem find?_hearing {κ : Type} [BEq κ] (key : Loop → κ) {a : Action}
    (same : ∀ k : Loop, key (k.hearing a) = key k) (x : κ) (loops : List Loop) :
    (loops.map (·.hearing a)).find? (key · == x) =
      (loops.find? (key · == x)).map (·.hearing a) := by
  rw [List.find?_map]
  congr 2
  funext k
  exact congrArg (· == x) (same k)

theorem loop?_add {f : Fleet} (c : Cycle) {ticket : Nat} (old : ticket < f.offered) :
    (f.add c).2.loop? ticket = f.loop? ticket := by
  unfold Fleet.add
  cases f.slot? c.id with
  | some slot => rfl
  | none =>
    have other : (f.offered == ticket) = false := by simpa using Nat.ne_of_gt old
    simp [loop?, Loop.spawn, other]

theorem loop?_launch {f : Fleet} (cs : List Cycle) {ticket : Nat} (old : ticket < f.offered) :
    (f.launch cs).2.loop? ticket = f.loop? ticket := by
  refine (launch_keeps (P := fun g => ticket < g.offered ∧ g.loop? ticket = f.loop? ticket)
    (fun _ _ h => h) (fun g c h => ⟨?_, ?_⟩) cs ⟨old, rfl⟩).2
  · rw [offered_add]
    exact Nat.lt_succ_of_lt h.1
  · rw [loop?_add c h.1, h.2]

namespace Sound

variable {f : Fleet} {l k : Loop}

/-- Only the loop of the id hears a stop. If it is refused then because this loop heard one
before. -/
theorem loops_stop (h : Sound f) (id : Int64) :
    (f.stop id).2.loops = f.loops.map (·.hearing (.stop id)) := by
  unfold Fleet.stop
  split
  · rw [loops_note, h.loops_signal]
    rfl
  · next refused =>
    have deaf : ∀ l ∈ f.loops, l.hearing (.stop id) = l := by
      intro l hl
      by_cases own : l.cycle.id = id
      · cases sent : l.channel.sent with
        | true => exact l.hearing_of_sent sent _
        | false =>
          have slot : f.slot? id = some ⟨id, l.ticket, false⟩ := by
            rw [h.slot?_eq, ← own, h.holder?_eq hl, ← sent]
            rfl
          exact absurd slot (refused id l.ticket)
      · simp [Loop.hearing, own]
    rw [List.map_congr_left deaf, List.map_id']

theorem loops_stopAll (h : Sound f) : f.stopAll.loops = f.loops.map (·.hearing .stopAll) := by
  unfold Fleet.stopAll
  rw [loops_note, h.loops_signal]
  refine List.map_congr_left fun l _ => ?_
  cases sent : l.channel.sent with
  | false => simp [Loop.slot, sent, Loop.hearing]
  | true => simp [Loop.slot, sent, l.hearing_of_sent sent]

theorem mem_move (h : Sound f) (hl : l ∈ f.loops) :
    k ∈ (f.move l).loops ↔ k ∈ f.loops ∧ k ≠ l ∨ l.moved f.now = some k := by
  rw [loops_move, List.mem_filterMap]
  constructor
  · rintro ⟨k', hk', kept⟩
    by_cases own : k'.ticket = l.ticket
    · exact .inr (by simpa [own] using kept)
    · obtain rfl : k' = k := by simpa [own] using kept
      exact .inl ⟨hk', fun same => own (congrArg Loop.ticket same)⟩
  · rintro (⟨hk, other⟩ | new)
    · have own : k.ticket ≠ l.ticket := fun same => other (h.eq_of_ticket hk hl same)
      exact ⟨k, hk, by simp [own]⟩
    · exact ⟨l, hl, by simpa using new⟩

theorem find?_move {κ : Type} [BEq κ] [LawfulBEq κ] (h : Sound f) (hl : l ∈ f.loops)
    (key : Loop → κ) (nodup : ∀ {g : Fleet}, Sound g → (g.loops.map key).Nodup)
    (same : ∀ (k : Loop) (now : Duration), key (k.step now).2 = key k) (x : κ) :
    (f.move l).loops.find? (key · == x) =
      if key l == x then l.moved f.now else f.loops.find? (key · == x) := by
  have named : ∀ {k}, l.moved f.now = some k → key k = key l := fun new => by
    rw [Loop.moved_eq_some new, same]
  refine Option.ext fun k => ?_
  rw [find?_key_eq_some_iff (nodup (h.move hl)), h.mem_move hl]
  by_cases own : key l = x
  · rw [if_pos (by simpa using own)]
    constructor
    · rintro ⟨⟨hk, other⟩ | new, mine⟩
      · exact absurd (List.inj_on_of_nodup_map (nodup h) hk hl (mine.trans own.symm)) other
      · exact new
    · exact fun new => ⟨.inr new, (named new).trans own⟩
  · rw [if_neg (by simpa using own), find?_key_eq_some_iff (nodup h)]
    constructor
    · rintro ⟨⟨hk, -⟩ | new, mine⟩
      · exact ⟨hk, mine⟩
      · exact absurd ((named new).symm.trans mine) own
    · rintro ⟨hk, rfl⟩
      exact ⟨.inl ⟨hk, fun same => own (congrArg key same).symm⟩, rfl⟩

theorem loop?_move (h : Sound f) (hl : l ∈ f.loops) (ticket : Nat) :
    (f.move l).loop? ticket =
      if l.ticket == ticket then l.moved f.now else f.loop? ticket :=
  h.find?_move hl (·.ticket) (·.tickets) Loop.ticket_step ticket

theorem holder?_move (h : Sound f) (hl : l ∈ f.loops) (id : Int64) :
    (f.move l).holder? id = if l.cycle.id == id then l.moved f.now else f.holder? id :=
  h.find?_move hl (·.cycle.id) (·.ids) (fun k now => by rw [k.cycle_step]) id

theorem holder?_add (h : Sound f) (c : Cycle) (id : Int64) :
    (f.add c).2.holder? id =
      (f.holder? id).or (if c.id = id then some (.spawn f.offered c) else none) := by
  unfold Fleet.add
  cases taken : f.slot? c.id with
  | some slot =>
    rw [h.slot?_eq, Option.map_eq_some_iff] at taken
    obtain ⟨k, hk, -⟩ := taken
    show f.holder? id = _
    split
    · next same => rw [← same, hk]; rfl
    · rw [Option.or_none]
  | none =>
    simp [holder?, Loop.spawn]

theorem holder?_stop (h : Sound f) (i id : Int64) :
    (f.stop i).2.holder? id = (f.holder? id).map (·.hearing (.stop i)) := by
  rw [holder?, h.loops_stop]
  exact find?_hearing (·.cycle.id) (fun k => by rw [k.cycle_hearing]) id _

theorem holder?_stopAll (h : Sound f) (id : Int64) :
    f.stopAll.holder? id = (f.holder? id).map (·.hearing .stopAll) := by
  rw [holder?, h.loops_stopAll]
  exact find?_hearing (·.cycle.id) (fun k => by rw [k.cycle_hearing]) id _

/-- What is not a move of a loop changes at most that it was told to stop. -/
theorem loop?_apply (h : Sound f) {ticket : Nat} (old : ticket < f.offered) {a : Action}
    (other : a ≠ .move ticket) :
    (a.apply f).loop? ticket = (f.loop? ticket).map (·.hearing a) := by
  have quiet : ∀ o : Option Loop, o = o.map fun k => k := fun o => Option.map_id'.symm
  cases a with
  | add c => exact (loop?_add c old).trans (quiet _)
  | announce count => exact quiet _
  | launch cs => exact (loop?_launch cs old).trans (quiet _)
  | stop id =>
    rw [Action.apply, loop?, h.loops_stop]
    exact find?_hearing (·.ticket) (fun k => k.ticket_hearing _) ticket _
  | stopAll =>
    rw [Action.apply, loop?, h.loops_stopAll]
    exact find?_hearing (·.ticket) (fun k => k.ticket_hearing _) ticket _
  | move k =>
    refine Eq.trans ?_ (quiet _)
    cases found : f.loop? k with
    | none => simp [Action.apply, found]
    | some l =>
      obtain ⟨hl, rfl⟩ := mem_of_loop? found
      have apart : (l.ticket == ticket) = false := by
        rw [beq_eq_false_iff_ne]
        exact fun same => other (congrArg Action.move same)
      simp [Action.apply, found, h.loop?_move hl, apart]
  | pass time => exact quiet _

end Sound

end Uptime.Fleet
