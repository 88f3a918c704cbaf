import Uptime.Proofs.Fleet.Offering

/-!
# The answers of a fleet

What adding and stopping answer depends on the slot of the id alone. What an action can do to this
slot is said once (`slot?_apply`): it stays, perhaps marked, or goes, or is new because a cycle was
taken. So until the next cycle of the id is taken no more than one stop is granted, none after all
loops were told to stop, and telling a loop again changes nothing (`answers_perform`).
-/

namespace Uptime.Fleet

/-- Whether an action is a stop of this id that is granted. -/
def Action.stops (id : Int64) (f : Fleet) : Action → Bool
  | .stop i => i == id && (f.stop i).1
  | _ => false

/-- How many stops of an id are granted in a history. -/
def stopsIn (id : Int64) : List Action → Fleet → Nat
  | [], _ => 0
  | a :: as, f => (if a.stops id f then 1 else 0) + stopsIn id as (a.apply f)

/-- Whether a cycle of an id is taken when these are offered one after the other. -/
def takesOne (id : Int64) : List Cycle → Fleet → Bool
  | [], _ => false
  | c :: cs, f => (c.id == id && (f.add c).1) || takesOne id cs (f.add c).2

/-- Whether an action takes a cycle of an id. -/
def Action.takes (id : Int64) (f : Fleet) : Action → Bool
  | .add c => takesOne id [c] f
  | .launch cs => takesOne id cs (f.note (.launching cs.length))
  | _ => false

/-- Whether a cycle of an id is taken in a history. -/
def takesIn (id : Int64) : List Action → Fleet → Bool
  | [], _ => false
  | a :: as, f => a.takes id f || takesIn id as (a.apply f)

/-- The slot of a loop that was told to stop. -/
def Slot.told (s : Slot) : Slot := { s with stopping := true }

theorem Slot.told_of_stopping {s : Slot} (stopping : s.stopping = true) : s.told = s := by
  rw [told, ← stopping]

variable {f g : Fleet} {id : Int64} {a : Action} {s t : Slot}

/-! ## The slot of an id -/

theorem id_of_slot? (slot : f.slot? id = some s) : s.id = id := by
  simpa using List.find?_some slot

theorem slot?_signal (chosen : Slot → Bool) (f : Fleet) (id : Int64) :
    (f.signal chosen).slot? id = (f.slot? id).map fun s => if chosen s then s.told else s := by
  have ids : ∀ s : Slot, (if chosen s then s.told else s).id = s.id := fun s => by
    split <;> rfl
  show (f.slots.map fun s => if chosen s then s.told else s).find? (·.id == id) = _
  rw [List.find?_map]
  simp only [Function.comp_def, ids]
  rfl

theorem stop_eq_true_iff (f : Fleet) (id : Int64) :
    (f.stop id).1 = true ↔ ∃ s, f.slot? id = some s ∧ s.stopping = false := by
  unfold stop
  split
  · next slot => exact ⟨fun _ => ⟨_, slot, rfl⟩, fun _ => rfl⟩
  · next refused =>
    refine ⟨nofun, ?_⟩
    rintro ⟨⟨i, ticket, stopping⟩, slot, rfl⟩
    exact absurd slot (refused i ticket)

/-- A stop that is refused changes nothing. -/
theorem stop_refused (refused : ∀ s, f.slot? id = some s → s.stopping = true) :
    f.stop id = (false, f) := by
  unfold stop
  split
  · next slot => exact absurd (refused _ slot) nofun
  · rfl

theorem slot?_stop (f : Fleet) (i id : Int64) :
    (f.stop i).2.slot? id = (f.slot? id).map fun s => if s.id == i then s.told else s := by
  by_cases granted : ∃ s, f.slot? i = some s ∧ s.stopping = false
  · obtain ⟨⟨j, ticket, stopping⟩, slot, rfl⟩ := granted
    unfold stop
    rw [slot]
    exact slot?_signal _ f id
  · have told : ∀ s, f.slot? i = some s → s.stopping = true := fun s slot => by
      cases stopping : s.stopping with
      | true => rfl
      | false => exact absurd ⟨s, slot, stopping⟩ granted
    rw [stop_refused told]
    cases slot : f.slot? id with
    | none => rfl
    | some s =>
      -- The slot of the id itself is marked already.
      have same : (if s.id == i then s.told else s) = s := by
        split
        · next own =>
          rw [← id_of_slot? slot, beq_iff_eq.1 own] at slot
          exact Slot.told_of_stopping (told s slot)
        · rfl
      rw [Option.map_some, same]

theorem slot?_stopAll (f : Fleet) (id : Int64) :
    f.stopAll.slot? id = (f.slot? id).map Slot.told := by
  show (f.signal fun s => !s.stopping).slot? id = _
  rw [slot?_signal]
  refine congrArg (Option.map · (f.slot? id)) (funext fun s => ?_)
  cases stopping : s.stopping with
  | true => exact (Slot.told_of_stopping stopping).symm
  | false => rfl

/-- A move can only take a slot away. -/
theorem slot?_move {l : Loop} (found : (f.move l).slot? id = some t) : f.slot? id = some t := by
  by_cases gone : l.phase = .exited
  · rw [move_exited gone] at found
    have left : ((f.slots.filter fun s => !(s.id == l.cycle.id)).find? (·.id == id)) = some t :=
      found
    have other : id ≠ l.cycle.id := by
      simpa [id_of_slot? found] using (List.mem_filter.1 (List.mem_of_find?_eq_some left)).2
    rw [List.find?_filter] at left
    refine Eq.trans (congrArg (List.find? · f.slots) (funext fun s => ?_)) left
    by_cases own : s.id = id
    · simp [own, other]
    · simp [own]
  · rwa [move_eq gone] at found

/-- What offers can do to the slot of an id. -/
theorem slot?_addAll {cs : List Cycle} (found : (addAll cs f).2.slot? id = some t) :
    f.slot? id = some t ∨ takesOne id cs f = true ∧ f.offered ≤ t.ticket := by
  induction cs generalizing f with
  | nil => exact .inl found
  | cons c cs ih =>
    rcases ih (f := (f.add c).2) found with before | ⟨takes, later⟩
    · rw [slot?_add, Option.or_eq_some_iff] at before
      rcases before with before | ⟨none, new⟩
      · exact .inl before
      · split at new
        · next own =>
          cases new
          have taken : (f.add c).1 = true := (add_eq_true_iff c f).2 (by rw [own]; exact none)
          refine .inr ⟨?_, Nat.le_refl _⟩
          rw [takesOne, own, taken]
          simp
        · cases new
    · rw [offered_add] at later
      refine .inr ⟨?_, by omega⟩
      rw [takesOne, takes, Bool.or_true]

/-- What an action can do to the slot of an id. -/
theorem slot?_apply (found : (a.apply f).slot? id = some t) :
    (∃ s, f.slot? id = some s ∧ (t = s ∨ t = s.told)) ∨
      a.takes id f = true ∧ f.offered ≤ t.ticket := by
  have same : f.slot? id = some t → ∃ s, f.slot? id = some s ∧ (t = s ∨ t = s.told) :=
    fun slot => ⟨t, slot, .inl rfl⟩
  cases a with
  | add c =>
    have offered : (addAll [c] f).2.slot? id = some t := found
    exact (slot?_addAll offered).imp_left same
  | launch cs => exact (slot?_addAll found).imp_left same
  | announce count => exact .inl (same found)
  | pass time => exact .inl (same found)
  | stop i =>
    rw [Action.apply, slot?_stop, Option.map_eq_some_iff] at found
    obtain ⟨s, slot, rfl⟩ := found
    refine .inl ⟨s, slot, ?_⟩
    split
    · exact .inr rfl
    · exact .inl rfl
  | stopAll =>
    rw [Action.apply, slot?_stopAll, Option.map_eq_some_iff] at found
    obtain ⟨s, slot, rfl⟩ := found
    exact .inl ⟨s, slot, .inr rfl⟩
  | move ticket =>
    cases running : f.loop? ticket with
    | none => exact .inl (same (by simpa [Action.apply, running] using found))
    | some l => exact .inl (same (slot?_move (by simpa [Action.apply, running] using found)))

/-! ## Stops that are granted -/

/-- The id has no loop that was not told to stop. -/
def Settled (id : Int64) (f : Fleet) : Prop := ∀ s, f.slot? id = some s → s.stopping = true

theorem stop_eq_false_iff : (f.stop id).1 = false ↔ Settled id f := by
  rw [← Bool.not_eq_true, stop_eq_true_iff, Settled]
  simp

theorem settled_stop (f : Fleet) (id : Int64) : Settled id (f.stop id).2 := by
  intro t found
  rw [slot?_stop, Option.map_eq_some_iff] at found
  obtain ⟨s, slot, rfl⟩ := found
  rw [if_pos (beq_iff_eq.2 (id_of_slot? slot))]
  rfl

theorem settled_stopAll (f : Fleet) (id : Int64) : Settled id f.stopAll := by
  intro t found
  rw [slot?_stopAll, Option.map_eq_some_iff] at found
  obtain ⟨s, -, rfl⟩ := found
  rfl

/-- An id is settled until a cycle of it is taken. -/
theorem Settled.apply (settled : Settled id f) (idle : a.takes id f = false) :
    Settled id (a.apply f) := by
  intro t found
  rcases slot?_apply found with ⟨s, slot, rfl | rfl⟩ | ⟨takes, -⟩
  · exact settled t slot
  · rfl
  · rw [idle] at takes
    cases takes

theorem Settled.stops (settled : Settled id f) (a : Action) : a.stops id f = false := by
  cases a with
  | stop i =>
    by_cases own : i = id
    · subst own
      simp [Action.stops, stop_eq_false_iff.2 settled]
    · simp [Action.stops, own]
  | _ => rfl

/-- No stop of a settled id is granted until a cycle of it is taken. -/
theorem Settled.stopsIn (settled : Settled id f) {as : List Action}
    (idle : takesIn id as f = false) : stopsIn id as f = 0 := by
  induction as generalizing f with
  | nil => rfl
  | cons a as ih =>
    obtain ⟨now, later⟩ := Bool.or_eq_false_iff.1 idle
    rw [Fleet.stopsIn, settled.stops a, ih (settled.apply now) later]
    rfl

/-- Until a cycle of an id is taken at most one stop of it is granted. -/
theorem stopsIn_le_one {as : List Action} (idle : takesIn id as f = false) :
    stopsIn id as f ≤ 1 := by
  induction as generalizing f with
  | nil => exact Nat.zero_le 1
  | cons a as ih =>
    obtain ⟨now, later⟩ := Bool.or_eq_false_iff.1 idle
    rw [stopsIn]
    split
    · next granted =>
      -- The stop that is granted settles the id, so there is no further one.
      cases a with
      | stop i =>
        have own : i = id := by simpa [Action.stops] using (Bool.and_eq_true_iff.1 granted).1
        subst own
        have none : stopsIn i as ((Action.stop i).apply f) = 0 := (settled_stop f i).stopsIn later
        rw [none]
      | _ => cases granted
    · rw [Nat.zero_add]
      exact ih later

/-! ## Loops that were told already -/

/-- The loop of an id was told to stop, unless it is newer than those with numbers below `bound`. -/
def ToldBelow (bound : Nat) (id : Int64) (f : Fleet) : Prop :=
  bound ≤ f.offered ∧ ∀ s, f.slot? id = some s → s.ticket < bound → s.stopping = true

theorem Settled.toldBelow {bound : Nat} (settled : Settled id f) (le : bound ≤ f.offered) :
    ToldBelow bound id f := ⟨le, fun s slot _ => settled s slot⟩

/-- What a loop was told stays told until the loop has gone. -/
theorem ToldBelow.apply {bound : Nat} (told : ToldBelow bound id f) (a : Action) :
    ToldBelow bound id (a.apply f) := by
  refine ⟨Nat.le_trans told.1 (offered_le_apply a f), fun t found older => ?_⟩
  rcases slot?_apply found with ⟨s, slot, rfl | rfl⟩ | ⟨-, newer⟩
  · exact told.2 t slot older
  · rfl
  · exact absurd (Nat.lt_of_lt_of_le older told.1) (Nat.not_lt.2 newer)

theorem ToldBelow.perform {bound : Nat} (told : ToldBelow bound id f) (as : List Action) :
    ToldBelow bound id (perform as f) := by
  induction as generalizing f with
  | nil => exact told
  | cons a as ih => exact ih (told.apply a)

/-- Where all loops were told to stop, telling them again leaves nothing but a line in the log. -/
theorem stopAll_eq_note (told : ∀ s ∈ f.slots, s.stopping = true) :
    f.stopAll = f.note (.stoppingAll f.slots.length) := by
  have unchosen : ∀ s ∈ f.slots, (!s.stopping) = false := fun s hs => by rw [told s hs]; rfl
  have slots : (f.slots.map fun s => if !s.stopping then { s with stopping := true } else s) =
      f.slots := by
    refine (List.map_congr_left fun s hs => ?_).trans (List.map_id _)
    rw [unchosen s hs]
    rfl
  have loops : (f.loops.map fun l =>
      if f.slots.any fun s => s.ticket == l.ticket && !s.stopping then l.signal else l) =
      f.loops := by
    refine (List.map_congr_left fun l _ => ?_).trans (List.map_id _)
    have none : (f.slots.any fun s => s.ticket == l.ticket && !s.stopping) = false := by
      rw [List.any_eq_false]
      intro s hs
      rw [unchosen s hs, Bool.and_false]
      exact Bool.false_ne_true
    rw [none]
    rfl
  rw [stopAll, signal, slots, loops]

namespace Sound

theorem slot?_of_mem (sound : Sound f) (hs : s ∈ f.slots) : f.slot? s.id = some s := by
  rw [sound.slots, List.mem_map] at hs
  obtain ⟨l, hl, rfl⟩ := hs
  rw [sound.slot?_eq]
  exact congrArg (Option.map Loop.slot) (sound.holder?_eq hl)

theorem ticket_lt (sound : Sound f) (slot : f.slot? id = some s) : s.ticket < f.offered := by
  rw [sound.slot?_eq, Option.map_eq_some_iff] at slot
  obtain ⟨l, holds, rfl⟩ := slot
  exact sound.offered l (mem_of_holder? holds).1

/-- A loop that was told to stop notices nothing when all are told. -/
theorem holder?_stopAll_of_told (sound : Sound f) (settled : Settled id f) :
    f.stopAll.holder? id = f.holder? id := by
  rw [sound.holder?_stopAll]
  cases holds : f.holder? id with
  | none => rfl
  | some l =>
    have sent : l.channel.sent = true := settled l.slot (by rw [sound.slot?_eq, holds]; rfl)
    rw [Option.map_some, l.hearing_of_sent sent]

/-- Telling a loop again that was told to stop changes nothing. -/
theorem told_again (sound : Sound f) (slot : f.slot? id = some s) (stopping : s.stopping = true) :
    f.stop id = (false, f) ∧ f.stopAll.slot? id = some s ∧
      f.stopAll.holder? id = f.holder? id := by
  have settled : Settled id f := fun t found => by
    rw [slot] at found
    cases found
    exact stopping
  refine ⟨stop_refused settled, ?_, sound.holder?_stopAll_of_told settled⟩
  rw [slot?_stopAll, slot, Option.map_some, Slot.told_of_stopping stopping]

end Sound

/-! ## Launches -/

theorem perform_adds (cs : List Cycle) (f : Fleet) :
    perform (cs.map .add) f = (addAll cs f).2 ∧ takenIn (cs.map .add) f = (addAll cs f).1 := by
  induction cs generalizing f with
  | nil => exact ⟨rfl, rfl⟩
  | cons c cs ih =>
    obtain ⟨after, count⟩ := ih (f.add c).2
    refine ⟨after, ?_⟩
    rw [List.map_cons, takenIn, Action.apply, count]
    exact Nat.add_comm _ _

/-- A launch is an announcement with offers one by one, and counts those that are taken. -/
theorem launch_eq_adds (cs : List Cycle) (f : Fleet) :
    f.launch cs = (takenIn (.announce cs.length :: cs.map .add) f,
      perform (.announce cs.length :: cs.map .add) f) := by
  obtain ⟨after, count⟩ := perform_adds cs (f.note (.launching cs.length))
  exact Prod.ext ((Nat.zero_add _).trans count).symm after.symm

/-- How a fleet answers after a history. -/
structure Answers (as : List Action) (f : Fleet) : Prop where
  /-- A cycle is taken if its id has no slot. -/
  add : ∀ c, (f.add c).1 = true ↔ f.slot? c.id = none
  /-- It has a new one then, and nothing else happens to the slots. -/
  taken : ∀ c, f.slot? c.id = none → ∀ id, (f.add c).2.slot? id =
    if c.id = id then some { id := c.id, ticket := f.offered } else f.slot? id
  /-- Where a cycle is refused, slots and loops stay as they are. -/
  refused : ∀ c, f.slot? c.id ≠ none → (f.add c).2.slots = f.slots ∧ (f.add c).2.loops = f.loops
  /-- A stop is granted if there is a loop that was not told yet. -/
  stop : ∀ id, (f.stop id).1 = true ↔ ∃ s, f.slot? id = some s ∧ s.stopping = false
  /-- Until a cycle of the id is taken at most one stop is granted, -/
  once : ∀ id bs, takesIn id bs f = false → stopsIn id bs f ≤ 1
  /-- and none after all loops were told to stop. -/
  never : ∀ id bs, takesIn id bs f.stopAll = false → stopsIn id bs f.stopAll = 0
  /-- Until a loop that was told to stop has gone, it is refused to be told again, and notices
  nothing when all are told. -/
  again : ∀ id s, f.slot? id = some s → ∀ g ∈ [(f.stop id).2, f.stopAll], ∀ bs t,
    (perform bs g).slot? id = some t → t.ticket = s.ticket →
      t.stopping = true ∧ (perform bs g).stop id = (false, perform bs g) ∧
        (perform bs g).stopAll.slot? id = some t ∧
        (perform bs g).stopAll.holder? id = (perform bs g).holder? id
  /-- Until a loop is started, telling all again leaves nothing but a line in the log. -/
  allAgain : ∀ bs, (∀ t ∈ (perform bs f.stopAll).slots, t.ticket < f.offered) →
    (perform bs f.stopAll).stopAll =
      (perform bs f.stopAll).note (.stoppingAll (perform bs f.stopAll).slots.length)
  /-- A launch is an announcement with offers one by one. -/
  launch : ∀ cs, f.launch cs =
    (takenIn (.announce cs.length :: cs.map .add) f,
      perform (.announce cs.length :: cs.map .add) f)
  /-- These are as many as there are different free ids, and the first cycle of each is served. -/
  launched : ∀ cs, Offered f cs (f.launch cs).1 (f.launch cs).2
  /-- It makes no difference what else happens meanwhile if no loop is cleared away. -/
  meanwhile : ∀ bs, (∀ m ∈ trace bs f, m.move ≠ .none) →
    Offered f (bs.flatMap Action.offers) (takenIn bs f) (perform bs f)
  /-- A cycle that was refused is never checked. -/
  unchecked : ∀ bs ticket name stopping, .refused ticket name stopping ∈ f.history →
    movesOf ticket (trace (as ++ bs) {}) = []

/-- Whatever happened before, the answers of a fleet are what its slots say, and a launch does what
adding its cycles one by one does. -/
theorem answers_perform (as : List Action) : Answers as (perform as {}) := by
  have sound := sound_perform .empty as
  refine
    { add := fun c => add_eq_true_iff c _
      taken := fun c free id => ?_
      refused := fun c taken => ?_
      stop := stop_eq_true_iff _
      once := fun id bs idle => stopsIn_le_one idle
      never := fun id bs idle => (settled_stopAll _ id).stopsIn idle
      again := fun id s slot g told bs t found same => ?_
      allAgain := fun bs older => stopAll_eq_note fun s hs => ?_
      launch := fun cs => launch_eq_adds cs _
      launched := Offered.launch sound
      meanwhile := Offered.perform sound
      unchecked := fun bs ticket name stopping refused => ?_ }
  · rw [slot?_add]
    by_cases own : c.id = id
    · rw [← own, free, if_pos rfl, Option.none_or]
    · rw [if_neg own, if_neg own, Option.or_none]
  · obtain ⟨slot, taken⟩ := Option.ne_none_iff_exists'.1 taken
    rw [add_refused taken]
    exact ⟨rfl, rfl⟩
  · have kept : Settled id g ∧ Sound g ∧ (perform as {}).offered ≤ g.offered := by
      rcases List.mem_pair.1 told with rfl | rfl
      · exact ⟨settled_stop _ id, sound.stop id, (offered_stop id _).ge⟩
      · exact ⟨settled_stopAll _ id, sound.stopAll, Nat.le_refl _⟩
    obtain ⟨settled, sound', offered⟩ := kept
    have older : t.ticket < (perform as {}).offered := same ▸ sound.ticket_lt slot
    have stopping := ((settled.toldBelow offered).perform bs).2 t found older
    exact ⟨stopping, (sound_perform sound' bs).told_again found stopping⟩
  · have slot := (sound_perform sound.stopAll bs).slot?_of_mem hs
    have settled : Settled s.id (perform as {}).stopAll := settled_stopAll _ s.id
    exact ((settled.toldBelow (Nat.le_refl _)).perform bs).2 s slot (older s hs)
  · have later : .refused ticket name stopping ∈ (perform (as ++ bs) {}).history := by
      rw [perform_append]
      exact mem_history_perform refused bs
    exact movesOf_of_refused (as ++ bs) later

/-- Of three cycles with two ids the third is refused, and so is a second stop. -/
example :
    let cycle (id : Int64) : Cycle :=
      { id, name := "a", interval := 60, takes := fun _ => .zero, online := fun _ => true }
    let launched := ({} : Fleet).launch [cycle 3, cycle 5, cycle 3]
    launched.1 = 2 ∧ (launched.2.stop 3).1 = true ∧ ((launched.2.stop 3).2.stop 3).1 = false := by
  exact ⟨rfl, rfl, rfl⟩

end Uptime.Fleet
