import Uptime.Proofs.Fleet.Checks
import Uptime.Proofs.Fleet.Sleep

/-!
# How loops end

A loop that was told to stop makes its last moves and no others: a check in flight is finished, no
further one is started, and the loop ends at once or at the end of that check. In a fleet this holds
in every timely history (`ends_of_told`); for a lone loop it does not matter whether the message was
sent or the channel closed (`movesTold_eq`).
-/

namespace Uptime.Fleet

namespace Loop

/-- What a loop still does once it was told to stop. -/
def lastMoves (l : Loop) : List Move :=
  match l.phase with
  | .spawned => [.woke, .stopped]
  | .waiting _ => [.stopped]
  | .checking _ => [.finished, .stopped]
  | .exited => []

/-- When a loop ends that is told to stop at the time `now`: with its check, or at once. -/
def endTime (now : Duration) (l : Loop) : Duration :=
  match l.phase with
  | .checking done => done
  | _ => now

/-- The last moves of a loop that is told to stop at the time `now`. -/
def ending (now : Duration) (l : Loop) : List (Move × Duration) :=
  l.lastMoves.map fun m => (m, l.endTime now)

/-- The last moves of a loop in a fleet, where it removes its slot after it ended. -/
def farewell (now : Duration) (l : Loop) : List (Move × Duration) :=
  l.ending now ++ [(.none, l.endTime now)]

variable {l : Loop} {now : Duration}

theorem started_not_mem_farewell (l : Loop) (now : Duration) :
    ∀ m ∈ l.farewell now, m.1 ≠ .started := by
  cases h : l.phase <;> simp [farewell, ending, lastMoves, h]

/-- The next move of a loop that was told to stop is due at its end. -/
theorem dueAt_of_told (told : l.isTold = true) (now : Duration) :
    dueAt now l = l.endTime now := by
  cases h : l.phase with
  | spawned => simp only [dueAt_spawned h, endTime, h]
  | waiting wake => simp only [dueAt_told h told, endTime, h]
  | checking done => simp only [dueAt_checking h, endTime, h]
  | exited => simp only [dueAt_exited h, endTime, h]

/-- Made at its time, the first of the last moves leaves the others. -/
theorem farewell_step (told : l.isTold = true) (due : l.endTime now = now) :
    l.farewell now = ((l.step now).1, now) :: (l.moved now).elim [] (·.farewell now) := by
  cases h : l.phase with
  | spawned => simp [farewell, ending, lastMoves, endTime, moved, h, step_spawned h, wait]
  | waiting wake => simp [farewell, ending, lastMoves, endTime, moved, h, step_told h told]
  | checking done =>
    have same : done = now := by simpa [endTime, h] using due
    simp [farewell, ending, lastMoves, endTime, moved, h, step_checking h, wait, same]
  | exited => simp [farewell, ending, lastMoves, endTime, moved, h, step_exited h]

theorem endTime_step (told : l.isTold = true) : (l.step now).2.endTime now = now := by
  cases h : l.phase with
  | spawned => simp only [step_spawned h, endTime, wait]
  | waiting wake => simp only [step_told h told, endTime]
  | checking done => simp only [step_checking h, endTime, wait]
  | exited => simp only [step_exited h, endTime, h]

/-- While the end of a loop is not reached, it does not depend on the clock. -/
theorem farewell_later (told : l.isTold = true) (later : now < dueAt now l) (time : Duration) :
    l.farewell time = l.farewell now ∧ l.endTime time = l.endTime now := by
  have same : l.endTime time = l.endTime now := by
    rw [← dueAt_of_told told, ← dueAt_of_told told, dueAt_of_lt later]
  exact ⟨by rw [farewell, farewell, ending, ending, same], same⟩

end Loop

/-! ## In a fleet -/

theorem movesOf_of_ne {ticket : Nat} {f : Fleet} {a : Action} (other : a ≠ .move ticket) :
    movesOf ticket (a.moments f) = [] := by
  cases a with
  | move k =>
    have apart : k ≠ ticket := fun same => other (congrArg Action.move same)
    cases found : f.loop? k with
    | none => simp [Action.moments, found, movesOf]
    | some l =>
      have own : l.ticket = k := (mem_of_loop? found).2
      simp [Action.moments, found, movesOf, own, apart]
  | _ => rfl

theorem movesOf_of_eq {f : Fleet} {l : Loop} (found : f.loop? l.ticket = some l) :
    movesOf l.ticket ((Action.move l.ticket).moments f) = [((l.step f.now).1, f.now)] := by
  simp [Action.moments, found, movesOf]

/-- The moves made so far and those to come are the last moves of a loop that was told to stop. -/
structure Leaving (ticket : Nat) (moves : List (Move × Duration)) (time : Duration)
    (ms : List Moment) (f : Fleet) : Prop where
  sound : Sound f
  paced : Paced f
  old : ticket < f.offered
  told : ∀ l ∈ f.loop? ticket, l.channel.sent = true
  moves : movesOf ticket ms ++ (f.loop? ticket).elim [] (·.farewell f.now) = moves
  ends : ∀ l ∈ f.loop? ticket, l.endTime f.now = time

namespace Leaving

variable {ticket : Nat} {moves : List (Move × Duration)} {time : Duration} {ms : List Moment}
  {f : Fleet} {a : Action} {l : Loop}

theorem isTold (h : Leaving ticket moves time ms f) (found : f.loop? ticket = some l) :
    l.isTold = true := by
  rw [h.sound.isTold_eq_sent (mem_of_loop? found).1]
  exact h.told l found

/-- Its own move is the first of the last moves that are left. -/
theorem move (h : Leaving ticket moves time ms f) (timely : (Action.move ticket).Timely f)
    (found : f.loop? ticket = some l) :
    Leaving ticket moves time (ms ++ (Action.move ticket).moments f)
      ((Action.move ticket).apply f) := by
  obtain ⟨hl, rfl⟩ := mem_of_loop? found
  have told := h.isTold found
  -- Timely and paced, the move is made exactly when it is due, and that is the end of the loop.
  have due : l.endTime f.now = f.now := by
    rw [← Loop.dueAt_of_told told]
    exact Duration.ext_iff.2 (Nat.le_antisymm (timely l found) (h.paced l hl).due)
  have after : (Action.move l.ticket).apply f = f.move l := by simp [Action.apply, found]
  have left : ((Action.move l.ticket).apply f).loop? l.ticket = l.moved f.now := by
    rw [after, h.sound.loop?_move hl, if_pos (beq_self_eq_true _)]
  have now : ((Action.move l.ticket).apply f).now = f.now := by rw [after, now_move]
  refine
    { sound := h.sound.apply _
      paced := (Paced.apply ⟨h.sound, h.paced⟩ timely).2
      old := Nat.lt_of_lt_of_le h.old (offered_le_apply _ f)
      told := fun k hk => ?_
      moves := ?_
      ends := fun k hk => ?_ }
  · rw [left] at hk
    rw [Loop.moved_eq_some hk, Loop.channel_step]
    exact h.told l found
  · rw [movesOf_append, movesOf_of_eq found, left, now, List.append_assoc, List.singleton_append,
      ← Loop.farewell_step told due, ← h.moves, found]
    rfl
  · rw [left] at hk
    rw [Loop.moved_eq_some hk, now, Loop.endTime_step told, ← h.ends l found, due]

/-- What is not its own move leaves its last moves as they are. -/
theorem other (h : Leaving ticket moves time ms f) (timely : a.Timely f)
    (other : a ≠ .move ticket) :
    Leaving ticket moves time (ms ++ a.moments f) (a.apply f) := by
  have left : (a.apply f).loop? ticket = f.loop? ticket := by
    rw [h.sound.loop?_apply h.old other]
    cases found : f.loop? ticket with
    | none => rfl
    | some l => rw [Option.map_some, l.hearing_of_sent (h.told l found)]
  have same : ∀ l ∈ f.loop? ticket, l.farewell (a.apply f).now = l.farewell f.now ∧
      l.endTime (a.apply f).now = l.endTime f.now := by
    intro l found
    rcases now_apply a f with now | ⟨time, rfl, later, now⟩
    · rw [now]
      exact ⟨rfl, rfl⟩
    · rw [now]
      have free : f.now < dueAt f.now l :=
        Nat.lt_of_lt_of_le later (timely l (mem_of_loop? found).1)
      exact Loop.farewell_later (h.isTold found) free time
  refine
    { sound := h.sound.apply _
      paced := (Paced.apply ⟨h.sound, h.paced⟩ timely).2
      old := Nat.lt_of_lt_of_le h.old (offered_le_apply _ f)
      told := by rw [left]; exact h.told
      moves := ?_
      ends := ?_ }
  · rw [movesOf_append, movesOf_of_ne other, List.append_nil, left, ← h.moves]
    cases found : f.loop? ticket with
    | none => rfl
    | some l => rw [Option.elim, Option.elim, (same l found).1]
  · rw [left]
    intro l found
    rw [(same l found).2]
    exact h.ends l found

theorem apply (h : Leaving ticket moves time ms f) (timely : a.Timely f) :
    Leaving ticket moves time (ms ++ a.moments f) (a.apply f) := by
  by_cases own : a = .move ticket
  · subst own
    cases found : f.loop? ticket with
    | none => simpa [Action.moments, Action.apply, found] using h
    | some l => exact h.move timely found
  · exact h.other timely own

/-- Once nothing is due until its end, the loop has gone. -/
theorem gone (h : Leaving ticket moves time ms f) (free : Free time f) :
    movesOf ticket ms = moves := by
  have none : f.loop? ticket = none := by
    rw [Option.eq_none_iff_forall_not_mem]
    intro l found
    have later := free l (mem_of_loop? found).1
    rw [Loop.dueAt_of_told (h.isTold found), h.ends l found] at later
    exact Nat.lt_irrefl _ later
  rw [← h.moves, none, Option.elim, List.append_nil]

end Leaving

/-- From now on a loop of a fleet makes its last moves and no others. -/
structure Ends (l : Loop) (f : Fleet) : Prop where
  /-- Whatever else happens, it makes no other moves, -/
  only : ∀ as, Timely as f → movesOf l.ticket (trace as f) <+: l.farewell f.now
  /-- no check is started by them, -/
  idle : ∀ m ∈ l.farewell f.now, m.1 ≠ .started
  /-- and all are made when the time of its end has passed. -/
  all : ∀ as, Timely as f → l.endTime f.now < (perform as f).now →
    movesOf l.ticket (trace as f) = l.farewell f.now
  /-- It is enough to sleep until then. -/
  sleep : ∀ d, l.endTime f.now ≤ f.now + d → ∃ as, Timely as f ∧ perform as f = f.sleep d ∧
    movesOf l.ticket (trace as f) = l.farewell f.now

theorem ends_of_told {f : Fleet} {l : Loop} (sound : Sound f) (paced : Paced f) (hl : l ∈ f.loops)
    (told : l.channel.sent = true) : Ends l f := by
  have found := sound.loop?_eq hl
  have start : Leaving l.ticket (l.farewell f.now) (l.endTime f.now) [] f :=
    { sound, paced
      old := sound.offered l hl
      told := fun k hk => by rw [found] at hk; cases hk; exact told
      moves := by rw [found]; rfl
      ends := fun k hk => by rw [found] at hk; cases hk; rfl }
  have leaving : ∀ as, Timely as f →
      Leaving l.ticket (l.farewell f.now) (l.endTime f.now) (trace as f) (perform as f) :=
    fun as timely => Timely.keeps (fun _ _ _ timely h => h.apply timely) [] f start timely
  refine
    { only := fun as timely => ⟨_, (leaving as timely).moves⟩
      idle := l.started_not_mem_farewell f.now
      all := fun as timely late => ?_
      sleep := fun d enough => ?_ }
  · have paced := (leaving as timely).paced
    exact (leaving as timely).gone fun k hk => Nat.lt_of_lt_of_le late (paced k hk).due
  · obtain ⟨as, timely, same, free⟩ := sleep_eq sound paced d
    refine ⟨as, timely, same, (leaving as timely).gone fun k hk => ?_⟩
    rw [same] at hk ⊢
    exact Nat.lt_of_le_of_lt enough (free k hk)

/-! ## A lone loop -/

namespace Loop

variable {l : Loop} {now limit : Duration}

/-- A loop that nobody tells to stop does not end. -/
theorem phase_step_of_untold (untold : l.isTold = false) (h : l.phase ≠ .exited) (now : Duration) :
    (l.step now).2.phase ≠ .exited := by
  cases phase : l.phase with
  | spawned => simp [step_spawned phase, wait]
  | waiting wake => simp [step_waiting phase untold]
  | checking done => simp [step_checking phase, wait]
  | exited => exact absurd phase h

/-- The moves of a lone loop until a time, and the loop that waits or checks beyond it. -/
structure Alone (limit : Duration) (ms : List (Move × Duration)) (l : Loop) : Prop where
  within : ∀ m ∈ ms, m.2 ≤ limit
  next : limit < dueAt limit l
  untold : l.isTold = false

/-- Enough fuel makes all moves until the limit. -/
theorem alone_movesUntil (fuel : Nat) (paced : l.Paced now) (within : now ≤ limit)
    (untold : l.isTold = false) (alive : l.phase ≠ .exited) (enough : l.budget limit now ≤ fuel) :
    Alone limit (movesUntil limit fuel now l).1 (movesUntil limit fuel now l).2 := by
  induction fuel generalizing now l with
  | zero =>
    have pos := l.budget_pos limit now
    omega
  | succ fuel ih =>
    by_cases due : dueAt now l ≤ limit
    · rw [movesUntil_due alive due]
      have there : l.Paced (dueAt now l) := paced.later (Nat.le_refl _)
      have next : dueAt (dueAt now l) l ≤ dueAt now l := by
        rw [dueAt_dueAt]
        exact Nat.le_refl _
      have falls := budget_step there next due
      have before : l.budget limit (dueAt now l) ≤ l.budget limit now := l.budget_mono paced.due
      rw [moved, if_neg alive, Option.elim] at falls
      obtain ⟨inside, beyond, still⟩ := ih (there.step next) due (by rwa [isTold_step])
        (phase_step_of_untold untold alive _) (by omega)
      exact ⟨List.forall_mem_cons.2 ⟨due, inside⟩, beyond, still⟩
    · have later : limit < dueAt now l := Nat.lt_of_not_le due
      have beyond : limit < dueAt limit l := by
        rwa [dueAt_of_lt (Nat.lt_of_le_of_lt within later)]
      rw [movesUntil_free later]
      exact ⟨List.forall_mem_nil _, beyond, untold⟩

/-- Until its end a loop that was told to stop makes its last moves. -/
theorem movesUntil_told (told : l.isTold = true) (ran : l.phase ≠ .spawned) :
    (movesUntil (l.endTime now) 2 now l).1 = l.ending now := by
  have never : ∀ time : Duration, ¬time < time := fun time => Nat.lt_irrefl _
  cases h : l.phase with
  | spawned => exact absurd h ran
  | waiting wake =>
    simp [movesUntil, due?, ending, lastMoves, endTime, h, told, step_told h told, never]
  | checking done =>
    have still : (l.step done).2.isTold = true := by rwa [isTold_step]
    have first : (l.step done).1 = .finished := by rw [step_checking h]
    obtain ⟨wake, waits⟩ : ∃ wake, (l.step done).2.phase = .waiting wake := by
      rw [step_checking h]
      exact ⟨_, rfl⟩
    simp [movesUntil, due?, ending, lastMoves, endTime, h, first, still, waits,
      step_told waits still, never]
  | exited => simp [movesUntil, due?, ending, lastMoves, h]

/-- What a lone loop does that is told to stop, in whichever way: what it did until then, and its
last moves. -/
theorem movesTold_eq {how : Channel → Channel} (ready : ∀ c, (how c).isReady = true) {c : Cycle}
    {stop : Duration} {before : List (Move × Duration)}
    (untold : movesUntil stop (moveBound stop) .zero (spawn 0 c) = (before, l))
    (alone : Alone stop before l) : movesTold how c stop = before ++ l.ending stop := by
  have told : (l.tell how).isTold = true := ready l.channel
  have next := alone.next
  have ran : l.phase ≠ .spawned := by
    intro h
    rw [dueAt_spawned h] at next
    exact Nat.lt_irrefl _ next
  have alive : l.phase ≠ .exited := by
    intro h
    rw [dueAt_exited h] at next
    exact Nat.lt_irrefl _ next
  have due : (l.tell how).due? stop = some ((l.tell how).endTime stop) := by
    rw [due?_eq_some (by exact alive), dueAt_of_told told]
  rw [movesTold, untold, movesFrom, due]
  dsimp only
  rw [movesUntil_told told (by exact ran)]
  rfl

end Loop

/-- A lone loop to whose stop channel something happens at the time `stop`, after the moves
`before`, makes its last moves and no others. -/
structure EndsAlone (how : Channel → Channel) (c : Cycle) (stop : Duration)
    (before : List (Move × Duration)) (l : Loop) : Prop where
  untold : Loop.movesUntil stop (Loop.moveBound stop) .zero (Loop.spawn 0 c) = (before, l)
  /-- Its next move would have been later. -/
  alone : Loop.Alone stop before l
  moves : Loop.movesTold how c stop = before ++ l.ending stop
  idle : ∀ m ∈ l.ending stop, m.1 ≠ .started

theorem endsAlone {how : Channel → Channel} (ready : ∀ c, (how c).isReady = true) (c : Cycle)
    (stop : Duration) : ∃ before l, EndsAlone how c stop before l := by
  have alone := Loop.alone_movesUntil (Loop.moveBound stop) (Loop.paced_spawn 0 c .zero)
    (Nat.zero_le _ : Duration.zero ≤ stop) rfl nofun ((Loop.spawn 0 c).budget_le stop .zero)
  rcases untold : Loop.movesUntil stop (Loop.moveBound stop) .zero (Loop.spawn 0 c) with ⟨before, l⟩
  rw [untold] at alone
  refine ⟨before, l, untold, alone, Loop.movesTold_eq ready untold alone, fun m hm => ?_⟩
  exact l.started_not_mem_farewell stop m (List.mem_append_left _ hm)

/-- The message itself does not change what is left to do. -/
theorem Ends.of_signal {f : Fleet} {l : Loop} (h : Ends l.signal f) : Ends l f :=
  ⟨h.only, h.idle, h.all, h.sleep⟩

/-- A stop that is granted tells the loop that holds the slot. -/
theorem ends_of_stop {f : Fleet} (sound : Sound f) (paced : Paced f) {id : Int64}
    (granted : (f.stop id).1 = true) :
    ∃ l ∈ f.loops, f.slot? id = some l.slot ∧ Ends l (f.stop id).2 := by
  cases found : f.holder? id with
  | none =>
    have refused : (f.stop id).1 = false := by rw [Fleet.stop, sound.slot?_eq, found]; rfl
    rw [refused] at granted
    cases granted
  | some l =>
    obtain ⟨hl, own⟩ := mem_of_holder? found
    have told : l.signal ∈ (f.stop id).2.loops := by
      rw [sound.loops_stop, List.mem_map]
      exact ⟨l, hl, by simp [Loop.hearing, own]⟩
    have paced := paced.hearing (sound.loops_stop id) (now_stop id f)
    have ends := ends_of_told (sound.stop id) paced told rfl
    exact ⟨l, hl, by rw [sound.slot?_eq, found]; rfl, ends.of_signal⟩

theorem ends_of_stopAll {f : Fleet} (sound : Sound f) (paced : Paced f) {l : Loop}
    (hl : l ∈ f.loops) : Ends l f.stopAll := by
  have told : l.signal ∈ f.stopAll.loops := by
    rw [sound.loops_stopAll]
    exact List.mem_map_of_mem hl
  have ends := ends_of_told sound.stopAll (paced.hearing sound.loops_stopAll rfl) told rfl
  exact ends.of_signal

/-- Whatever the order of operations and moves, the checks of an id are made one by one. In a timely
history a loop that is told to stop, one by one or with all others, starts no check any more and
ends at once or with the check in flight; and so does a lone loop, whether the message was sent to
it or its channel closed. -/
theorem oneByOne_and_ends (as : List Action) :
    (∀ id, OneByOne (checksOf id (trace as {}))) ∧
      (Timely as {} → ∀ id, ((perform as {}).stop id).1 = true →
        ∃ l ∈ (perform as {}).loops, (perform as {}).slot? id = some l.slot ∧
          Ends l ((perform as {}).stop id).2) ∧
      (Timely as {} → ∀ l ∈ (perform as {}).loops, Ends l (perform as {}).stopAll) ∧
      ∀ how ∈ [Channel.send, Channel.close], ∀ c stop, ∃ before l,
        EndsAlone how c stop before l := by
  have sound := sound_perform .empty as
  refine ⟨fun id => oneByOne_trace id as, fun timely id granted => ?_, fun timely l hl => ?_,
    fun how told c stop => ?_⟩
  · exact ends_of_stop sound (paced_perform timely) granted
  · exact ends_of_stopAll sound (paced_perform timely) hl
  · refine endsAlone (fun channel => ?_) c stop
    rcases List.mem_pair.1 told with rfl | rfl
    · exact channel.isReady_send
    · exact channel.isReady_close

/-- Checks of five seconds, the first of them after 700 ms. -/
def visit : Cycle :=
  { id := 7, name := "visit", interval := 10, takes := fun _ => .ofSeconds 5,
    online := fun _ => true }

/-- The history of a loop until the middle of its first check. -/
def visiting : List Action :=
  [.add visit, .move 0, .pass (.ofMillis 700), .move 0, .pass (.ofSeconds 2)]

/-- Told to stop in the middle of a check, the loop ends with it. -/
theorem oneByOne_and_ends_visiting : Timely visiting {} ∧ ((perform visiting {}).stop 7).1 = true ∧
    ∃ l, Ends l ((perform visiting {}).stop 7).2 ∧ l.farewell (.ofSeconds 2) =
      [(.finished, .ofMillis 5700), (.stopped, .ofMillis 5700), (.none, .ofMillis 5700)] := by
  have timely : Timely visiting {} := by
    refine ⟨trivial, ?_, ?_, ?_, ?_, trivial⟩
    · rintro l ⟨⟩
      decide
    · intro l hl
      obtain rfl := List.mem_singleton.1 hl
      decide
    · rintro l ⟨⟩
      decide
    · intro l hl
      obtain rfl := List.mem_singleton.1 hl
      decide
  obtain ⟨-, stops, -⟩ := oneByOne_and_ends visiting
  obtain ⟨l, hl, -, ends⟩ := stops timely 7 rfl
  obtain rfl := List.mem_singleton.1 hl
  exact ⟨timely, rfl, _, ends, rfl⟩

end Uptime.Fleet
