import Uptime.Proofs.Fleet.Tracked

/-!
# Targets do not disturb each other

A history of operations is for an id what it is in the lane of that id (`Tracked.play`), and the
lane takes no notice of what concerns other ids only. So the answers about an id and the times of
its checks are the same if all of that is left out (`undisturbed`).
-/

namespace Uptime.Fleet

/-- What can be asked of a fleet, and the passing of time. -/
inductive Operation where
  | add (c : Cycle)
  | launch (cs : List Cycle)
  | stop (id : Int64)
  | stopAll
  | isRunning (id : Int64)
  | sleep (d : Duration)

namespace Operation

/-- The fleet after an operation. -/
def apply (f : Fleet) : Operation → Fleet
  | .add c => (f.add c).2
  | .launch cs => (f.launch cs).2
  | .stop id => (f.stop id).2
  | .stopAll => f.stopAll
  | .isRunning _ => f
  | .sleep d => f.sleep d

/-- The answer to an operation about an id. -/
def answer? (id : Int64) (f : Fleet) : Operation → Option Bool
  | .add c => if c.id = id then some (f.add c).1 else none
  | .stop i => if i = id then some (f.stop i).1 else none
  | .isRunning i => if i = id then some (f.isRunning i) else none
  | _ => none

/-- The cycles that an operation offers. -/
def offers : Operation → List Cycle
  | .add c => [c]
  | .launch cs => cs
  | _ => []

/-- What of an operation concerns an id. -/
def about? (id : Int64) : Operation → Option Operation
  | .add c => if c.id = id then some (.add c) else none
  | .launch cs => some (.launch (cs.filter (·.id == id)))
  | .stop i => if i = id then some (.stop i) else none
  | .stopAll => some .stopAll
  | .isRunning i => if i = id then some (.isRunning i) else none
  | .sleep d => some (.sleep d)

/-- The lane of an id after an operation. -/
def pass (id : Int64) (v : Lane) : Operation → Lane
  | .add c => if c.id = id then v.add c else v
  | .launch cs => (cs.filter (·.id == id)).foldl (fun v c => v.add c) v
  | .stop i => if i = id then v.signal else v
  | .stopAll => v.signal
  | .isRunning _ => v
  | .sleep d => v.passUntil (v.now + d) (Loop.moveBound (v.now + d))

/-- The answer to an operation about an id, as it is known in the lane. -/
def reply? (id : Int64) (v : Lane) : Operation → Option Bool
  | .add c => if c.id = id then some v.loop?.isNone else none
  | .stop i => if i = id then some (v.loop?.any fun l => !l.channel.sent) else none
  | .isRunning i => if i = id then some v.loop?.isSome else none
  | _ => none

end Operation

/-- The fleet after a history of operations. -/
def play : List Operation → Fleet → Fleet
  | [], f => f
  | o :: os, f => play os (o.apply f)

/-- The answers about an id in a history of operations. -/
def answers (id : Int64) : List Operation → Fleet → List Bool
  | [], _ => []
  | o :: os, f => (o.answer? id f).toList ++ answers id os (o.apply f)

/-- What of a history concerns an id. -/
def about (id : Int64) (os : List Operation) : List Operation := os.filterMap (·.about? id)

/-- When the checks of all cycles of an id started and when they were finished, in the order in
which the cycles were offered. -/
def checkTimes (id : Int64) (os : List Operation) : List (List Duration × List Duration) :=
  (numbersOf id 0 (os.flatMap Operation.offers)).map fun n =>
    ((play os {}).starts n, (play os {}).finishes n)

/-! ## The lane after a history -/

namespace Lane

/-- The lane of an id after a history. -/
def play (id : Int64) : List Operation → Lane → Lane
  | [], v => v
  | o :: os, v => play id os (o.pass id v)

/-- The answers about an id, as they are known in its lane. -/
def replies (id : Int64) : List Operation → Lane → List Bool
  | [], _ => []
  | o :: os, v => (o.reply? id v).toList ++ replies id os (o.pass id v)

/-- What does not concern an id changes nothing in its lane and has no answer there. -/
theorem pass_about (id : Int64) (v : Lane) (o : Operation) :
    (o.about? id).elim v (·.pass id v) = o.pass id v ∧
      ((o.about? id).bind fun kept => kept.reply? id v) = o.reply? id v := by
  unfold Operation.about? Operation.pass Operation.reply?
  cases o with
  | add c => by_cases own : c.id = id <;> simp [own]
  | launch cs => simp
  | stop i => by_cases own : i = id <;> simp [own]
  | isRunning i => by_cases own : i = id <;> simp [own]
  | stopAll => exact ⟨rfl, rfl⟩
  | sleep d => exact ⟨rfl, rfl⟩

theorem play_about (id : Int64) (os : List Operation) (v : Lane) :
    play id (about id os) v = play id os v ∧ replies id (about id os) v = replies id os v := by
  induction os generalizing v with
  | nil => exact ⟨rfl, rfl⟩
  | cons o os ih =>
    obtain ⟨passed, replied⟩ := pass_about id v o
    cases kept : o.about? id with
    | none =>
      rw [kept] at passed replied
      have shorter : about id (o :: os) = about id os := List.filterMap_cons_none kept
      have same : o.pass id v = v := passed.symm
      have silent : o.reply? id v = none := replied.symm
      rw [shorter, play, replies, same, silent]
      exact ih v
    | some o' =>
      rw [kept] at passed replied
      have first : about id (o :: os) = o' :: about id os := List.filterMap_cons_some kept
      have same : o'.pass id v = o.pass id v := passed
      have said : o'.reply? id v = o.reply? id v := replied
      rw [first, play, play, replies, replies, same, said, (ih _).1, (ih _).2]
      exact ⟨rfl, rfl⟩

end Lane

theorem offered_addAll (cs : List Cycle) (f : Fleet) :
    (addAll cs f).2.offered = f.offered + cs.length := by
  induction cs generalizing f with
  | nil => rfl
  | cons c cs ih =>
    have rest := ih (f.add c).2
    rw [offered_add] at rest
    rw [List.length_cons]
    exact rest.trans (by omega)

theorem offered_runUntil (limit : Duration) (fuel : Nat) (f : Fleet) :
    (runUntil limit fuel f).offered = f.offered := by
  induction fuel generalizing f with
  | zero => rfl
  | succ fuel ih =>
    unfold runUntil
    split
    · rfl
    · dsimp only
      split
      · rfl
      · rw [ih, offered_move]
        rfl

theorem offered_operation (o : Operation) (f : Fleet) :
    (o.apply f).offered = f.offered + o.offers.length := by
  cases o with
  | add c => exact offered_add c f
  | launch cs => exact offered_addAll cs _
  | stop i => exact offered_stop i f
  | stopAll => rfl
  | isRunning i => rfl
  | sleep d => exact offered_runUntil _ _ f

namespace Tracked

variable {id : Int64} {numbers : List Nat} {f : Fleet}

/-- An operation is for the lane what it is there alone. -/
theorem apply (h : Tracked id numbers f) (o : Operation) :
    Tracked id (numbers ++ numbersOf id f.offered o.offers) (o.apply f) ∧
      lane id (numbers ++ numbersOf id f.offered o.offers) (o.apply f) =
        o.pass id (lane id numbers f) := by
  have quiet : numbers ++ numbersOf id f.offered [] = numbers := List.append_nil numbers
  cases o with
  | add c => exact ⟨h.add c, h.lane_add c⟩
  | launch cs =>
    have offered := (h.note cs.length).addAll cs
    rwa [lane_note] at offered
  | stop i => exact quiet.symm ▸ ⟨h.stop i, h.lane_stop i⟩
  | stopAll => exact quiet.symm ▸ ⟨h.stopAll, h.lane_stopAll⟩
  | isRunning i => exact quiet.symm ▸ ⟨h, rfl⟩
  | sleep d => exact quiet.symm ▸ h.sleep d

/-- The answers about an id are known in its lane. -/
theorem answer? (h : Tracked id numbers f) (o : Operation) :
    o.answer? id f = o.reply? id (lane id numbers f) := by
  have slot : f.slot? id = (f.holder? id).map Loop.slot := h.sound.slot?_eq id
  cases o with
  | add c =>
    by_cases own : c.id = id
    · subst own
      simp only [Operation.answer?, Operation.reply?, Fleet.add, slot, lane]
      cases f.holder? c.id <;> rfl
    · simp only [Operation.answer?, Operation.reply?, if_neg own]
  | stop i =>
    by_cases own : i = id
    · subst own
      simp only [Operation.answer?, Operation.reply?, Fleet.stop, slot, lane]
      cases f.holder? i with
      | none => rfl
      | some l => cases sent : l.channel.sent <;> simp [Loop.slot, Loop.renumber, sent]
    · simp only [Operation.answer?, Operation.reply?, if_neg own]
  | isRunning i =>
    by_cases own : i = id
    · subst own
      simp only [Operation.answer?, Operation.reply?, isRunning, slot, lane, Option.isSome_map]
    · simp only [Operation.answer?, Operation.reply?, if_neg own]
  | _ => rfl

theorem play (h : Tracked id numbers f) (os : List Operation) :
    lane id (numbers ++ numbersOf id f.offered (os.flatMap Operation.offers)) (Fleet.play os f) =
        Lane.play id os (lane id numbers f) ∧
      answers id os f = Lane.replies id os (lane id numbers f) := by
  induction os generalizing numbers f with
  | nil => exact ⟨by rw [List.flatMap_nil, numbersOf, List.append_nil]; rfl, rfl⟩
  | cons o os ih =>
    obtain ⟨tracked, same⟩ := h.apply o
    obtain ⟨lanes, replies⟩ := ih tracked
    rw [offered_operation, List.append_assoc, ← numbersOf_append, ← List.flatMap_cons, same]
      at lanes
    refine ⟨lanes, ?_⟩
    rw [answers, Lane.replies, h.answer?, replies, same]

end Tracked

/-! ## The times of the checks -/

theorem starts_eq (ticket : Nat) (f : Fleet) :
    f.starts ticket = timesOf .started (f.report ticket) := by
  rw [starts, timesOf, report, List.filterMap_filterMap]
  refine List.filterMap_congr fun e _ => ?_
  cases e with
  | started k time => by_cases own : k = ticket <;> simp [Event.check?, own]
  | finished k time => by_cases own : k = ticket <;> simp [Event.check?, own]
  | _ => rfl

theorem finishes_eq (ticket : Nat) (f : Fleet) :
    f.finishes ticket = timesOf .finished (f.report ticket) := by
  rw [finishes, timesOf, report, List.filterMap_filterMap]
  refine List.filterMap_congr fun e _ => ?_
  cases e with
  | started k time => by_cases own : k = ticket <;> simp [Event.check?, own]
  | finished k time => by_cases own : k = ticket <;> simp [Event.check?, own]
  | _ => rfl

/-- In a history, the times of the checks of an id are known in its lane, and so are the answers. -/
theorem play_eq (id : Int64) (os : List Operation) :
    checkTimes id os = (Lane.play id os {}).reports.map
        (fun ms => (timesOf .started ms, timesOf .finished ms)) ∧
      answers id os {} = Lane.replies id os {} := by
  obtain ⟨lanes, replies⟩ := (Tracked.empty id).play os
  have start : lane id [] {} = {} := rfl
  rw [start] at lanes replies
  refine ⟨?_, replies⟩
  rw [← lanes]
  simp only [checkTimes, starts_eq, finishes_eq, lane, List.map_map, List.nil_append]
  rfl

/-- The answers about an id and the times of all its checks stay the same if everything is left out
of a history that concerns other ids only, whatever their cycles are and whenever they are
stopped. -/
theorem undisturbed (id : Int64) (os : List Operation) :
    answers id (about id os) {} = answers id os {} ∧
      checkTimes id (about id os) = checkTimes id os := by
  obtain ⟨lanes, replies⟩ := Lane.play_about id os {}
  obtain ⟨times, answered⟩ := play_eq id os
  obtain ⟨times', answered'⟩ := play_eq id (about id os)
  rw [times, times', answered, answered', lanes, replies]
  exact ⟨rfl, rfl⟩

/-- A target is checked every second while the long check of another one goes on, which is told to
stop. Its second cycle is refused. -/
example :
    let c : Cycle :=
      { id := 0, name := "a", interval := 1, takes := fun _ => .zero, online := fun _ => true }
    let long : Cycle := { c with id := 3, takes := fun _ => .ofSeconds 9 }
    let seconds : List Duration := [.zero, .ofSeconds 1, .ofSeconds 2]
    checkTimes 0 [.launch [long, c], .sleep (.ofMillis 1500), .stop 3, .add c,
      .sleep (.ofSeconds 1)] = [(seconds, seconds), ([], [])] := by
  rfl

end Uptime.Fleet
