import Uptime.Fleet.Loop
import Uptime.Log

/-!
# The fleet of check loops

Every running loop holds a slot under the id of its target. A slot lives until its loop has ended,
so a target never has two loops, not even while one of them comes to its end; if a check breaks off,
its loop is gone but the slot stays. What happens is kept as a history of events, from which the log
and the times of the checks are read.
-/

namespace Uptime.Fleet

/-- The place that a running loop holds. -/
structure Slot where
  id : Int64
  /-- The number of the loop at the other end of the slot's stop channel. -/
  ticket : Nat
  /-- Whether the loop has been told to stop. -/
  stopping : Bool := false
deriving DecidableEq, Repr

/-- Something that happened. A cycle is named by the number it got when it was offered. -/
inductive Event where
  /-- Many cycles are about to be offered. -/
  | launching (count : Nat)
  | added (ticket : Nat) (name : String)
  | refused (ticket : Nat) (name : String) (stopping : Bool)
  | stopping (id : Int64)
  | stoppingAll (count : Nat)
  | started (ticket : Nat) (time : Duration)
  | finished (ticket : Nat) (time : Duration)
  | stopped (ticket : Nat) (name : String)
deriving DecidableEq, Repr

/-- The line of the log for an event, if there is one. -/
def Event.line? : Event → Option Log.Entry
  | .launching count => info ("Starting scheduler with " ++ decimal count ++ " targets")
  | .added _ name => info ("Scheduler: Adding target " ++ name)
  | .refused _ name true => warn ("Scheduler: " ++ name ++ " is still stopping")
  | .refused _ name false => warn ("Scheduler: " ++ name ++ " is already running")
  | .stopping id => info ("Scheduler: Stopping target " ++ String.ofList (Number.signed id.toInt))
  | .stoppingAll count => info ("Scheduler: Stopping " ++ decimal count ++ " targets")
  | .stopped _ name => info ("Scheduler: Stopped checking " ++ name)
  | .started .. | .finished .. => none
where
  decimal (n : Nat) : String := String.ofList (Number.digits n)
  info (message : String) : Option Log.Entry :=
    some { level := .info, source := .scheduler, message }
  warn (message : String) : Option Log.Entry :=
    some { level := .warn, source := .scheduler, message }

end Fleet

/-- The loops of all targets. -/
structure Fleet where
  slots : List Fleet.Slot := []
  loops : List Fleet.Loop := []
  /-- The number of cycles that were offered so far. -/
  offered : Nat := 0
  now : Duration := .zero
  /-- What happened, the latest first. -/
  history : List Fleet.Event := []

namespace Fleet

/-- The slot of an id. -/
def slot? (id : Int64) (f : Fleet) : Option Slot := f.slots.find? (·.id == id)

/-- Whether a loop of this id is alive, told to stop or not. -/
def isRunning (id : Int64) (f : Fleet) : Bool := (f.slot? id).isSome

/-- The ids of all live loops in ascending order. -/
def running (f : Fleet) : List Int64 := (f.slots.map (·.id)).mergeSort (· ≤ ·)

/-- Takes down that something happened. -/
def note (e : Event) (f : Fleet) : Fleet := { f with history := e :: f.history }

/-- Starts a loop for a cycle, unless its id still has one. -/
def add (c : Cycle) (f : Fleet) : Bool × Fleet :=
  let ticket := f.offered
  match f.slot? c.id with
  | some slot =>
    (false, ({ f with offered := ticket + 1 } : Fleet).note (.refused ticket c.name slot.stopping))
  | none =>
    let taken : Fleet := { f with
      offered := ticket + 1
      slots := f.slots ++ [{ id := c.id, ticket }]
      loops := f.loops ++ [Loop.spawn ticket c] }
    (true, taken.note (.added ticket c.name))

/-- Offers cycles one after the other and counts those that were taken. -/
def addAll : List Cycle → Fleet → Nat × Fleet
  | [], f => (0, f)
  | c :: cs, f =>
    let (taken, f) := f.add c
    let (count, f) := addAll cs f
    (count + (if taken then 1 else 0), f)

/-- Starts a loop for every cycle whose id has none, and counts them. -/
def launch (cs : List Cycle) (f : Fleet) : Nat × Fleet := addAll cs (f.note (.launching cs.length))

/-- Sends the stop message along the channels of the chosen slots and marks these slots. -/
def signal (chosen : Slot → Bool) (f : Fleet) : Fleet :=
  { f with
    slots := f.slots.map fun s => if chosen s then { s with stopping := true } else s
    loops := f.loops.map fun l =>
      if f.slots.any fun s => s.ticket == l.ticket && chosen s then l.signal else l }

/-- Tells the loop of an id to stop. This is refused if there is none or if it was told already. -/
def stop (id : Int64) (f : Fleet) : Bool × Fleet :=
  match f.slot? id with
  | some { stopping := false, .. } => (true, (f.signal (·.id == id)).note (.stopping id))
  | _ => (false, f)

/-- Tells all loops to stop that were not told yet. -/
def stopAll (f : Fleet) : Fleet :=
  (f.signal fun s => !s.stopping).note (.stoppingAll f.slots.length)

/-- Clears away a loop that has ended, and the slot of its id. -/
def clear (l : Loop) (f : Fleet) : Fleet :=
  { f with
    slots := f.slots.filter fun s => !(s.id == l.cycle.id)
    loops := f.loops.filter fun k => !(k.ticket == l.ticket) }

/-- What a move of a loop leaves in the history. -/
def eventOf (l : Loop) (now : Duration) : Move → Option Event
  | .started => some (.started l.ticket now)
  | .finished => some (.finished l.ticket now)
  | .stopped => some (.stopped l.ticket l.cycle.name)
  | .woke | .none => none

/-- One move of a loop at the present time. A loop that has ended is cleared away by the next. -/
def move (l : Loop) (f : Fleet) : Fleet :=
  match l.phase with
  | .exited => f.clear l
  | _ =>
    let (m, after) := l.step f.now
    let f : Fleet :=
      { f with loops := f.loops.map fun k => if k.ticket == l.ticket then after else k }
    match eventOf l f.now m with
    | some e => f.note e
    | none => f

/-- Drops a loop whose check broke off. Nothing clears its slot away any more. -/
def lose (l : Loop) (f : Fleet) : Fleet :=
  { f with loops := f.loops.filter fun k => !(k.ticket == l.ticket) }

@[simp] theorem slots_note (e : Event) (f : Fleet) : (f.note e).slots = f.slots := rfl
@[simp] theorem loops_note (e : Event) (f : Fleet) : (f.note e).loops = f.loops := rfl
@[simp] theorem offered_note (e : Event) (f : Fleet) : (f.note e).offered = f.offered := rfl
@[simp] theorem now_note (e : Event) (f : Fleet) : (f.note e).now = f.now := rfl
@[simp] theorem history_note (e : Event) (f : Fleet) : (f.note e).history = e :: f.history := rfl

theorem move_exited {l : Loop} (h : l.phase = .exited) (f : Fleet) : f.move l = f.clear l := by
  simp only [move, h]

/-- A move of a loop that has not ended puts the moved loop in its place and takes the event down. -/
theorem move_eq {l : Loop} (h : l.phase ≠ .exited) (f : Fleet) :
    f.move l =
      { f with
        loops := f.loops.map fun k => if k.ticket == l.ticket then (l.step f.now).2 else k
        history := (eventOf l f.now (l.step f.now).1).toList ++ f.history } := by
  unfold move
  split
  · contradiction
  · dsimp only
    cases eventOf l f.now (l.step f.now).1 <;> rfl

@[simp] theorem now_move (l : Loop) (f : Fleet) : (f.move l).now = f.now := by
  by_cases h : l.phase = .exited
  · rw [move_exited h]; rfl
  · rw [move_eq h]

@[simp] theorem offered_move (l : Loop) (f : Fleet) : (f.move l).offered = f.offered := by
  by_cases h : l.phase = .exited
  · rw [move_exited h]; rfl
  · rw [move_eq h]

/-- The time of a loop's next move in the fleet. -/
def dueAt (now : Duration) (l : Loop) : Duration := (l.due? now).getD now

/-- The loop whose move is due first; of several the one that was offered first. -/
def earliest? (now : Duration) : List Loop → Option Loop
  | [] => none
  | l :: ls =>
    match earliest? now ls with
    | none => some l
    | some k => if dueAt now k < dueAt now l then some k else some l

/-- Moves the clock forward to a time. -/
def advanceTo (time : Duration) (f : Fleet) : Fleet :=
  { f with now := if f.now < time then time else f.now }

/-- Makes the moves that are due until a time. -/
def runUntil (limit : Duration) : Nat → Fleet → Fleet
  | 0, f => f
  | fuel + 1, f =>
    match earliest? f.now f.loops with
    | none => f
    | some l =>
      let time := dueAt f.now l
      if limit < time then f else runUntil limit fuel ((f.advanceTo time).move l)

/-- Lets time pass. -/
def sleep (d : Duration) (f : Fleet) : Fleet :=
  let limit := f.now + d
  { runUntil limit (f.loops.length * (Loop.moveBound limit + 1)) f with now := limit }

/-- When the checks of a cycle started, in order. -/
def starts (ticket : Nat) (f : Fleet) : List Duration :=
  f.history.reverse.filterMap fun e => match e with
    | .started k time => if k = ticket then some time else none
    | _ => none

/-- When the checks of a cycle were finished, in order. -/
def finishes (ticket : Nat) (f : Fleet) : List Duration :=
  f.history.reverse.filterMap fun e => match e with
    | .finished k time => if k = ticket then some time else none
    | _ => none

/-- The log of what happened after the first `seen` events. -/
def logSince (seen : Nat) (f : Fleet) : List Log.Entry :=
  (f.history.reverse.drop seen).filterMap Event.line?

end Fleet

end Uptime
