import Uptime.Fleet.Basic

/-!
# Histories of a fleet

What can happen to a fleet is an `Action`: an operation of the fleet, a move of one of its loops, or
the passing of time. A history is a list of actions in any order; `perform` plays it and `trace`
takes down the moves of the loops with their times. Nothing ties a move to the time at which it is
due in a history as such. A history is `Timely` if it has the order of real time: a loop moves when
its move is due, and no time passes beyond a move that is due.
-/

namespace Uptime.Fleet

/-- What can happen to a fleet. -/
inductive Action where
  | add (c : Cycle)
  /-- So many cycles are going to be offered, one by one. -/
  | announce (count : Nat)
  | launch (cs : List Cycle)
  | stop (id : Int64)
  | stopAll
  /-- The loop with this number makes its next move. -/
  | move (ticket : Nat)
  /-- Time passes until this time. -/
  | pass (time : Duration)

/-- One move that a loop made. -/
structure Moment where
  time : Duration
  id : Int64
  ticket : Nat
  move : Move
deriving DecidableEq, Repr

/-- The loop with a number, as long as it is not cleared away. -/
def loop? (ticket : Nat) (f : Fleet) : Option Loop := f.loops.find? (·.ticket == ticket)

namespace Action

/-- The fleet after an action. -/
def apply (f : Fleet) : Action → Fleet
  | .add c => (f.add c).2
  | .announce count => f.note (.launching count)
  | .launch cs => (f.launch cs).2
  | .stop id => (f.stop id).2
  | .stopAll => f.stopAll
  | .move ticket => (f.loop? ticket).elim f f.move
  | .pass time => f.advanceTo time

/-- The moves that an action consists of. -/
def moments (f : Fleet) : Action → List Moment
  | .move ticket =>
    (f.loop? ticket).toList.map fun l => ⟨f.now, l.cycle.id, l.ticket, (l.step f.now).1⟩
  | _ => []

/-- Whether an action keeps to the order of real time. -/
def Timely (f : Fleet) : Action → Prop
  | .move ticket => ∀ l ∈ f.loop? ticket, dueAt f.now l ≤ f.now
  | .pass time => ∀ l ∈ f.loops, time ≤ dueAt f.now l
  | _ => True

end Action

/-- The fleet after a history. -/
def perform : List Action → Fleet → Fleet
  | [], f => f
  | a :: as, f => perform as (a.apply f)

/-- The moves of the loops in a history. -/
def trace : List Action → Fleet → List Moment
  | [], _ => []
  | a :: as, f => a.moments f ++ trace as (a.apply f)

/-- Whether a history has the order of real time. -/
def Timely : List Action → Fleet → Prop
  | [], _ => True
  | a :: as, f => a.Timely f ∧ Timely as (a.apply f)

/-- The moves of one loop in a trace, with their times. -/
def movesOf (ticket : Nat) (ms : List Moment) : List (Move × Duration) :=
  ms.filterMap fun m => if m.ticket = ticket then some (m.move, m.time) else none

/-- When the moves of one kind were made. -/
def timesOf (move : Move) (ms : List (Move × Duration)) : List Duration :=
  ms.filterMap fun m => if m.1 = move then some m.2 else none

theorem perform_append (as bs : List Action) (f : Fleet) :
    perform (as ++ bs) f = perform bs (perform as f) := by
  induction as generalizing f with
  | nil => rfl
  | cons a as ih => exact ih _

theorem timely_append {as bs : List Action} {f : Fleet} :
    Timely (as ++ bs) f ↔ Timely as f ∧ Timely bs (perform as f) := by
  induction as generalizing f with
  | nil => exact ⟨fun h => ⟨trivial, h⟩, fun h => h.2⟩
  | cons a as ih =>
    simp only [List.cons_append, Timely, perform, ih, and_assoc]

theorem movesOf_append (ticket : Nat) (ms ns : List Moment) :
    movesOf ticket (ms ++ ns) = movesOf ticket ms ++ movesOf ticket ns :=
  List.filterMap_append

/-- What the announcement and every single offer keep, a launch keeps. -/
theorem launch_keeps {P : Fleet → Prop} (note : ∀ f count, P f → P (f.note (.launching count)))
    (add : ∀ f c, P f → P (f.add c).2) {f : Fleet} (cs : List Cycle) (h : P f) :
    P (f.launch cs).2 := by
  have offers : ∀ cs f, P f → P (addAll cs f).2 := by
    intro cs
    induction cs with
    | nil => exact fun f h => h
    | cons c cs ih => exact fun f h => ih _ (add f c h)
  exact offers cs _ (note f cs.length h)

/-- What the operations of a fleet, the passing of time and the move of a loop keep, an action
keeps. The moves made so far may be part of it. -/
theorem Action.keeps {P : List Moment → Fleet → Prop} (ms : List Moment) {f : Fleet} (a : Action)
    (note : ∀ g count, P ms g → P ms (g.note (.launching count)))
    (add : ∀ g c, P ms g → P ms (g.add c).2) (stop : ∀ id, P ms f → P ms (f.stop id).2)
    (stopAll : P ms f → P ms f.stopAll)
    (pass : ∀ time, a = .pass time → P ms f → P ms (f.advanceTo time))
    (move : ∀ ticket l, a = .move ticket → f.loop? ticket = some l → P ms f →
      P (ms ++ [⟨f.now, l.cycle.id, l.ticket, (l.step f.now).1⟩]) (f.move l))
    (h : P ms f) : P (ms ++ a.moments f) (a.apply f) := by
  have quiet : ∀ g, P ms g → P (ms ++ []) g := fun g h => by rwa [List.append_nil]
  cases a with
  | add c => exact quiet _ (add f c h)
  | announce count => exact quiet _ (note f count h)
  | launch cs => exact quiet _ (launch_keeps note add cs h)
  | stop id => exact quiet _ (stop id h)
  | stopAll => exact quiet _ (stopAll h)
  | pass time => exact quiet _ (pass time rfl h)
  | move ticket =>
    cases found : f.loop? ticket with
    | none => simpa [Action.moments, Action.apply, found] using h
    | some l => simpa [Action.moments, Action.apply, found] using move ticket l rfl found h

/-- What every action keeps holds after every history. The moves made so far may be part of it. -/
theorem perform_keeps {P : List Moment → Fleet → Prop}
    (step : ∀ ms g (a : Action), P ms g → P (ms ++ a.moments g) (a.apply g))
    (ms : List Moment) (f : Fleet) (start : P ms f) (as : List Action) :
    P (ms ++ trace as f) (perform as f) := by
  induction as generalizing ms f with
  | nil => simpa [trace, perform] using start
  | cons a as ih => simpa [trace, perform] using ih _ _ (step ms f a start)

/-- What every action in the order of real time keeps holds after every timely history. -/
theorem Timely.keeps {P : List Moment → Fleet → Prop}
    (step : ∀ ms g (a : Action), a.Timely g → P ms g → P (ms ++ a.moments g) (a.apply g))
    (ms : List Moment) (f : Fleet) (start : P ms f) {as : List Action} (timely : Timely as f) :
    P (ms ++ trace as f) (perform as f) := by
  induction as generalizing ms f with
  | nil => simpa [trace, perform] using start
  | cons a as ih => simpa [trace, perform] using ih _ _ (step ms f a timely.1 start) timely.2

end Uptime.Fleet
