import Uptime.Cadence
import Uptime.Fleet.Channel
import Uptime.Target
import Uptime.Time.Timer

/-!
# The check loop of one target

A loop waits, checks, and waits again. Its stop channel is looked at only while the loop waits,
before the wait itself; a check in progress is always finished. `Loop.step` is one such move and
`Loop.due?` the time at which it is made.
-/

namespace Uptime.Fleet

/-- What a loop checks. -/
structure Cycle where
  id : Int64
  name : String
  /-- The interval in the unit of a target's interval. -/
  interval : Nat
  /-- How long the check with this number takes; the first has number 0. -/
  takes : Nat → Duration
  /-- Whether the check with this number finds the target online. -/
  online : Nat → Bool

/-- The time between two checks. -/
def Cycle.period (c : Cycle) : Duration := Target.periodOf c.interval

/-- Where a loop stands. -/
inductive Phase where
  /-- It was started and has not run yet. -/
  | spawned
  /-- It waits until this time. -/
  | waiting (wake : Duration)
  /-- It runs a check that ends at this time. -/
  | checking (done : Duration)
  /-- It has ended, and its slot is still there. -/
  | exited
deriving DecidableEq, Repr

/-- A loop, under the number that its cycle got when it was offered. -/
structure Loop where
  ticket : Nat
  cycle : Cycle
  cadence : Cadence
  /-- The number of checks that were started. -/
  checks : Nat := 0
  /-- Where the loop hears that it has to end. -/
  channel : Channel := {}
  phase : Phase := .spawned

/-- What a loop does in one move. -/
inductive Move where
  /-- It began its schedule. -/
  | woke
  /-- It started a check. -/
  | started
  /-- It finished a check. -/
  | finished
  /-- It heard that it has to end, and ended. -/
  | stopped
  /-- It has ended and does nothing any more. -/
  | none
deriving DecidableEq, Repr

namespace Loop

/-- A loop that has not run yet. -/
def spawn (ticket : Nat) (c : Cycle) : Loop :=
  { ticket, cycle := c, cadence := .start .zero c.period c.id }

/-- Whether the loop would hear that it has to end if it listened now. -/
def isTold (l : Loop) : Bool := l.channel.isReady

/-- The time of the next move, if there is one, for a loop that is looked at at the time `now`. -/
def due? (now : Duration) (l : Loop) : Option Duration :=
  match l.phase with
  | .spawned => some now
  | .waiting wake => some (if l.isTold then now else wake)
  | .checking done => some done
  | .exited => none

/-- The loop after its schedule said how long to wait. A loop that was told to end does not wait
at all. -/
def wait (now : Duration) (l : Loop) : Loop :=
  { l with phase := .waiting (now.wakeAfter l.cadence.sleep) }

/-- One move at the time `now`. -/
def step (now : Duration) (l : Loop) : Move × Loop :=
  match l.phase with
  | .spawned =>
    (.woke, { l with cadence := .start now l.cycle.period l.cycle.id }.wait now)
  | .waiting _ =>
    if l.isTold then (.stopped, { l with phase := .exited })
    else
      (.started, { l with
        checks := l.checks + 1
        phase := .checking (now + l.cycle.takes l.checks) })
  | .checking _ =>
    (.finished,
      { l with cadence := l.cadence.advance now (l.cycle.online (l.checks - 1)) }.wait now)
  | .exited => (.none, l)

/-- The loop after something happened to its stop channel. -/
def tell (how : Channel → Channel) (l : Loop) : Loop := { l with channel := how l.channel }

/-- The loop with the stop message sent. -/
def signal (l : Loop) : Loop := l.tell .send

@[simp] theorem ticket_tell (how : Channel → Channel) (l : Loop) :
    (l.tell how).ticket = l.ticket := rfl
@[simp] theorem cycle_tell (how : Channel → Channel) (l : Loop) :
    (l.tell how).cycle = l.cycle := rfl
@[simp] theorem phase_tell (how : Channel → Channel) (l : Loop) :
    (l.tell how).phase = l.phase := rfl
@[simp] theorem isTold_signal (l : Loop) : l.signal.isTold = true := rfl

theorem step_spawned {l : Loop} (h : l.phase = .spawned) (now : Duration) :
    l.step now =
      (.woke, { l with cadence := .start now l.cycle.period l.cycle.id }.wait now) := by
  simp only [step, h]

theorem step_told {l : Loop} {wake : Duration} (h : l.phase = .waiting wake)
    (told : l.isTold = true) (now : Duration) :
    l.step now = (.stopped, { l with phase := .exited }) := by
  simp only [step, h, told, if_true]

theorem step_waiting {l : Loop} {wake : Duration} (h : l.phase = .waiting wake)
    (told : l.isTold = false) (now : Duration) :
    l.step now =
      (.started, { l with
        checks := l.checks + 1
        phase := .checking (now + l.cycle.takes l.checks) }) := by
  simp [step, h, told]

theorem step_checking {l : Loop} {done : Duration} (h : l.phase = .checking done)
    (now : Duration) :
    l.step now =
      (.finished,
        { l with cadence := l.cadence.advance now (l.cycle.online (l.checks - 1)) }.wait now) := by
  simp only [step, h]

theorem step_exited {l : Loop} (h : l.phase = .exited) (now : Duration) :
    l.step now = (.none, l) := by
  simp only [step, h]

/-- A loop that has not ended does something in every move. -/
theorem step_eq_none_iff {l : Loop} {now : Duration} :
    (l.step now).1 = .none ↔ l.phase = .exited := by
  cases h : l.phase with
  | spawned => simp [step_spawned h]
  | waiting wake =>
    cases told : l.isTold with
    | true => simp [step_told h told]
    | false => simp [step_waiting h told]
  | checking done => simp [step_checking h]
  | exited => simp [step_exited h]

/-- A move changes only the schedule, the number of checks and the phase. -/
theorem step_keeps (l : Loop) (now : Duration) :
    (l.step now).2.ticket = l.ticket ∧ (l.step now).2.cycle = l.cycle ∧
      (l.step now).2.channel = l.channel := by
  unfold step
  split
  · exact ⟨rfl, rfl, rfl⟩
  · split <;> exact ⟨rfl, rfl, rfl⟩
  · exact ⟨rfl, rfl, rfl⟩
  · exact ⟨rfl, rfl, rfl⟩

@[simp] theorem ticket_step (l : Loop) (now : Duration) :
    (l.step now).2.ticket = l.ticket := (l.step_keeps now).1
@[simp] theorem cycle_step (l : Loop) (now : Duration) :
    (l.step now).2.cycle = l.cycle := (l.step_keeps now).2.1
@[simp] theorem channel_step (l : Loop) (now : Duration) :
    (l.step now).2.channel = l.channel := (l.step_keeps now).2.2
@[simp] theorem isTold_step (l : Loop) (now : Duration) :
    (l.step now).2.isTold = l.isTold := congrArg Channel.isReady (l.channel_step now)

/-- The moves of a lone loop up to a time, with their times, and the loop at that time. -/
def movesUntil (limit : Duration) : Nat → Duration → Loop → List (Move × Duration) × Loop
  | 0, _, l => ([], l)
  | fuel + 1, now, l =>
    match l.due? now with
    | none => ([], l)
    | some time =>
      if limit < time then ([], l)
      else
        let (move, after) := l.step time
        let (rest, last) := movesUntil limit fuel time after
        ((move, time) :: rest, last)

/-- A bound on the moves of a loop until a time: two for every check and some for its beginning and
end. Checks start no closer than ten milliseconds apart in the long run. -/
def moveBound (limit : Duration) : Nat := 2 * (limit.nanoseconds / 10000000 + 2) + 4

/-- All moves of a lone loop to whose stop channel something happens at the time `stop`, after the
moves that it made before. -/
def movesFrom (how : Channel → Channel) (stop : Duration) :
    List (Move × Duration) × Loop → List (Move × Duration)
  | (before, l) =>
    let told := l.tell how
    match told.due? stop with
    | some time => before ++ (movesUntil time 2 stop told).1
    | none => before

/-- All moves of a lone loop that starts at time zero and to whose stop channel something happens at
the time `stop`. -/
def movesTold (how : Channel → Channel) (c : Cycle) (stop : Duration) : List (Move × Duration) :=
  movesFrom how stop (movesUntil stop (moveBound stop) .zero (spawn 0 c))

/-- All moves of a lone loop that starts at time zero and is sent the stop message at the time
`stop`. -/
def moves (c : Cycle) (stop : Duration) : List (Move × Duration) := movesTold .send c stop

end Loop

end Uptime.Fleet
