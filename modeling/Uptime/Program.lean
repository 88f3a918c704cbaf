import Uptime.Fleet.Basic
import Uptime.Monitor
import Uptime.Seed

/-!
# The program

A start reads the settings, opens the store, fills it if it is empty, and launches one loop for
every target of the store (`Program.start`). From then on the loops check their targets, and every
record goes into the store, until the program is told to stop.
-/

namespace Uptime

/-- What the program finds around it when it starts. -/
structure Surroundings where
  /-- The value of a setting, if it is set. -/
  setting : String → Option String
  /-- What opening the store at a path comes to. -/
  openStore : String → Except StoreError Store
  /-- The content of the file at a path, if there is one. -/
  file : String → Option (List UInt8)

/-- A monitor and the number of its checks. -/
structure Watch where
  monitor : Monitor
  checks : Nat := 0

/-- The running program. -/
structure Program where
  config : Config := {}
  store : Store := {}
  fleet : Fleet := {}
  /-- The monitors in the order in which their loops were launched. -/
  watches : List Watch := []
  /-- How echoes can be sent, once that is known. -/
  capability : Option Icmp.Capability := none
  /-- The number of records that were published. -/
  recorded : Nat := 0
  log : List Log.Entry := []

/-- What a start comes to. -/
structure Startup where
  /-- The program; if the start failed, as far as it came. -/
  program : Program
  error : Option SetupError := none

/-- The world that each check of a target meets, by the number of the check. It also says how long
the check takes. -/
abbrev Course := Target → Nat → World

namespace Program

/-- A line of the program itself. -/
def note (text : String) : Log.Entry := { level := .info, source := .program, message := text }

/-- The program with more lines in its log. -/
def tell (p : Program) (lines : List Log.Entry) : Program := { p with log := p.log ++ lines }

/-- The cycle of a target. How long a check takes is only known when it is started, and whether it
finds the target online when it is made. -/
def cycle (t : Target) : Fleet.Cycle :=
  { id := t.id, name := t.name, interval := t.interval.toNat, takes := fun _ => .zero,
    online := fun _ => false }

/-- Launches a loop for every target. -/
def launch (ts : List Target) (p : Program) : Program :=
  let (_, fleet) := p.fleet.launch (ts.map cycle)
  ({ p with fleet, watches := ts.map fun t => { monitor := { target := t } } }).tell
    (fleet.logSince p.fleet.history.length)

/-- Fills the store if it holds no target. -/
def prepare (s : Surroundings) (p : Program) : Startup :=
  match p.store.all with
  | .error e => { program := p, error := some (.store e) }
  | .ok [] =>
    let filled := p.store.fill p.config.seedPath (p.config.seedPath.bind s.file)
    let p := { p with store := filled.store }.tell filled.log
    match filled.result with
    | .error e => { program := p, error := some e }
    | .ok () => { program := p }
  | .ok _ => { program := p }

/-- Starts the program. -/
def start (s : Surroundings) : Startup :=
  let (config, warnings) := Config.load s.setting
  let p : Program := { config }
  let p := p.tell (warnings ++ [note "Starting pulsewatch...",
    note ("Using database at " ++ config.dbPath)])
  match s.openStore config.dbPath with
  | .error e => { program := p, error := some (.store e) }
  | .ok store =>
    let ready := prepare s ({ p with store }.tell [note "Database initialized successfully"])
    match ready.error, ready.program.store.all with
    | some _, _ => ready
    | none, .error e => { ready with error := some (.store e) }
    | none, .ok ts => { program := ready.program.launch ts }

/-- Puts a record into the store. -/
def storeRecord (store : Store) : Record → Store.Answer Int64
  | .hit h => store.addHit h
  | .failure f => store.addFailure f

/-- How the store takes the record that a check is about to publish. -/
def reply (answer : Except StoreError Int64) : Reply :=
  match answer with
  | .ok _ => .done
  | .error e => .failed e.message

/-- One check of a monitor, and the program after it. -/
def check (p : Program) (w : Watch) (world : World) : Check × Program :=
  let world := match p.capability with
    | some known => { world with echoes := { world.echoes with capability := some known } }
    | none => world
  let a := w.monitor.target.attempt world
  let made (storage : Reply) : Check :=
    w.monitor.checkBy p.config.recorder storage .log world.now a true
  let (k, store, published) := match (made .done).record with
    | some r =>
      let (answer, store) := storeRecord p.store r
      (made (reply answer), store, 1)
    | none => (made .done, p.store, 0)
  (k, { p with
    store, recorded := p.recorded + published, log := p.log ++ k.log,
    capability := p.capability <|> k.found })

/-- The loop with what it takes from the world for its next move: how long the check takes that it
starts, or what the check comes to that it finishes. If that check breaks off, there is no loop. -/
def answer (course : Course) (l : Fleet.Loop) (p : Program) : Option Fleet.Loop × Program :=
  match l.phase, p.watches[l.ticket]? with
  | .waiting _, some w =>
    let takes := (course w.monitor.target w.checks).takes
    (some { l with cycle := { l.cycle with takes := fun _ => takes } }, p)
  | .checking _, some w =>
    let (k, p) := p.check w (course w.monitor.target w.checks)
    let watch : Watch := { monitor := w.monitor.after k, checks := w.checks + 1 }
    let p := { p with watches := p.watches.set l.ticket watch }
    if k.brokenOff then (none, p)
    else (some { l with cycle := { l.cycle with online := fun _ => k.online } }, p)
  | _, _ => (some l, p)

/-- When the next move of a loop is due. -/
def due? (p : Program) : Option Duration :=
  (Fleet.earliest? p.fleet.now p.fleet.loops).map (Fleet.dueAt p.fleet.now)

/-- Lets time pass until the next move of a loop, and makes it. A loop is lost with a check that
breaks off. -/
def tick (course : Course) (p : Program) : Program :=
  match Fleet.earliest? p.fleet.now p.fleet.loops with
  | none => p
  | some l =>
    let time := Fleet.dueAt p.fleet.now l
    let (next, p) := p.answer course l
    let fleet := p.fleet.advanceTo time
    let fleet := match next with
      | some l => fleet.move l
      | none => fleet.lose l
    { p with fleet }.tell (fleet.logSince p.fleet.history.length)

/-- Goes on until so many records were published. -/
def untilRecorded (course : Course) (wanted : Nat) : Nat → Program → Program
  | 0, p => p
  | fuel + 1, p =>
    if wanted ≤ p.recorded then p
    else untilRecorded course wanted fuel (p.tick course)

/-- A bound on the moves until so many records were published: each check has two of them, and each
loop one before its first check and two for a check that leaves no record. -/
def moveBound (p : Program) (wanted : Nat) : Nat := 3 * p.watches.length + 2 * wanted

/-- Goes on until so many records were published, or no loop is left. -/
def run (course : Course) (wanted : Nat) (p : Program) : Program :=
  untilRecorded course wanted (p.moveBound wanted) p

/-- Tells all loops to stop. -/
def shutDown (p : Program) : Program :=
  let fleet := p.fleet.stopAll
  { p with fleet }.tell (note "Shutting down..." :: fleet.logSince p.fleet.history.length)

end Program

end Uptime
