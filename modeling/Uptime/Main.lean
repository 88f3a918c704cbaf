import Std.Time.DateTime.Timestamp
import Uptime.Program

/-!
# The command line

Plays the program in real time until the standard input ends, and prints its log. Targets come from
the seed, records are kept in memory, and the checks meet the world of a machine that is cut off.
-/

namespace Uptime.CommandLine

/-- The names of the settings. -/
def names : List String :=
  ["PULSEWATCH_DB_PATH", "PULSEWATCH_TIMEZONE", "PULSEWATCH_NOTIFICATIONS", "PULSEWATCH_SEED"]

/-- The values of the settings in the environment. -/
def settings : IO (String → Option String) := do
  let set ← names.filterMapM fun name => do return (← IO.getEnv name).map (name, ·)
  return fun name => List.lookup name set

/-- The content of a file, if it can be read. -/
def content? (path : String) : IO (Option (List UInt8)) := do
  match ← (IO.FS.readBinFile path).toBaseIO with
  | .ok bytes => return some bytes.toList
  | .error _ => return none

/-- What the program finds around it. -/
def surroundings : IO Surroundings := do
  let set ← settings
  let seed ← match (Config.load set).1.seedPath with
    | some path => content? path
    | none => pure none
  return { setting := set, openStore := fun _ => .ok {}, file := fun _ => seed }

/-- The present time. -/
def now : IO Instant := do
  let time ← Std.Time.Timestamp.now
  let nanos := time.toNanosecondsSinceUnixEpoch.toInt
  return ⟨nanos.fdiv 1000000000, (nanos.fmod 1000000000).toNat⟩

/-- Prints the log from an entry on. -/
def printSince (seen : Nat) (p : Program) : IO Unit :=
  (p.log.drop seen).forM fun e => IO.println e.line

/-- The longest sleep in milliseconds before the end of the input is looked for. -/
def slice : Nat := 50

/-- Makes the moves of the loops when they are due, until the input has ended. -/
partial def play (ended : Task α) (began : Nat) (p : Program) : IO Program := do
  if ← IO.hasFinished ended then return p
  let passed := Duration.ofMillis ((← IO.monoMsNow) - began)
  match p.due? with
  | some due =>
    if due ≤ passed then
      let time ← now
      let next := p.tick fun _ _ => .cutOff time
      printSince p.log.length next
      play ended began next
    else
      IO.sleep slice.toUInt32
      play ended began p
  | none =>
    IO.sleep slice.toUInt32
    play ended began p

/-- Reads the input to its end. -/
partial def drain (input : IO.FS.Stream) : IO Unit := do
  unless (← input.getLine).isEmpty do drain input

/-- What is said about a start that failed. -/
def problem (seed : Option String) : SetupError → String
  | .seed e => e.message (seed.getD "")
  | .store e => e.message

end Uptime.CommandLine

open Uptime in
/-- Starts the program and plays it; a start that fails ends it with the exit code 1. -/
def main : IO UInt32 := do
  let startup := Program.start (← CommandLine.surroundings)
  let p := startup.program
  CommandLine.printSince 0 p
  match startup.error with
  | some e =>
    IO.eprintln ("Error: " ++ CommandLine.problem p.config.seedPath e)
    return 1
  | none =>
    let ended ← (CommandLine.drain (← IO.getStdin)).asTask
    let last ← CommandLine.play ended (← IO.monoMsNow) p
    CommandLine.printSince last.log.length last.shutDown
    return 0
