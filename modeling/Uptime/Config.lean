import Uptime.Log
import Uptime.Number.Decimal
import Uptime.Text.Blank

/-!
# Configuration

The settings of the program, read from named variables. A value that cannot be read is ignored with
a warning and leaves the default.
-/

namespace Uptime

/-- What the recorder needs to know. -/
structure RecorderConfig where
  /-- Hours east of UTC of the times that are shown. -/
  timezone : Float32 := 0
  /-- Whether alert hooks are called at all. -/
  notifications : Bool := true

/-- Seconds east of UTC, rounded to the nearest; UTC if that is a day or more. -/
def RecorderConfig.offset (c : RecorderConfig) : Int :=
  let seconds := (c.timezone * 3600).round.toInt32.toInt
  if -86400 < seconds && seconds < 86400 then seconds else 0

/-- The settings of the program. -/
structure Config where
  dbPath : String := "pulsewatch.db"
  timezone : Float32 := 0
  notifications : Bool := true
  /-- A JSON file of targets that is imported into an empty store. -/
  seedPath : Option String := none

namespace Config

/-- The settings of the recorder. -/
def recorder (c : Config) : RecorderConfig := ⟨c.timezone, c.notifications⟩

/-- A switch: `true` or `1`, `false` or `0`, in any letter case and with blanks around it. -/
def flag? (s : String) : Option Bool :=
  let word := s.trimBlanks.asciiLower
  if word = "true" || word = "1" then some true
  else if word = "false" || word = "0" then some false
  else none

/-- A number of hours with blanks around it. -/
def timezone? (s : String) : Option Float32 :=
  (Number.Decimal.read? (Text.trim s.toList)).map (·.toSingle)

/-- The warning about a variable whose value cannot be read. -/
def ignored (name value : String) : Log.Entry :=
  { level := .warn, source := .config,
    message := "Ignoring invalid " ++ name ++ " '" ++ value ++ "'" }

/-- Takes a variable's value into the settings, or warns about it. -/
def apply {α : Type} (name : String) (read : String → Option α) (set : Config → α → Config)
    (value : Option String) (c : Config × List Log.Entry) : Config × List Log.Entry :=
  match value with
  | none => c
  | some s =>
    match read s with
    | some a => (set c.1 a, c.2)
    | none => (c.1, c.2 ++ [ignored name s])

/-- The settings that the variables give, and the warnings about them. -/
def load (lookup : String → Option String) : Config × List Log.Entry :=
  let start : Config × List Log.Entry := ({}, [])
  let start := apply "PULSEWATCH_DB_PATH" some (fun c s => { c with dbPath := s })
    (lookup "PULSEWATCH_DB_PATH") start
  let start := apply "PULSEWATCH_TIMEZONE" timezone? (fun c x => { c with timezone := x })
    (lookup "PULSEWATCH_TIMEZONE") start
  let start := apply "PULSEWATCH_NOTIFICATIONS" flag? (fun c b => { c with notifications := b })
    (lookup "PULSEWATCH_NOTIFICATIONS") start
  apply "PULSEWATCH_SEED" some
    (fun c s => if s.isBlankText then c else { c with seedPath := some s })
    (lookup "PULSEWATCH_SEED") start

/-- Whether the settings are the defaults; a timezone that is no number equals nothing. -/
def isDefault (c : Config) : Bool :=
  c.dbPath == "pulsewatch.db" && c.timezone == 0 && c.notifications && c.seedPath.isNone

end Config

end Uptime
