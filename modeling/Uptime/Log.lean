import Uptime.Number.Digits
import Uptime.Number.Printer

/-!
# Log entries

What the program tells while it runs: a level, the part of the program that speaks, a message and
named fields. `Entry.line` is the form in which an entry is printed.
-/

namespace Uptime.Log

/-- How much an entry matters. -/
inductive Level where
  | debug
  | info
  | warn
  | error
deriving DecidableEq, Repr

/-- The word for a level. -/
def Level.name : Level → String
  | .debug => "DEBUG"
  | .info => "INFO"
  | .warn => "WARN"
  | .error => "ERROR"

/-- The part of the program that speaks. -/
inductive Source where
  | program
  | config
  | scheduler
  | recorder
  | notifier
  | names
  | http
  | ping
deriving DecidableEq, Repr

/-- The name under which a part of the program is listed. -/
def Source.name : Source → String
  | .program => "pulsewatch"
  | .config => "pulsewatch::config"
  | .scheduler => "pulsewatch::scheduler"
  | .recorder => "pulsewatch::recorder"
  | .notifier => "pulsewatch::recorder::notifier"
  | .names => "pulsewatch::probe::dns"
  | .http => "pulsewatch::probe::http"
  | .ping => "pulsewatch::probe::ping"

/-- The value of a field. -/
inductive Value where
  | integer (n : Int)
  | double (x : Float)
  | text (s : String)

/-- One entry of the log. -/
structure Entry where
  level : Level
  source : Source
  message : String
  fields : List (String × Value) := []

/-- Numbers are written positionally from 0.0001 on. -/
def doubleLayout : Number.Layout := ⟨-4, 15, false, 1⟩

/-- A double in its shortest form. -/
def doubleText (x : Float) : String :=
  let sign := if Number.isNegative x then "-" else ""
  match Number.magnitude x with
  | .nan => "NaN"
  | .infinite => sign ++ "inf"
  | .finite m e =>
    sign ++ String.ofList
      (if m = 0 then ['0', '.', '0'] else (Number.shortest m e).render doubleLayout)

/-- The text of a field's value. -/
def Value.display : Value → String
  | .integer n => String.ofList (Number.signed n)
  | .double x => doubleText x
  | .text s => s

/-- The entry as it is printed. -/
def Entry.line (e : Entry) : String :=
  e.level.name ++ " " ++ e.source.name ++ ": " ++ e.message ++
    String.join (e.fields.map fun f => " " ++ f.1 ++ "=" ++ f.2.display)

end Uptime.Log
