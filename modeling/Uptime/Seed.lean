import Uptime.Config
import Uptime.Store.Basic
import Uptime.Target.Json
import Uptime.Text.Utf8

/-!
# The seed

An empty store is filled from a seed, a file that holds a JSON array of targets, or with one sample
target where no seed is configured. A seed is read as a whole before anything is stored, so a seed
with a fault in any place stores nothing.
-/

namespace Uptime

/-- Why a seed cannot be used. -/
inductive SeedError where
  /-- There is no such file. -/
  | missing
  /-- The content is not UTF-8. -/
  | notText
  /-- The content is not an array of targets. -/
  | malformed
deriving DecidableEq, Repr

/-- What is said about a seed at `path` that cannot be used. -/
def SeedError.message (path : String) : SeedError → String
  | .missing => "failed to read seed file " ++ path ++ ": No such file or directory (os error 2)"
  | .notText => "failed to read seed file " ++ path ++ ": stream did not contain valid UTF-8"
  | .malformed => "failed to parse seed file " ++ path

/-- The targets of a seed with this content; `none` is a file that is not there. -/
def Seed.read : Option (List UInt8) → Except SeedError (List Target)
  | none => .error .missing
  | some bytes =>
    match Text.Utf8.decode? bytes with
    | none => .error .notText
    | some cs =>
      match Target.readAll? cs with
      | none => .error .malformed
      | some targets => .ok targets

/-- The target of a store that is set up without a seed. -/
def Target.sample : Target :=
  { name := "Google", kind := .http, address := "https://google.com", verifySsl := true }

/-- Why a store could not be filled. -/
inductive SetupError where
  | seed (e : SeedError)
  | store (e : StoreError)

namespace Store

/-- Stores the targets in turn and stops at the first one that cannot be stored. -/
def addAll : List Target → Store → Answer Unit
  | [], s => (.ok (), s)
  | t :: ts, s =>
    match (s.add t).1 with
    | (.ok _, after) => addAll ts after
    | (.error e, after) => (.error e, after)

/-- What filling a store comes to. -/
structure Filled where
  result : Except SetupError Unit
  store : Store
  log : List Log.Entry

/-- Fills an empty store from the seed at `path`, whose content is `file`, or with the sample if no
seed is configured. -/
def fill (path : Option String) (file : Option (List UInt8)) (s : Store) : Filled :=
  let note (text : String) : Log.Entry := { level := .info, source := .program, message := text }
  let store (ts : List Target) (log : List Log.Entry) : Filled :=
    let (result, after) := s.addAll ts
    ⟨result.mapError .store, after, log⟩
  match path with
  | none => store [Target.sample] [note "Adding sample target: Google"]
  | some path =>
    match Seed.read file with
    | .error e => ⟨.error (.seed e), s, []⟩
    | .ok ts =>
      let count := String.ofList (Number.digits ts.length)
      store ts [note ("Importing " ++ count ++ " targets from " ++ path)]

end Store

end Uptime
