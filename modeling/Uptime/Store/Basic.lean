import Uptime.Store.Reading

/-!
# The store

Targets with their hits and failures in three tables behind a lock. Every operation answers and says
what the store is afterwards, also if it fails. A statement that fails has no effect; an operation
of several statements keeps what those before the failed one did (`inTurn`). An operation that
breaks off while it holds the lock poisons it, and then all fail until the file is opened anew.
-/

namespace Uptime

/-- The tables, and whether their lock is poisoned. -/
structure Store where
  targets : Store.Table := {}
  hits : Store.Table := {}
  failures : Store.Table := {}
  poisoned : Bool := false

namespace Store

/-- What an operation answers, and the store afterwards. -/
abbrev Answer (α : Type) := Except StoreError α × Store

/-- What is found where the store is to be. -/
inductive Medium where
  /-- The directory of the file is not there. -/
  | noDirectory
  /-- There is no file yet. -/
  | absent
  /-- A file with this content, not written by a store. -/
  | content (bytes : List UInt8)

/-- Opens a store on a new file. A file of no or one byte counts as new; any other content is none
of a store. -/
def create (path : String) : Medium → Except StoreError Store
  | .noDirectory => .error (.sql (.cannotOpen path))
  | .absent => .ok {}
  | .content bytes => if bytes.length ≤ 1 then .ok {} else .error (.migration .notADatabase)

/-- Opens the file of a store anew. -/
def reopen (s : Store) : Store := { s with poisoned := false }

/-- An operation breaks off while it holds the lock. -/
def poison (s : Store) : Store := { s with poisoned := true }

/-- A statement on the tables: what it answers and the tables afterwards, or why it fails. -/
abbrev Statement (α : Type) := Store → Except SqlError (α × Store)

/-- Runs one statement. If it fails, it has no effect. -/
def execute (st : Statement α) (s : Store) : Answer α :=
  match st s with
  | .ok (a, after) => (.ok a, after)
  | .error e => (.error (.sql e), s)

/-- Runs statements one after the other up to the first that fails. Each is complete by itself, so
that what was done before stays done. -/
def inTurn : List (Statement Unit) → Store → Answer Unit
  | [], s => (.ok (), s)
  | st :: rest, s =>
    match execute st s with
    | (.ok _, after) => inTurn rest after
    | failed => failed

/-- Which statements of an operation are refused from outside, by their place, and why. -/
abbrev Refusals := Nat → Option String

/-- The statement at this place, unless it is refused. -/
def Refusals.guard (refused : Refusals) (place : Nat) (st : Statement α) : Statement α :=
  match refused place with
  | some reason => fun _ => .error (.refused reason)
  | none => st

/-- Runs an operation under the lock. -/
def locked (act : Store → Answer α) (s : Store) : Answer α :=
  if s.poisoned then (.error .poisoned, s) else act s

/-- Reads under the lock. -/
def peek (s : Store) (a : Except StoreError α) : Except StoreError α :=
  if s.poisoned then .error .poisoned else a

/-- The statement that adds a row to a table, which `put` puts back. -/
def insertion (schema : Schema) (table : Store → Table) (put : Table → Store → Store) (d : Draft) :
    Statement Int64 :=
  fun s => ((table s).insert schema d).map fun (id, t) => (id, put t s)

/-- Adds a row to the table of targets. -/
def insertTarget (d : Draft) (s : Store) : Answer Int64 :=
  s.locked (execute (insertion .targets targets (fun targets s => { s with targets }) d))

/-- Adds a row to the table of hits. -/
def insertHit (d : Draft) (s : Store) : Answer Int64 :=
  s.locked (execute (insertion .hits hits (fun hits s => { s with hits }) d))

/-- Adds a row to the table of failures. -/
def insertFailure (d : Draft) (s : Store) : Answer Int64 :=
  s.locked (execute (insertion .failures failures (fun failures s => { s with failures }) d))

/-- Stores a target under a new id. The target that comes back has that id; if the target could not
be stored, it is the one that was given. -/
def add (t : Target) (s : Store) : Answer Int64 × Target :=
  match s.insertTarget (.ofTarget t) with
  | (.ok id, after) => ((.ok id, after), { t with id })
  | answer => (answer, t)

/-- Stores a hit and returns the id of its row. -/
def addHit (h : Hit) (s : Store) : Answer Int64 := s.insertHit (.ofHit h)

/-- Stores a failure and returns the id of its row. -/
def addFailure (f : Failure) (s : Store) : Answer Int64 := s.insertFailure (.ofFailure f)

/-- The target with this id. -/
def get (id : Int64) (s : Store) : Except StoreError Target :=
  s.peek <| match s.targets.row? id with
    | some r => r.target
    | none => .error (.sql .noRow)

/-- Whether a row could not be read at all; that its kind does not exist is another matter. -/
def isUnreadable : Except StoreError α → Bool
  | .error (.invalidRow _) => false
  | .error _ => true
  | .ok _ => false

/-- All of a list of results, or the first error. -/
def collect : List (Except ε α) → Except ε (List α)
  | [] => .ok []
  | r :: rs =>
    match r with
    | .error e => .error e
    | .ok a => (collect rs).map (a :: ·)

/-- All targets in ascending order of their ids. A row that cannot be read counts before any row
whose kind does not exist. -/
def all (s : Store) : Except StoreError (List Target) :=
  let rows := s.targets.rows.map Row.target
  s.peek <| match rows.find? isUnreadable with
    | some (.error e) => .error e
    | _ => collect rows

/-- Whether a row of hits or failures belongs to this target. -/
def belongsTo (id : Int64) (r : Row) : Bool := ((r.cells[0]?).getD Value.null).isInteger id

/-- Removes the hits of a target. -/
def deleteHits (id : Int64) : Statement Unit := fun s =>
  .ok ((), { s with hits := s.hits.keep fun r => !belongsTo id r })

/-- Removes the failures of a target. -/
def deleteFailures (id : Int64) : Statement Unit := fun s =>
  .ok ((), { s with failures := s.failures.keep fun r => !belongsTo id r })

/-- Removes the row of a target. -/
def deleteTarget (id : Int64) : Statement Unit := fun s =>
  .ok ((), { s with targets := s.targets.keep fun r => !(r.id == id) })

/-- The statements that remove a target. -/
def deletion (id : Int64) : List (Statement Unit) :=
  [deleteHits id, deleteFailures id, deleteTarget id]

/-- Removes a target with its hits and failures. -/
def delete (id : Int64) (s : Store) : Answer Unit := s.locked (inTurn (deletion id))

/-- Removes a target while statements are refused. -/
def deleteRefused (refused : Refusals) (id : Int64) (s : Store) : Answer Unit :=
  s.locked (inTurn ((deletion id).mapIdx refused.guard))

/-- The text of the cell that rows are sorted by. -/
def timeKey (column : Nat) (r : Row) : String :=
  match r.cells[column]? with
  | some (.text s) => s
  | _ => ""

/-- Whether `a` comes before `b`: later times first, of equal times the later row. -/
def newer (column : Nat) (a b : Row) : Bool :=
  let s := timeKey column a
  let t := timeKey column b
  if s = t then b.id ≤ a.id else t < s

/-- The first rows of a list; a limit below zero is none. -/
def cut (limit : Int64) (rs : List Row) : List Row :=
  if limit < 0 then rs else rs.take limit.toInt.toNat

/-- The newest rows of a target; `column` holds the time. -/
def recent (column : Nat) (id limit : Int64) (t : Table) : List Row :=
  cut limit ((t.rows.filter (belongsTo id)).mergeSort (newer column))

/-- The newest hits of a target, newest first. -/
def recentHits (now : Instant) (id limit : Int64) (s : Store) : Except StoreError (List Hit) :=
  s.peek ((collect ((recent 3 id limit s.hits).map (Row.hit now))).mapError .sql)

/-- The newest failures of a target, newest first. -/
def recentFailures (now : Instant) (id limit : Int64) (s : Store) :
    Except StoreError (List Failure) :=
  s.peek ((collect ((recent 4 id limit s.failures).map (Row.failure now))).mapError .sql)

end Store

end Uptime
