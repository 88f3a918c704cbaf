import Uptime.Record
import Uptime.Store.Table
import Uptime.Target
import Uptime.Time.Text

/-!
# Rows as records

A cell is read as the type that is wanted or refused; the refusal names the cell. A target's kind is
read before anything else, so an unknown kind hides all other faults of its row.
-/

namespace Uptime.Store

/-- Why a cell cannot be read as the type that is wanted. -/
inductive Fault where
  | wrongClass
  | outOfRange (n : Int64)

/-- How a cell is read. -/
abbrev Decoder (α : Type) := Value → Except Fault α

namespace Decoder

def integer : Decoder Int64
  | .integer n => .ok n
  | _ => .error .wrongClass

/-- An integer from zero to 65535. -/
def port : Decoder UInt16
  | .integer n =>
    if 0 ≤ n.toInt && n.toInt < 65536 then .ok (UInt16.ofNat n.toInt.toNat)
    else .error (.outOfRange n)
  | _ => .error .wrongClass

/-- An integer of 32 bits. -/
def code : Decoder Int32
  | .integer n =>
    if -2147483648 ≤ n.toInt && n.toInt < 2147483648 then .ok (Int32.ofInt n.toInt)
    else .error (.outOfRange n)
  | _ => .error .wrongClass

/-- An integer; all but zero are true. -/
def flag : Decoder Bool
  | .integer n => .ok (n != 0)
  | _ => .error .wrongClass

/-- A number. -/
def double : Decoder Float
  | .integer n => .ok (Value.toDouble n)
  | .real x => .ok x
  | _ => .error .wrongClass

def text : Decoder String
  | .text s => .ok s
  | _ => .error .wrongClass

/-- An integer that counts seconds or microseconds; below zero counts as zero. -/
def count : Decoder UInt64
  | .integer n => .ok (UInt64.ofNat n.toInt.toNat)
  | _ => .error .wrongClass

/-- The same, or nothing where the cell is empty. -/
def optional (d : Decoder α) : Decoder (Option α)
  | .null => .ok none
  | v => (d v).map some

end Decoder

/-- A row of a result: the columns in the order in which they were asked for. -/
structure Selected where
  names : List String
  values : List Value

/-- The cell at this place of the row, read as wanted. -/
def Selected.get (r : Selected) (i : Nat) (d : Decoder α) : Except SqlError α :=
  let v := (r.values[i]?).getD .null
  match d v with
  | .ok a => .ok a
  | .error .wrongClass => .error (.wrongClass v.className i ((r.names[i]?).getD ""))
  | .error (.outOfRange n) => .error (.outOfRange n i)

/-- The whole row, id first. -/
def Row.all (s : Schema) (r : Row) : Selected :=
  ⟨"id" :: s.columns.map (·.name), .integer r.id :: r.cells⟩

/-- The row without its id. -/
def Row.rest (s : Schema) (r : Row) : Selected := ⟨s.columns.map (·.name), r.cells⟩

/-- What comes of a target's row: the row may be unreadable, or its kind may not exist. -/
def Row.target (r : Row) : Except StoreError Target :=
  let s := r.all .targets
  let fields (kind : Kind) : Except SqlError Target := do
    let interval ← s.get 11 Decoder.count
    let timeout ← s.get 12 Decoder.count
    let id ← s.get 0 Decoder.integer
    let name ← s.get 1 Decoder.text
    let address ← s.get 3 Decoder.text
    let port ← s.get 4 Decoder.port.optional
    let method ← s.get 5 Decoder.text
    let postData ← s.get 6 Decoder.text.optional
    let headers ← s.get 7 Decoder.text.optional
    let verifySsl ← s.get 8 Decoder.flag
    let expected ← s.get 9 Decoder.text.optional
    let expectedStatus ← s.get 10 Decoder.port
    return { id, name, kind, address, port, method, postData, headers, verifySsl, expected,
             expectedStatus, interval, timeout }
  match s.get 2 Decoder.text with
  | .error e => .error (.sql e)
  | .ok word =>
    match Kind.read word with
    | .error word => .error (.invalidRow word)
    | .ok kind => (fields kind).mapError .sql

/-- The hit of a row; a time that cannot be read is the time `now`. -/
def Row.hit (now : Instant) (r : Row) : Except SqlError Hit := do
  let s := r.rest .hits
  let time ← s.get 3 Decoder.text
  let targetId ← s.get 0 Decoder.integer
  let latency ← s.get 1 Decoder.double
  let pingTime ← s.get 2 Decoder.double
  return { targetId, latency, pingTime, createdAt := (Instant.read? time).getD now }

/-- The failure of a row; a time that cannot be read is the time `now`. -/
def Row.failure (now : Instant) (r : Row) : Except SqlError Failure := do
  let s := r.rest .failures
  let time ← s.get 4 Decoder.text
  let targetId ← s.get 0 Decoder.integer
  let issue ← s.get 1 Decoder.text
  let pingTime ← s.get 2 Decoder.double
  let errorCode ← s.get 3 Decoder.code
  return { targetId, issue, pingTime, errorCode, createdAt := (Instant.read? time).getD now }

/-- The row that a target is stored as; its id is not part of it. -/
def Draft.ofTarget (t : Target) : Draft :=
  [("name", .text t.name), ("kind", .text t.kind.name), ("address", .text t.address),
   ("port", (t.port.map fun p => Value.integer (Int64.ofNat p.toNat)).getD .null),
   ("method", .text t.method), ("post_data", .ofText? t.postData), ("headers", .ofText? t.headers),
   ("verify_ssl", .integer (if t.verifySsl then 1 else 0)), ("expected", .ofText? t.expected),
   ("expected_status", .integer (Int64.ofNat t.expectedStatus.toNat)),
   ("check_interval", .integer t.interval.toInt64), ("timeout", .integer t.timeout.toInt64)]

/-- The row that a hit is stored as. -/
def Draft.ofHit (h : Hit) : Draft :=
  [("service", .integer h.targetId), ("latency", .ofDouble h.latency),
   ("ping_time", .ofDouble h.pingTime), ("created_at", .text h.createdAt.text)]

/-- The row that a failure is stored as. -/
def Draft.ofFailure (f : Failure) : Draft :=
  [("service", .integer f.targetId), ("issue", .text f.issue), ("ping_time", .ofDouble f.pingTime),
   ("error_code", .integer f.errorCode.toInt64), ("created_at", .text f.createdAt.text)]

end Uptime.Store
