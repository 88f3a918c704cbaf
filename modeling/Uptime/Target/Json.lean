import Uptime.Json.Printer
import Uptime.Json.Reader
import Uptime.Target

/-!
# Targets as JSON

A target is written as an object of its fields in order, and read from an object with any of them in
any order, or from an array of the first few in order. Fields that are not there have their
defaults; members of other names are passed over; a field that is given twice, or with a value of
the wrong form, makes the whole refused. A kind may also be written as an object with its word as
the only key and `null` as its value.
-/

namespace Uptime

/-- A value that may be absent; `null` is its absence. -/
def Json.optional (f : α → Json) : Option α → Json
  | none => .null
  | some a => f a

namespace Target

/-- The fields of a target, in order. -/
inductive Field where
  | id
  | name
  | kind
  | address
  | port
  | method
  | postData
  | headers
  | verifySsl
  | expected
  | expectedStatus
  | interval
  | timeout
deriving DecidableEq, Repr

namespace Field

/-- The fields in the order in which they are written. -/
def all : List Field :=
  [.id, .name, .kind, .address, .port, .method, .postData, .headers, .verifySsl, .expected,
    .expectedStatus, .interval, .timeout]

/-- The member name of a field. -/
def key : Field → String
  | .id => "id"
  | .name => "name"
  | .kind => "kind"
  | .address => "address"
  | .port => "port"
  | .method => "method"
  | .postData => "post_data"
  | .headers => "headers"
  | .verifySsl => "verify_ssl"
  | .expected => "expected"
  | .expectedStatus => "expected_status"
  | .interval => "interval"
  | .timeout => "timeout"

/-- The field with this member name. -/
def named? (key : String) : Option Field := all.find? (·.key == key)

end Field

/-- A string as JSON. -/
def text (s : String) : Json := .string (some s)

/-- The value of a field as JSON. -/
def value (t : Target) : Field → Json
  | .id => .integer t.id.toInt
  | .name => text t.name
  | .kind => text t.kind.name
  | .address => text t.address
  | .port => Json.optional (fun n : UInt16 => .integer n.toNat) t.port
  | .method => text t.method
  | .postData => Json.optional text t.postData
  | .headers => Json.optional text t.headers
  | .verifySsl => .bool t.verifySsl
  | .expected => Json.optional text t.expected
  | .expectedStatus => .integer t.expectedStatus.toNat
  | .interval => .integer t.interval.toNat
  | .timeout => .integer t.timeout.toNat

/-- The target as a JSON object of its fields in order. -/
def toJson (t : Target) : Json := .object (Field.all.map fun f => (some f.key, t.value f))

/-- The compact JSON text of the target. -/
def jsonText (t : Target) : String := String.ofList t.toJson.render

/-- A string without half surrogate pairs. -/
def text? : Json → Option String
  | .string s => s
  | _ => none

/-- An integer in the range from `lo` to `hi`. -/
def integer? (lo hi : Int) : Json → Option Int
  | .integer n => if lo ≤ n && n ≤ hi then some n else none
  | _ => none

/-- A natural number of 16 bits. -/
def word16? (v : Json) : Option UInt16 :=
  (integer? 0 65535 v).map fun n => UInt16.ofNat n.toNat

/-- A natural number of 64 bits. -/
def word64? (v : Json) : Option UInt64 :=
  (integer? 0 18446744073709551615 v).map fun n => UInt64.ofNat n.toNat

/-- An integer of 64 bits. -/
def int64? (v : Json) : Option Int64 :=
  (integer? (-9223372036854775808) 9223372036854775807 v).map Int64.ofInt

/-- A value that may be `null`. -/
def optional? (read : Json → Option α) : Json → Option (Option α)
  | .null => some none
  | v => (read v).map some

/-- A kind: its word, or an object of the word and `null`. -/
def kind? : Json → Option Kind
  | .string (some s) => Kind.named? s
  | .object [(some key, .null)] => Kind.named? key
  | _ => none

/-- The target with one field read from JSON. -/
def with? (t : Target) (v : Json) : Field → Option Target
  | .id => (int64? v).map fun x => { t with id := x }
  | .name => (text? v).map fun x => { t with name := x }
  | .kind => (kind? v).map fun x => { t with kind := x }
  | .address => (text? v).map fun x => { t with address := x }
  | .port => (optional? word16? v).map fun x => { t with port := x }
  | .method => (text? v).map fun x => { t with method := x }
  | .postData => (optional? text? v).map fun x => { t with postData := x }
  | .headers => (optional? text? v).map fun x => { t with headers := x }
  | .verifySsl => match v with
    | .bool b => some { t with verifySsl := b }
    | _ => none
  | .expected => (optional? text? v).map fun x => { t with expected := x }
  | .expectedStatus => (word16? v).map fun x => { t with expectedStatus := x }
  | .interval => (word64? v).map fun x => { t with interval := x }
  | .timeout => (word64? v).map fun x => { t with timeout := x }

/-- Takes the members of an object one by one onto `t`; `seen` are the fields already given. -/
def ofMembers? (t : Target) (seen : List Field) : List (Option String × Json) → Option Target
  | [] => some t
  | (none, _) :: _ => none
  | (some key, v) :: rest =>
    match Field.named? key with
    | none => ofMembers? t seen rest
    | some f =>
      if f ∈ seen then none
      else match t.with? v f with
        | some t => ofMembers? t (f :: seen) rest
        | none => none

/-- Takes the items of an array onto `t`, one for each of the fields given. -/
def ofItems? (t : Target) : List Field → List Json → Option Target
  | _, [] => some t
  | [], _ :: _ => none
  | f :: fields, v :: items =>
    match t.with? v f with
    | some t => ofItems? t fields items
    | none => none

/-- The target that a JSON value stands for. -/
def ofJson? : Json → Option Target
  | .object members => ofMembers? {} [] members
  | .array items => ofItems? {} Field.all items
  | _ => none

/-- Reads one target from JSON text. -/
def read? (s : String) : Option Target := (Json.read? s.toList).bind ofJson?

/-- Reads an array of targets from JSON text; one bad element makes the whole refused. -/
def readAll? (cs : List Char) : Option (List Target) :=
  match Json.read? cs with
  | some (.array items) => items.mapM ofJson?
  | _ => none

end Target

end Uptime
