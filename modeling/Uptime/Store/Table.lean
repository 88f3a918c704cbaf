import Uptime.Store.Error

/-!
# Tables

A table holds rows under ascending ids. An id that has been given out is never given out again, so
the table remembers the greatest id it ever held. `Table.insert` either adds a row or names the rule
that forbids it.
-/

namespace Uptime.Store

/-- A column beside the id. -/
structure Column where
  name : String
  affinity : Affinity
  /-- Whether the cell must not be empty. -/
  required : Bool := false
  /-- What is stored when a row leaves the column out. -/
  fallback : Value := .null

/-- The name of a table and its columns beside the id. -/
structure Schema where
  name : String
  columns : List Column

/-- A stored row; the cells follow the columns of the schema. -/
structure Row where
  id : Int64
  cells : List Value

/-- A row to be stored: what it gives for a column, if anything. -/
abbrev Draft := List (String × Value)

/-- What a draft gives for a column. -/
def Draft.get? (d : Draft) (column : String) : Option Value :=
  (d.find? fun p => p.1 == column).map (·.2)

structure Table where
  /-- The rows in ascending order of their ids. -/
  rows : List Row := []
  /-- The greatest id that a row ever had, or zero. -/
  sequence : Nat := 0

namespace Table

/-- The greatest id. -/
def lastId : Nat := 9223372036854775807

/-- The id of a new row: the one that is given, or the one after all ids ever used. -/
def idFor (t : Table) (given : Option Value) : Except SqlError Int64 :=
  match Affinity.integer.apply (given.getD .null) with
  | .null => if t.sequence < lastId then .ok (Int64.ofNat (t.sequence + 1)) else .error .full
  | .integer n => .ok n
  | _ => .error .mismatch

/-- The cell of a column in a new row. -/
def cell (table : String) (d : Draft) (c : Column) : Except SqlError Value :=
  let v := c.affinity.apply ((d.get? c.name).getD c.fallback)
  if c.required && v.isNull then .error (.missing table c.name) else .ok v

/-- The cells of a new row; of several faults the first column's counts. -/
def cells (table : String) (d : Draft) : List Column → Except SqlError (List Value)
  | [] => .ok []
  | c :: cs =>
    match cell table d c with
    | .error e => .error e
    | .ok v =>
      match cells table d cs with
      | .error e => .error e
      | .ok vs => .ok (v :: vs)

/-- Puts a row in front of the first one with a greater id. -/
def place (r : Row) : List Row → List Row
  | [] => [r]
  | x :: xs => if x.id < r.id then x :: place r xs else r :: x :: xs

/-- Adds a row and returns its id. The id is settled first, then the cells are checked, and last
that the id is free. -/
def insert (s : Schema) (d : Draft) (t : Table) : Except SqlError (Int64 × Table) :=
  match t.idFor (d.get? "id") with
  | .error e => .error e
  | .ok id =>
    match cells s.name d s.columns with
    | .error e => .error e
    | .ok vs =>
      if t.rows.any (·.id == id) then .error (.duplicate s.name "id")
      else .ok (id, { rows := place ⟨id, vs⟩ t.rows, sequence := max t.sequence id.toInt.toNat })

/-- The row with this id. -/
def row? (id : Int64) (t : Table) : Option Row := t.rows.find? (·.id == id)

/-- Leaves only the rows that satisfy the condition. -/
def keep (p : Row → Bool) (t : Table) : Table := { t with rows := t.rows.filter p }

end Table

namespace Schema

/-- The monitored targets. -/
def targets : Schema where
  name := "services"
  columns :=
    [{ name := "name", affinity := .text, required := true },
     { name := "kind", affinity := .text, required := true },
     { name := "address", affinity := .text, required := true },
     { name := "port", affinity := .integer },
     { name := "method", affinity := .text, required := true, fallback := .text "GET" },
     { name := "post_data", affinity := .text },
     { name := "headers", affinity := .text },
     { name := "verify_ssl", affinity := .integer, required := true, fallback := .integer 0 },
     { name := "expected", affinity := .text },
     { name := "expected_status", affinity := .integer, required := true,
       fallback := .integer 200 },
     { name := "check_interval", affinity := .integer, required := true, fallback := .integer 60 },
     { name := "timeout", affinity := .integer, required := true, fallback := .integer 30 }]

/-- The successful checks. -/
def hits : Schema where
  name := "hits"
  columns :=
    [{ name := "service", affinity := .integer, required := true },
     { name := "latency", affinity := .real, required := true },
     { name := "ping_time", affinity := .real, required := true },
     { name := "created_at", affinity := .text, required := true }]

/-- The failed checks. -/
def failures : Schema where
  name := "failures"
  columns :=
    [{ name := "service", affinity := .integer, required := true },
     { name := "issue", affinity := .text, required := true },
     { name := "ping_time", affinity := .real, required := true },
     { name := "error_code", affinity := .integer, required := true, fallback := .integer 0 },
     { name := "created_at", affinity := .text, required := true }]

end Schema

end Uptime.Store
