import Uptime.Kind
import Uptime.Store.Value

/-!
# Why an operation on the store fails
-/

namespace Uptime.Store

/-- Why a statement fails. -/
inductive SqlError where
  /-- A row that is asked for is not there. -/
  | noRow
  /-- A cell holds another class of value than is read from it. -/
  | wrongClass (className : String) (index : Nat) (column : String)
  /-- A cell holds an integer that does not fit what is read from it. -/
  | outOfRange (n : Int64) (index : Nat)
  /-- A required cell is left empty. -/
  | missing (table column : String)
  /-- The id is taken. -/
  | duplicate (table column : String)
  /-- The id is not an integer. -/
  | mismatch
  /-- No id is left. -/
  | full
  /-- The directory of the file is not there. -/
  | cannotOpen (path : String)
  /-- The file is there and holds something else. -/
  | notADatabase
  /-- It is refused from outside: the disk fails, or another program holds the file. -/
  | refused (reason : String)
deriving DecidableEq, Repr

/-- The integer in decimal. -/
def integerText (n : Int64) : String := String.ofList (Number.signed n.toInt)

/-- The number in decimal. -/
def indexText (n : Nat) : String := String.ofList (Number.digits n)

/-- What is said about a failed statement. -/
def SqlError.message : SqlError → String
  | .noRow => "Query returned no rows"
  | .wrongClass c i name =>
    "Invalid column type " ++ c ++ " at index: " ++ indexText i ++ ", name: " ++ name
  | .outOfRange n i => "Integer " ++ integerText n ++ " out of range at index " ++ indexText i
  | .missing t c => "NOT NULL constraint failed: " ++ t ++ "." ++ c
  | .duplicate t c => "UNIQUE constraint failed: " ++ t ++ "." ++ c
  | .mismatch => "datatype mismatch"
  | .full => "database or disk is full"
  | .cannotOpen path => "unable to open database file: " ++ path
  | .notADatabase => "file is not a database"
  | .refused reason => reason

end Store

/-- Why an operation on the store fails. -/
inductive StoreError where
  | sql (e : Store.SqlError)
  /-- The tables could not be set up. -/
  | migration (e : Store.SqlError)
  /-- An earlier operation broke off while it held the lock. -/
  | poisoned
  /-- A stored target has a kind that does not exist. -/
  | invalidRow (word : String)
deriving DecidableEq, Repr

/-- What is said about a failed operation. -/
def StoreError.message : StoreError → String
  | .sql e => "SQLite error: " ++ e.message
  | .migration e => "Migration error: Migration 1 failed: " ++ e.message
  | .poisoned => "connection mutex poisoned"
  | .invalidRow word => "invalid row: " ++ Kind.unknownMessage word

end Uptime
