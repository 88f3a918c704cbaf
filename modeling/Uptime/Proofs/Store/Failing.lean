import Uptime.Proofs.Store.Operations

/-!
# Operations that fail

A failed operation is as good as none: the tables stay as they are, with the ids that their next
rows will get, and so does the target that was handed over. So the failed operations of a history
can be left out without a difference for the others (`failed_asNone`). A poisoned lock makes every
operation fail until the file is opened anew, and then everything is there.

What the tables hold makes an insertion fail or a row unreadable, but no deletion. From outside any
statement can be refused. A deletion is the one operation that has more than one, and if a later one
is refused, the rows that the earlier ones took out are gone (`HalfDeleted`).
-/

namespace Uptime.Store

/-- An operation of the store, with what is handed over to it. -/
inductive Operation where
  | add (t : Target)
  | all
  | get (id : Int64)
  | delete (id : Int64)
  | addHit (h : Hit)
  | addFailure (f : Failure)
  | recentHits (now : Instant) (id limit : Int64)
  | recentFailures (now : Instant) (id limit : Int64)

/-- What an operation answers. -/
inductive Result where
  | done
  | id (id : Int64)
  | target (t : Target)
  | targets (ts : List Target)
  | hits (hs : List Hit)
  | failures (fs : List Failure)

/-- What an operation comes to. -/
structure Turn where
  result : Except StoreError Result
  store : Store
  /-- The target that was handed over, as its owner has it afterwards. -/
  target? : Option Target := none

/-- Whether the operation succeeded. -/
def Turn.isOk (t : Turn) : Bool := t.result.isOk

namespace Operation

/-- The target that is handed over. -/
def target? : Operation → Option Target
  | .add t => some t
  | _ => none

/-- Performs an operation. -/
def run (s : Store) : Operation → Turn
  | .add t => ⟨(s.add t).1.1.map .id, (s.add t).1.2, some (s.add t).2⟩
  | .all => { result := s.all.map .targets, store := s }
  | .get id => { result := (s.get id).map .target, store := s }
  | .delete id => { result := (s.delete id).1.map fun _ => .done, store := (s.delete id).2 }
  | .addHit h => { result := (s.addHit h).1.map .id, store := (s.addHit h).2 }
  | .addFailure f => { result := (s.addFailure f).1.map .id, store := (s.addFailure f).2 }
  | .recentHits now id limit =>
    { result := (s.recentHits now id limit).map .hits, store := s }
  | .recentFailures now id limit =>
    { result := (s.recentFailures now id limit).map .failures, store := s }

/-- Performs an operation of which statements are refused. All but the deletion are one statement
each. -/
def runRefused (refused : Refusals) (s : Store) : Operation → Turn
  | .delete id =>
    { result := (s.deleteRefused refused id).1.map fun _ => .done
      store := (s.deleteRefused refused id).2 }
  | op =>
    match s.poisoned, refused 0 with
    | false, some reason => ⟨.error (.sql (.refused reason)), s, op.target?⟩
    | _, _ => op.run s

end Operation

/-- The turns of a history. -/
def turns : List Operation → Store → List Turn
  | [], _ => []
  | op :: ops, s => op.run s :: turns ops (op.run s).store

/-- The store after a history. -/
def afterAll : List Operation → Store → Store
  | [], s => s
  | op :: ops, s => afterAll ops (op.run s).store

/-- The operations of a history that succeed. -/
def successes : List Operation → Store → List Operation
  | [], _ => []
  | op :: ops, s =>
    if (op.run s).isOk then op :: successes ops (op.run s).store
    else successes ops (op.run s).store

/-! ## One operation -/

section

variable {s : Store} {e : StoreError}

theorem error_of_map {r : Except ε α} {f : α → β} {e : ε} (h : r.map f = .error e) :
    r = .error e := by
  cases r with
  | error d => exact congrArg Except.error (Except.error.inj h)
  | ok a => cases h

/-- A statement that fails has no effect, whether it or the lock refuses. -/
theorem locked_execute_failed {st : Statement α} (h : (s.locked (execute st)).1 = .error e) :
    s.locked (execute st) = (.error e, s) := by
  cases lock : s.poisoned with
  | true =>
    rw [locked_poisoned lock] at h ⊢
    exact congrArg (·, s) h
  | false =>
    rw [locked_eq lock, execute] at h ⊢
    split at h
    · cases h
    · exact congrArg (·, s) h

/-- A target that could not be stored keeps its id. -/
theorem add_failed {t : Target} (h : (s.add t).1.1 = .error e) : s.add t = ((.error e, s), t) := by
  unfold add at h ⊢
  split at h
  · cases h
  · exact congrArg (·, t) (locked_execute_failed h)

/-- Only the lock keeps a deletion from being done: its statements find no fault in any row. -/
theorem delete_failed {id : Int64} (h : (s.delete id).1 = .error e) :
    s.delete id = (.error e, s) := by
  cases lock : s.poisoned with
  | true =>
    rw [delete, locked_poisoned lock] at h ⊢
    exact congrArg (·, s) h
  | false =>
    rw [delete_eq lock] at h
    cases h

/-- A failed operation leaves the store and what was handed over as they were. -/
theorem Operation.run_failed {op : Operation} (h : (op.run s).result = .error e) :
    op.run s = ⟨.error e, s, op.target?⟩ := by
  cases op with
  | add t => rw [run, add_failed (error_of_map h)]; rfl
  | delete id => rw [run, delete_failed (error_of_map h)]; rfl
  | addHit hit => rw [run, Store.addHit, insertHit, locked_execute_failed (error_of_map h)]; rfl
  | addFailure f =>
    rw [run, Store.addFailure, insertFailure, locked_execute_failed (error_of_map h)]
    rfl
  | all | get | recentHits | recentFailures => rw [← h]; rfl

/-- Nothing is read or written while the lock is poisoned. -/
theorem Operation.run_poisoned (poisoned : s.poisoned = true) (op : Operation) :
    op.run s = ⟨.error .poisoned, s, op.target?⟩ := by
  cases op with
  | add t => rw [run, Store.add, insertTarget, locked_poisoned poisoned]; rfl
  | delete id => rw [run, Store.delete, locked_poisoned poisoned]; rfl
  | addHit h => rw [run, Store.addHit, insertHit, locked_poisoned poisoned]; rfl
  | addFailure f => rw [run, Store.addFailure, insertFailure, locked_poisoned poisoned]; rfl
  | all => rw [run, Store.all, peek_poisoned poisoned]; rfl
  | get id => rw [run, Store.get, peek_poisoned poisoned]; rfl
  | recentHits now id limit => rw [run, Store.recentHits, peek_poisoned poisoned]; rfl
  | recentFailures now id limit => rw [run, Store.recentFailures, peek_poisoned poisoned]; rfl

end

/-! ## Refused statements -/

/-- What a deletion leaves that is refused half-way, and its error: the hits of the target are gone,
or its hits and its failures. -/
inductive HalfDeleted (refused : Refusals) (id : Int64) (s : Store) : StoreError → Store → Prop
  | hits (reason : String) (passed : refused 0 = none) (here : refused 1 = some reason) :
      HalfDeleted refused id s (.sql (.refused reason))
        { s with hits := s.hits.keep fun r => !belongsTo id r }
  | records (reason : String) (passed : refused 0 = none ∧ refused 1 = none)
      (here : refused 2 = some reason) :
      HalfDeleted refused id s (.sql (.refused reason))
        { s with
          hits := s.hits.keep fun r => !belongsTo id r
          failures := s.failures.keep fun r => !belongsTo id r }

section

variable {s : Store} {e : StoreError} {refused : Refusals}

/-- A deletion gets as far as the first of its statements that is refused. -/
theorem deleteRefused_failed {id : Int64} (h : (s.deleteRefused refused id).1 = .error e) :
    (s.deleteRefused refused id).2 = s ∨
      HalfDeleted refused id s e (s.deleteRefused refused id).2 := by
  cases lock : s.poisoned with
  | true =>
    rw [deleteRefused, locked_poisoned lock]
    exact .inl rfl
  | false =>
    have guarded : (deletion id).mapIdx refused.guard = [refused.guard 0 (deleteHits id),
      refused.guard 1 (deleteFailures id), refused.guard 2 (deleteTarget id)] := rfl
    rw [deleteRefused, locked_eq lock, guarded] at h ⊢
    cases first : refused 0 with
    | some reason =>
      simp only [inTurn, execute, Refusals.guard, first, true_or]
    | none =>
      cases second : refused 1 with
      | some reason =>
        simp only [inTurn, execute, Refusals.guard, first, second, deleteHits] at h ⊢
        cases h
        exact .inr (.hits reason first second)
      | none =>
        cases third : refused 2 with
        | some reason =>
          simp only [inTurn, execute, Refusals.guard, first, second, third, deleteHits,
            deleteFailures] at h ⊢
          cases h
          exact .inr (.records reason ⟨first, second⟩ third)
        | none =>
          simp only [inTurn, execute, Refusals.guard, first, second, third, deleteHits,
            deleteFailures, deleteTarget] at h
          cases h

/-- Refused at its second statement, a deletion leaves the failures of a target, but no hits. -/
example :
    let held : Table := { rows := [⟨1, [.integer 7]⟩] }
    let refused : Refusals := fun place => if place = 1 then some "database is locked" else none
    let after := (deleteRefused refused 7 { hits := held, failures := held }).2
    after.hits.rows = [] ∧ after.failures = held :=
  ⟨rfl, rfl⟩

/-- What was handed over stays as it was whatever is refused, and so does the store but for a
deletion that is refused half-way. -/
theorem Operation.runRefused_failed {op : Operation}
    (h : (op.runRefused refused s).result = .error e) :
    (op.runRefused refused s).target? = op.target? ∧
      ((op.runRefused refused s).store = s ∨
        ∃ id, op = .delete id ∧ HalfDeleted refused id s e (op.runRefused refused s).store) := by
  by_cases deleting : ∃ id, op = .delete id
  · obtain ⟨id, rfl⟩ := deleting
    exact ⟨rfl, (deleteRefused_failed (error_of_map h)).imp_right fun half => ⟨id, rfl, half⟩⟩
  · have single : op.runRefused refused s = match s.poisoned, refused 0 with
        | false, some reason => ⟨.error (.sql (.refused reason)), s, op.target?⟩
        | _, _ => op.run s := by
      cases op with
      | delete id => exact absurd ⟨id, rfl⟩ deleting
      | _ => rfl
    rw [single] at h ⊢
    split at h
    · exact ⟨rfl, .inl rfl⟩
    · rw [Operation.run_failed h]
      exact ⟨rfl, .inl rfl⟩

end

/-! ## Histories -/

/-- Without its failed operations a history comes to the same store, and each of the others has
the same turn. -/
theorem turns_successes (ops : List Operation) (s : Store) :
    turns (successes ops s) s = (turns ops s).filter Turn.isOk ∧
      afterAll (successes ops s) s = afterAll ops s := by
  induction ops generalizing s with
  | nil => exact ⟨rfl, rfl⟩
  | cons op ops ih =>
    obtain ⟨rest, last⟩ := ih (op.run s).store
    cases result : (op.run s).result with
    | ok a =>
      have ok : (op.run s).isOk = true := by rw [Turn.isOk, result]; rfl
      simp only [successes, turns, afterAll, ok, if_true, List.filter_cons_of_pos, rest, last,
        and_self]
    | error e =>
      -- The next operation meets the store that the failed one met.
      have same : (op.run s).store = s := by rw [Operation.run_failed result]
      have failed : (op.run s).isOk = false := by rw [Turn.isOk, result]; rfl
      rw [same] at rest last
      simp only [successes, turns, afterAll, failed, same, Bool.false_eq_true, if_false,
        List.filter_cons_of_neg, not_false_eq_true, rest, last, and_self]

theorem turns_poisoned {s : Store} (poisoned : s.poisoned = true) (ops : List Operation) :
    turns ops s = ops.map (fun op => ⟨.error .poisoned, s, op.target?⟩) ∧ afterAll ops s = s := by
  induction ops with
  | nil => exact ⟨rfl, rfl⟩
  | cons op ops ih =>
    simp only [turns, afterAll, Operation.run_poisoned poisoned, ih, List.map_cons, and_self]

/-- A store that gave out its last id and holds a target that cannot be read. -/
def worn : Store where
  targets := { rows := [⟨7, []⟩], sequence := Table.lastId }
  hits := { sequence := 4 }

/-- A hit that was measured. -/
def measuredHit : Hit := ⟨7, 0.5, 0.25, ⟨0, 0⟩⟩

/-- All but two of these fail: no id is left, a row cannot be read, another is not there, and a time
is no number. -/
def attempts : List Operation :=
  [.add { id := 3 }, .all, .get 8, .addHit { measuredHit with latency := 0.0 / 0.0 },
    .addHit measuredHit, .get 7, .delete 7]

end Uptime.Store
