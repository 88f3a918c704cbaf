import Uptime.Proofs.Store.Cells
import Uptime.Proofs.Store.Table
import Uptime.Store.Basic

/-!
# What the operations do

An insertion answers and changes its own table, or fails and changes nothing. While the lock is
not poisoned a target is always stored (`add_eq`), and a hit or a failure is if its times are
numbers (`addHit_eq`, `addFailure_eq`); all of them fail once the ids are used up. A deletion
changes all three tables, and whatever the rows are it does not fail (`delete_eq`).
-/

namespace Uptime.Store

variable {s : Store}

theorem locked_eq (usable : s.poisoned = false) (act : Store → Answer α) :
    s.locked act = act s := by
  rw [locked, usable]
  rfl

theorem peek_eq (usable : s.poisoned = false) (a : Except StoreError α) : s.peek a = a := by
  rw [peek, usable]
  rfl

theorem locked_poisoned (poisoned : s.poisoned = true) (act : Store → Answer α) :
    s.locked act = (.error .poisoned, s) := if_pos poisoned

theorem peek_poisoned (poisoned : s.poisoned = true) (a : Except StoreError α) :
    s.peek a = .error .poisoned := if_pos poisoned

/-- What succeeds under the lock was not refused by it. -/
theorem locked_ok {act : Store → Answer α} {a : α} {after : Store}
    (h : s.locked act = (.ok a, after)) : s.poisoned = false ∧ act s = (.ok a, after) := by
  cases lock : s.poisoned with
  | true =>
    rw [locked_poisoned lock] at h
    cases h
  | false =>
    rw [locked_eq lock] at h
    exact ⟨rfl, h⟩

theorem execute_eq_ok_iff {st : Statement α} {a : α} {after : Store} :
    execute st s = (.ok a, after) ↔ st s = .ok (a, after) := by
  unfold execute
  constructor
  · intro h
    split at h
    · next done =>
      cases h
      exact done
    · cases h
  · intro h
    rw [h]

/-! ## Insertions -/

section

variable {schema : Schema} {table : Store → Table} {put : Table → Store → Store}

theorem locked_insertion (usable : s.poisoned = false) (schema : Schema) (table : Store → Table)
    (put : Table → Store → Store) (d : Draft) :
    s.locked (execute (insertion schema table put d)) = match (table s).insert schema d with
      | .ok (id, t) => (.ok id, put t s)
      | .error e => (.error (.sql e), s) := by
  rw [locked_eq usable, execute, insertion]
  cases (table s).insert schema d <;> rfl

theorem insertion_ok {d : Draft} {id : Int64} {after : Store}
    (h : insertion schema table put d s = .ok (id, after)) :
    ∃ t, (table s).insert schema d = .ok (id, t) ∧ after = put t s := by
  unfold insertion at h
  cases inserted : (table s).insert schema d with
  | error e =>
    rw [inserted] at h
    cases h
  | ok made =>
    rw [inserted] at h
    cases h
    exact ⟨made.2, rfl, rfl⟩

/-- An insertion changes its table at most. -/
theorem insertion_changes (same : put (table s) s = s) (schema : Schema) (d : Draft) :
    ∃ t, (s.locked (execute (insertion schema table put d))).2 = put t s := by
  cases lock : s.poisoned with
  | true =>
    rw [locked_poisoned lock]
    exact ⟨table s, same.symm⟩
  | false =>
    rw [locked_insertion lock]
    split
    · next id t _ => exact ⟨t, rfl⟩
    · exact ⟨table s, same.symm⟩

end

/-- A target is stored under the next id as long as there is one. -/
theorem add_eq (usable : s.poisoned = false) (sound : s.targets.Sound) (t : Target) :
    s.add t = if s.targets.sequence < Table.lastId then
      ((.ok s.targets.nextId, { s with targets := s.targets.append (targetCells t) }),
        { t with id := s.targets.nextId })
    else ((.error (.sql .full), s), t) := by
  have inserted := Table.insert_eq sound .targets (show (Draft.ofTarget t).get? "id" = none by rfl)
  rw [cells_ofTarget] at inserted
  by_cases room : s.targets.sequence < Table.lastId
  · rw [if_pos room] at inserted ⊢
    simp only [add, insertTarget, locked_insertion usable, inserted, Except.map]
  · rw [if_neg room] at inserted ⊢
    simp only [add, insertTarget, locked_insertion usable, inserted]

theorem add_cases (usable : s.poisoned = false) (sound : s.targets.Sound) (t : Target) :
    (∃ e, s.add t = ((.error e, s), t)) ∨ s.targets.sequence < Table.lastId ∧
      s.add t = ((.ok s.targets.nextId, { s with targets := s.targets.append (targetCells t) }),
        { t with id := s.targets.nextId }) := by
  rw [add_eq usable sound]
  split
  · next room => exact .inr ⟨room, rfl⟩
  · exact .inl ⟨_, rfl⟩

/-- A hit is stored under the next id as long as there is one, if its times are numbers. -/
theorem addHit_eq (usable : s.poisoned = false) (sound : s.hits.Sound) (h : Hit) :
    s.addHit h = if s.hits.sequence < Table.lastId then
      if Number.isNaN h.latency then (.error (.sql (.missing "hits" "latency")), s)
      else if Number.isNaN h.pingTime then (.error (.sql (.missing "hits" "ping_time")), s)
      else (.ok s.hits.nextId, { s with hits := s.hits.append (hitCells h) })
    else (.error (.sql .full), s) := by
  have inserted := Table.insert_eq sound .hits (show (Draft.ofHit h).get? "id" = none by rfl)
  rw [cells_ofHit] at inserted
  simp only [addHit, insertHit, locked_insertion usable, inserted]
  by_cases room : s.hits.sequence < Table.lastId
  · rw [if_pos room, if_pos room]
    by_cases latency : Number.isNaN h.latency
    · simp only [latency, if_true, Except.map]
    · by_cases pingTime : Number.isNaN h.pingTime
      · simp only [latency, pingTime, if_true, Except.map]
        rfl
      · simp only [latency, pingTime, Except.map]
        rfl
  · rw [if_neg room, if_neg room]

theorem addHit_cases (usable : s.poisoned = false) (sound : s.hits.Sound) (h : Hit) :
    (∃ e, s.addHit h = (.error e, s)) ∨ s.hits.sequence < Table.lastId ∧
      s.addHit h = (.ok s.hits.nextId, { s with hits := s.hits.append (hitCells h) }) := by
  rw [addHit_eq usable sound]
  split
  · next room =>
    split
    · exact .inl ⟨_, rfl⟩
    · split
      · exact .inl ⟨_, rfl⟩
      · exact .inr ⟨room, rfl⟩
  · exact .inl ⟨_, rfl⟩

/-- A failure is stored under the next id as long as there is one, if its time is a number. -/
theorem addFailure_eq (usable : s.poisoned = false) (sound : s.failures.Sound) (f : Failure) :
    s.addFailure f = if s.failures.sequence < Table.lastId then
      if Number.isNaN f.pingTime then (.error (.sql (.missing "failures" "ping_time")), s)
      else (.ok s.failures.nextId, { s with failures := s.failures.append (failureCells f) })
    else (.error (.sql .full), s) := by
  have inserted :=
    Table.insert_eq sound .failures (show (Draft.ofFailure f).get? "id" = none by rfl)
  rw [cells_ofFailure] at inserted
  simp only [addFailure, insertFailure, locked_insertion usable, inserted]
  by_cases room : s.failures.sequence < Table.lastId
  · rw [if_pos room, if_pos room]
    by_cases pingTime : Number.isNaN f.pingTime
    · simp only [pingTime, if_true, Except.map]
    · simp only [pingTime, Except.map]
      rfl
  · rw [if_neg room, if_neg room]

theorem addFailure_cases (usable : s.poisoned = false) (sound : s.failures.Sound) (f : Failure) :
    (∃ e, s.addFailure f = (.error e, s)) ∨ s.failures.sequence < Table.lastId ∧
      s.addFailure f =
        (.ok s.failures.nextId, { s with failures := s.failures.append (failureCells f) }) := by
  rw [addFailure_eq usable sound]
  split
  · next room =>
    split
    · exact .inl ⟨_, rfl⟩
    · exact .inr ⟨room, rfl⟩
  · exact .inl ⟨_, rfl⟩

/-! ## Changes -/

theorem add_changes (s : Store) (t : Target) :
    ∃ targets, (s.add t).1.2 = { s with targets } := by
  have same : (s.add t).1 = s.insertTarget (.ofTarget t) := by
    unfold add
    split
    · next changed => exact changed.symm
    · rfl
  rw [same]
  exact insertion_changes rfl .targets _

theorem addHit_changes (s : Store) (h : Hit) : ∃ hits, (s.addHit h).2 = { s with hits } :=
  insertion_changes rfl .hits _

theorem addFailure_changes (s : Store) (f : Failure) :
    ∃ failures, (s.addFailure f).2 = { s with failures } :=
  insertion_changes rfl .failures _

/-- A target goes together with its hits and failures. -/
theorem delete_eq (usable : s.poisoned = false) (id : Int64) :
    s.delete id = (.ok (), { s with
      hits := s.hits.keep fun r => !belongsTo id r
      failures := s.failures.keep fun r => !belongsTo id r
      targets := s.targets.keep fun r => !(r.id == id) }) := by
  rw [delete, locked_eq usable]
  rfl

end Uptime.Store
