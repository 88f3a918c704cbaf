import Uptime.Proofs.Store.Operations

/-!
# Histories of a store

What can be done to a store is an `Action`, and `perform` plays a history of them. The answers of
the store say which records a history makes (`records`) and which of them stand at its end, their
target not having been deleted since (`standing`). The rows of a table are just the records that
stand, in the order in which they were made (`Keeps.holds`).
-/

namespace Uptime.Store

/-- What can be done to a store. -/
inductive Action where
  | add (t : Target)
  | delete (id : Int64)
  | addHit (h : Hit)
  | addFailure (f : Failure)
  | reopen

namespace Action

/-- The store after an action. -/
def apply (s : Store) : Action → Store
  | .add t => (s.add t).1.2
  | .delete id => (s.delete id).2
  | .addHit h => (s.addHit h).2
  | .addFailure f => (s.addFailure f).2
  | .reopen => s.reopen

/-- The target that an action adds, as it comes back with its id. -/
def target? (s : Store) : Action → Option Target
  | .add t => (s.add t).1.1.toOption.map fun _ => (s.add t).2
  | _ => none

/-- The hit that an action stores, and the id of its row. -/
def hit? (s : Store) : Action → Option (Int64 × Hit)
  | .addHit h => (s.addHit h).1.toOption.map (·, h)
  | _ => none

/-- The failure that an action stores, and the id of its row. -/
def failure? (s : Store) : Action → Option (Int64 × Failure)
  | .addFailure f => (s.addFailure f).1.toOption.map (·, f)
  | _ => none

/-- What stands after an action: the record that it makes as well, if it makes one, and nothing that
belongs to a target that it deletes. -/
def alter (made : Store → Action → Option α) (owner : α → Int64) (s : Store) (xs : List α) :
    Action → List α
  | .delete id => xs.filter (owner · != id)
  | a => xs ++ (made s a).toList

end Action

/-- The store after a history. -/
def perform : List Action → Store → Store
  | [], s => s
  | a :: as, s => perform as (a.apply s)

/-- The records that a history makes. -/
def records (made : Store → Action → Option α) : List Action → Store → List α
  | [], _ => []
  | a :: as, s => (made s a).toList ++ records made as (a.apply s)

/-- The records that stand after a history if these stand before it. -/
def standing (made : Store → Action → Option α) (owner : α → Int64) :
    List Action → Store → List α → List α
  | [], _, xs => xs
  | a :: as, s, xs => standing made owner as (a.apply s) (a.alter made owner s xs)

/-- What every action keeps holds after every history. The records made so far and those that stand
may be part of it. -/
theorem perform_keeps {made : Store → Action → Option α} {owner : α → Int64}
    {P : List α → List α → Store → Prop}
    (step : ∀ ms xs s (a : Action), P ms xs s →
      P (ms ++ (made s a).toList) (a.alter made owner s xs) (a.apply s))
    {ms xs : List α} {s : Store} (start : P ms xs s) (as : List Action) :
    P (ms ++ records made as s) (standing made owner as s xs) (perform as s) := by
  induction as generalizing ms xs s with
  | nil => simpa [records, standing, perform] using start
  | cons a as ih => simpa [records, standing, perform] using ih (step ms xs s a start)

theorem mem_records {made : Store → Action → Option α} {e : α} {as : List Action} {s : Store}
    (h : e ∈ records made as s) : ∃ a ∈ as, ∃ t, made t a = some e := by
  induction as generalizing s with
  | nil => cases h
  | cons a as ih =>
    rcases List.mem_append.1 h with here | later
    · exact ⟨a, List.mem_cons_self, s, Option.mem_toList.1 here⟩
    · obtain ⟨b, hb, made⟩ := ih later
      exact ⟨b, List.mem_cons_of_mem a hb, made⟩

/-- The records that stand were made before. -/
theorem sublist_standing (made : Store → Action → Option α) (owner : α → Int64)
    (as : List Action) : (standing made owner as {} []).Sublist (records made as {}) := by
  have step : ∀ ms xs s (a : Action), List.Sublist xs ms →
      List.Sublist (a.alter made owner s xs) (ms ++ (made s a).toList) := by
    intro ms xs s a sub
    cases a with
    | delete id => exact (List.filter_sublist.trans sub).trans (List.sublist_append_left ..)
    | _ => exact sub.append (List.Sublist.refl _)
  have kept := perform_keeps (P := fun ms xs _ => List.Sublist xs ms) step (s := {})
    (List.Sublist.refl []) as
  rwa [List.nil_append] at kept

/-- A record that stands was made by an action of the history. -/
theorem mem_standing {made : Store → Action → Option α} {owner : α → Int64} {e : α}
    {as : List Action} (h : e ∈ standing made owner as {} []) :
    ∃ a ∈ as, ∃ t, made t a = some e :=
  mem_records ((sublist_standing made owner as).subset h)

theorem usable_apply {s : Store} (usable : s.poisoned = false) (a : Action) :
    (a.apply s).poisoned = false := by
  cases a with
  | add t =>
    obtain ⟨_, after⟩ := add_changes s t
    exact (congrArg Store.poisoned after).trans usable
  | delete id => exact (congrArg (·.2.poisoned) (delete_eq usable id)).trans usable
  | addHit h =>
    obtain ⟨_, after⟩ := addHit_changes s h
    exact (congrArg Store.poisoned after).trans usable
  | addFailure f =>
    obtain ⟨_, after⟩ := addFailure_changes s f
    exact (congrArg Store.poisoned after).trans usable
  | reopen => rfl

/-! ## Rows and records -/

/-- A table keeps the records of one kind: each gets a row when it is made, which goes with its
target. -/
structure Keeps (table : Store → Table) (made : Store → Action → Option α) (row : α → Row)
    (owner : α → Int64) : Prop where
  fresh : table {} = {}
  deleted : ∀ {s} id, s.poisoned = false → made s (.delete id) = none ∧
    ∃ p, table ((Action.delete id).apply s) = (table s).keep p ∧ ∀ e, p (row e) = (owner e != id)
  others : ∀ {s a}, s.poisoned = false → (table s).Sound → (∀ id, a ≠ .delete id) →
    (made s a = none ∧ table (a.apply s) = table s) ∨
    ∃ e, made s a = some e ∧ (table s).sequence < Table.lastId ∧ (row e).id = (table s).nextId ∧
      table (a.apply s) = (table s).append (row e).cells

/-- The rows of a table are these records, of all that were ever made. -/
structure Holds (table : Store → Table) (row : α → Row) (ms xs : List α) (s : Store) : Prop where
  usable : s.poisoned = false
  sound : (table s).Sound
  rows : (table s).rows = xs.map row
  count : (table s).sequence = ms.length
  ascending : ms.Pairwise fun a b => (row a).id < (row b).id
  ids : ∀ e ∈ ms, 0 < (row e).id ∧ (row e).id.toInt ≤ (table s).sequence

section

variable {table : Store → Table} {made : Store → Action → Option α} {row : α → Row}
  {owner : α → Int64}

theorem Keeps.start (k : Keeps table made row owner) : Holds table row [] [] {} where
  usable := rfl
  sound := by rw [k.fresh]; exact Table.Sound.empty
  rows := by rw [k.fresh]; rfl
  count := by rw [k.fresh]; rfl
  ascending := .nil
  ids := nofun

namespace Holds

variable {ms xs : List α} {s t : Store}

/-- What leaves a table alone leaves its records alone. -/
theorem frame (h : Holds table row ms xs s) (usable : t.poisoned = false)
    (after : table t = table s) : Holds table row ms xs t := by
  refine ⟨usable, ?_, ?_, ?_, h.ascending, ?_⟩ <;> rw [after]
  · exact h.sound
  · exact h.rows
  · exact h.count
  · exact h.ids

/-- Rows that are taken out take their records with them. -/
theorem keep (h : Holds table row ms xs s) (usable : t.poisoned = false) {p : Row → Bool}
    (after : table t = (table s).keep p) {stays : α → Bool} (same : ∀ e, p (row e) = stays e) :
    Holds table row ms (xs.filter stays) t := by
  refine ⟨usable, ?_, ?_, ?_, h.ascending, ?_⟩ <;> rw [after]
  · exact h.sound.keep p
  · have same : p ∘ row = stays := funext same
    show (table s).rows.filter p = (xs.filter stays).map row
    rw [h.rows, List.filter_map, same]
  · exact h.count
  · exact h.ids

/-- A row that is appended under the next id stands for a new record. -/
theorem append (h : Holds table row ms xs s) (usable : t.poisoned = false) {e : α}
    (room : (table s).sequence < Table.lastId) (id : (row e).id = (table s).nextId)
    (after : table t = (table s).append (row e).cells) :
    Holds table row (ms ++ [e]) (xs ++ [e]) t := by
  have last := Table.toInt_nextId room
  refine ⟨usable, ?_, ?_, ?_, ?_, ?_⟩ <;> try rw [after]
  · exact h.sound.append room _
  · show (table s).rows ++ [⟨(table s).nextId, (row e).cells⟩] = _
    rw [← id, h.rows, List.map_append]
    rfl
  · show (table s).sequence + 1 = _
    rw [h.count, List.length_append]
    rfl
  · refine List.pairwise_append.2 ⟨h.ascending, List.pairwise_singleton _ _, ?_⟩
    intro x hx y hy
    rw [List.mem_singleton.1 hy, id]
    exact Table.lt_nextId room (h.ids x hx).2
  · intro x hx
    show 0 < (row x).id ∧ (row x).id.toInt ≤ ((table s).sequence + 1 : Nat)
    rcases List.mem_append.1 hx with old | new
    · obtain ⟨pos, le⟩ := h.ids x old
      exact ⟨pos, by omega⟩
    · rw [List.mem_singleton.1 new, id]
      exact ⟨Table.nextId_pos room, by omega⟩

end Holds

theorem Keeps.step (k : Keeps table made row owner) {ms xs : List α} {s : Store}
    (h : Holds table row ms xs s) (a : Action) :
    Holds table row (ms ++ (made s a).toList) (a.alter made owner s xs) (a.apply s) := by
  have usable := usable_apply h.usable a
  by_cases deleting : ∃ id, a = .delete id
  · obtain ⟨id, rfl⟩ := deleting
    obtain ⟨none, p, after, same⟩ := k.deleted id h.usable
    rw [none, Option.toList_none, List.append_nil]
    exact h.keep usable after same
  · have kept : ∀ id, a ≠ .delete id := fun id is => deleting ⟨id, is⟩
    have alter : a.alter made owner s xs = xs ++ (made s a).toList := by
      cases a with
      | delete id => exact absurd rfl (kept id)
      | _ => rfl
    rw [alter]
    rcases k.others h.usable h.sound kept with ⟨none, after⟩ | ⟨e, some, room, id, after⟩
    · rw [none, Option.toList_none, List.append_nil, List.append_nil]
      exact h.frame usable after
    · rw [some, Option.toList_some]
      exact h.append usable room id after

/-- The rows of a table after a history are the records that stand. -/
theorem Keeps.holds (k : Keeps table made row owner) (as : List Action) :
    Holds table row (records made as {}) (standing made owner as {} []) (perform as {}) := by
  have after := perform_keeps (P := Holds table row) (fun _ _ _ a h => k.step h a) k.start as
  rwa [List.nil_append] at after

end

/-- The row of a target. -/
def targetRow (t : Target) : Row := ⟨t.id, targetCells t⟩

/-- The row of a hit that was stored under an id. -/
def hitRow (e : Int64 × Hit) : Row := ⟨e.1, hitCells e.2⟩

/-- The row of a failure that was stored under an id. -/
def failureRow (e : Int64 × Failure) : Row := ⟨e.1, failureCells e.2⟩

theorem keeps_targets : Keeps Store.targets Action.target? targetRow (·.id) where
  fresh := rfl
  deleted := by
    intro s id usable
    refine ⟨rfl, fun r => !(r.id == id), ?_, fun _ => rfl⟩
    show (s.delete id).2.targets = _
    rw [delete_eq usable]
  others := by
    intro s a usable sound kept
    cases a with
    | add t =>
      show ((s.add t).1.1.toOption.map (fun _ => (s.add t).2) = none ∧ (s.add t).1.2.targets = _) ∨
        ∃ e, (s.add t).1.1.toOption.map (fun _ => (s.add t).2) = some e ∧ _ ∧ _ ∧
          (s.add t).1.2.targets = _
      rcases add_cases usable sound t with ⟨e, failed⟩ | ⟨room, stored⟩
      · rw [failed]
        exact .inl ⟨rfl, rfl⟩
      · rw [stored]
        exact .inr ⟨_, rfl, room, rfl, rfl⟩
    | delete id => exact absurd rfl (kept id)
    | addHit h =>
      obtain ⟨_, after⟩ := addHit_changes s h
      exact .inl ⟨rfl, (congrArg Store.targets after :)⟩
    | addFailure f =>
      obtain ⟨_, after⟩ := addFailure_changes s f
      exact .inl ⟨rfl, (congrArg Store.targets after :)⟩
    | reopen => exact .inl ⟨rfl, rfl⟩

theorem keeps_hits : Keeps Store.hits Action.hit? hitRow (·.2.targetId) where
  fresh := rfl
  deleted := by
    intro s id usable
    refine ⟨rfl, fun r => !belongsTo id r, ?_, fun _ => rfl⟩
    show (s.delete id).2.hits = _
    rw [delete_eq usable]
  others := by
    intro s a usable sound kept
    cases a with
    | add t =>
      obtain ⟨_, after⟩ := add_changes s t
      exact .inl ⟨rfl, (congrArg Store.hits after :)⟩
    | delete id => exact absurd rfl (kept id)
    | addHit h =>
      show ((s.addHit h).1.toOption.map (·, h) = none ∧ (s.addHit h).2.hits = _) ∨
        ∃ e, (s.addHit h).1.toOption.map (·, h) = some e ∧ _ ∧ _ ∧ (s.addHit h).2.hits = _
      rcases addHit_cases usable sound h with ⟨e, failed⟩ | ⟨room, stored⟩
      · rw [failed]
        exact .inl ⟨rfl, rfl⟩
      · rw [stored]
        exact .inr ⟨_, rfl, room, rfl, rfl⟩
    | addFailure f =>
      obtain ⟨_, after⟩ := addFailure_changes s f
      exact .inl ⟨rfl, (congrArg Store.hits after :)⟩
    | reopen => exact .inl ⟨rfl, rfl⟩

theorem keeps_failures : Keeps Store.failures Action.failure? failureRow (·.2.targetId) where
  fresh := rfl
  deleted := by
    intro s id usable
    refine ⟨rfl, fun r => !belongsTo id r, ?_, fun _ => rfl⟩
    show (s.delete id).2.failures = _
    rw [delete_eq usable]
  others := by
    intro s a usable sound kept
    cases a with
    | add t =>
      obtain ⟨_, after⟩ := add_changes s t
      exact .inl ⟨rfl, (congrArg Store.failures after :)⟩
    | delete id => exact absurd rfl (kept id)
    | addHit h =>
      obtain ⟨_, after⟩ := addHit_changes s h
      exact .inl ⟨rfl, (congrArg Store.failures after :)⟩
    | addFailure f =>
      show ((s.addFailure f).1.toOption.map (·, f) = none ∧ (s.addFailure f).2.failures = _) ∨
        ∃ e, (s.addFailure f).1.toOption.map (·, f) = some e ∧ _ ∧ _ ∧
          (s.addFailure f).2.failures = _
      rcases addFailure_cases usable sound f with ⟨e, failed⟩ | ⟨room, stored⟩
      · rw [failed]
        exact .inl ⟨rfl, rfl⟩
      · rw [stored]
        exact .inr ⟨_, rfl, room, rfl, rfl⟩
    | reopen => exact .inl ⟨rfl, rfl⟩

end Uptime.Store
