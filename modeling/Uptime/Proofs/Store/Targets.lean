import Uptime.Proofs.Store.History

/-!
# The targets of a store

The targets of a store are a map from ids to targets (`isMap_perform`). An id that was given out
stands for the target that was added under it until that one is deleted, and for nothing ever after.
-/

namespace Uptime

/-- The counts of the target fit a signed cell. -/
def Target.Fits (t : Target) : Prop :=
  t.interval.toNat < 9223372036854775808 ∧ t.timeout.toNat < 9223372036854775808

namespace Store

/-- The targets that a history of a new store added, as they came back. -/
def addedTargets (as : List Action) : List Target := records Action.target? as {}

/-- Those of them that were not deleted since. -/
def liveTargets (as : List Action) : List Target := standing Action.target? (·.id) as {} []

/-- The store answers like a map that holds the targets `live` under their ids, and that gave out
the ids of `added` before. -/
structure IsMap (added live : List Target) (s : Store) : Prop where
  positive : ∀ t ∈ added, 0 < t.id
  ascending : added.Pairwise (·.id < ·.id)
  sorted : live.Pairwise (·.id < ·.id)
  all : s.all = .ok live
  get : ∀ id, s.get id = match live.find? (·.id == id) with
    | some t => .ok t
    | none => .error (.sql .noRow)
  /-- The ids end with the greatest integer of 64 bits. -/
  add : ∀ t, if added.length < Table.lastId then
      ∃ id after, s.add t = ((.ok id, after), { t with id }) ∧ 0 < id ∧ ∀ u ∈ added, u.id < id
    else s.add t = ((.error (.sql .full), s), t)
  delete : ∀ id, (s.delete id).1 = .ok ()

theorem collect_ok (xs : List α) : collect (xs.map (Except.ok (ε := ε))) = .ok xs := by
  induction xs with
  | nil => rfl
  | cons x xs ih =>
    rw [List.map_cons, collect, ih]
    rfl

theorem add_snd (s : Store) (t : Target) : ∃ id, (s.add t).2 = { t with id } := by
  unfold add
  split
  · exact ⟨_, rfl⟩
  · exact ⟨t.id, rfl⟩

theorem fits_of_mem {as : List Action} (fits : ∀ t, .add t ∈ as → t.Fits) {t : Target}
    (ht : t ∈ liveTargets as) : t.Fits := by
  obtain ⟨a, ha, s, made⟩ := mem_standing ht
  cases a with
  | add u =>
    obtain ⟨_, -, back⟩ := Option.map_eq_some_iff.1 made
    obtain ⟨id, same⟩ := add_snd s u
    rw [← back, same]
    exact fits u ha
  | _ => cases made

/-- A store shows the targets that its rows are read as. -/
theorem all_of_rows {s : Store} {ts : List Target} (usable : s.poisoned = false)
    (results : s.targets.rows.map Row.target = ts.map .ok) : s.all = .ok ts := by
  have readable : (ts.map Except.ok).find? isUnreadable = none := by
    simp [List.find?_map, isUnreadable]
  simp only [Store.all, results, readable, collect_ok, peek_eq usable]

/-- A target that fits is read from its row as it is. -/
theorem read_targetRow {t : Target} (fits : t.Fits) : (targetRow t).target = .ok t := by
  rw [targetRow, target_row, keptCount_eq fits.1, keptCount_eq fits.2]

section

variable {added live : List Target} {s : Store}

theorem all_eq (holds : Holds Store.targets targetRow added live s)
    (fits : ∀ t ∈ live, t.Fits) : s.all = .ok live := by
  refine all_of_rows holds.usable ?_
  rw [holds.rows, List.map_map]
  exact List.map_congr_left fun t ht => by
    rw [Function.comp_apply, read_targetRow (fits t ht)]

theorem get_eq (holds : Holds Store.targets targetRow added live s)
    (fits : ∀ t ∈ live, t.Fits) (id : Int64) :
    s.get id = match live.find? (·.id == id) with
      | some t => .ok t
      | none => .error (.sql .noRow) := by
  have found : s.targets.row? id = (live.find? (·.id == id)).map targetRow := by
    rw [Table.row?, holds.rows, List.find?_map]
    rfl
  rw [Store.get, peek_eq holds.usable, found]
  cases entry : live.find? (·.id == id) with
  | none => rfl
  | some t => exact read_targetRow (fits t (List.mem_of_find?_eq_some entry))

/-- A target gets an id above all that were given out, as long as there is one. -/
theorem add_next (holds : Holds Store.targets targetRow added live s) (t : Target) :
    if added.length < Table.lastId then
      ∃ id after, s.add t = ((.ok id, after), { t with id }) ∧ 0 < id ∧ ∀ u ∈ added, u.id < id
    else s.add t = ((.error (.sql .full), s), t) := by
  have answer := add_eq holds.usable holds.sound t
  rw [holds.count] at answer
  split
  · next room =>
    rw [if_pos room] at answer
    rw [← holds.count] at room
    exact ⟨_, _, answer, Table.nextId_pos room,
      fun u hu => Table.lt_nextId room (holds.ids u hu).2⟩
  · next full => rwa [if_neg full] at answer

end

/-- The targets of a store are a map from their ids, whatever is done to it. -/
theorem isMap_perform {as : List Action} (fits : ∀ t, .add t ∈ as → t.Fits) :
    IsMap (addedTargets as) (liveTargets as) (perform as {}) := by
  have holds := keeps_targets.holds as
  have fits : ∀ t ∈ liveTargets as, t.Fits := fun t ht => fits_of_mem fits ht
  exact {
    positive := fun t ht => (holds.ids t ht).1
    ascending := holds.ascending
    sorted := holds.ascending.sublist (sublist_standing _ _ as)
    all := all_eq holds fits
    get := get_eq holds fits
    add := add_next holds
    delete := fun id => congrArg Prod.fst (delete_eq holds.usable id) }

/-- The latest target goes, and the next one comes after the file was opened anew. -/
def replaced : List Action :=
  [.add { name := "a", port := some 80 }, .add { name := "b", interval := 5000000 }, .delete 2,
    .reopen, .add { name := "c", timeout := 9223372036854775807 }]

/-- The id of a deleted target is not used again. -/
theorem isMap_perform_replaced : (∀ t, .add t ∈ replaced → t.Fits) ∧
    (addedTargets replaced).map (·.id) = [1, 2, 3] ∧
    (perform replaced {}).all = .ok
      [{ id := 1, name := "a", port := some 80 },
        { id := 3, name := "c", timeout := 9223372036854775807 }] ∧
    (perform replaced {}).get 2 = .error (.sql .noRow) := by
  have fits : ∀ t, .add t ∈ replaced → t.Fits := by
    intro t ht
    simp only [replaced, List.mem_cons, Action.add.injEq, reduceCtorEq, List.not_mem_nil,
      or_false, false_or] at ht
    rcases ht with rfl | rfl | rfl <;> exact ⟨by decide, by decide⟩
  have map := isMap_perform fits
  have live : liveTargets replaced = [{ id := 1, name := "a", port := some 80 },
      { id := 3, name := "c", timeout := 9223372036854775807 }] := by
    rfl
  refine ⟨fits, rfl, live ▸ map.all, ?_⟩
  rw [map.get 2, live]
  rfl

end Store

end Uptime
