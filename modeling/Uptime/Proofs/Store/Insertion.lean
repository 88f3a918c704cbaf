import Uptime.Proofs.Store.Targets

/-!
# Insertions

What an insertion does to a table, whatever rows it holds: the new row goes in front of the first
one with a greater id, so that ids that ascend still do (`Table.Keyed.insert`). A target that was
stored is found under its id and among all targets (`get_added`, `all_added`).
-/

namespace Uptime.Store

namespace Table

/-- The ids of the rows are a key, and the rows are sorted by it. -/
def Keyed (t : Table) : Prop := t.rows.Pairwise (·.id < ·.id)

variable {t after : Table} {r : Row} {rs : List Row} {id : Int64}

/-- The other rows stay where they are. -/
theorem exists_place (r : Row) (rs : List Row) :
    ∃ before later, rs = before ++ later ∧ place r rs = before ++ r :: later := by
  induction rs with
  | nil => exact ⟨[], [], rfl, rfl⟩
  | cons x xs ih =>
    by_cases lt : x.id < r.id
    · obtain ⟨before, later, split, placed⟩ := ih
      exact ⟨x :: before, later, congrArg (x :: ·) split, by rw [place, if_pos lt, placed]; rfl⟩
    · exact ⟨[], x :: xs, rfl, by rw [place, if_neg lt]; rfl⟩

theorem mem_place {x : Row} : x ∈ place r rs ↔ x = r ∨ x ∈ rs := by
  obtain ⟨before, later, rfl, placed⟩ := exists_place r rs
  rw [placed, List.mem_append, List.mem_append, List.mem_cons]
  exact or_left_comm

theorem pairwise_place (ascending : rs.Pairwise (·.id < ·.id)) (free : ∀ x ∈ rs, x.id ≠ r.id) :
    (place r rs).Pairwise (·.id < ·.id) := by
  induction rs with
  | nil => exact List.pairwise_singleton _ r
  | cons x xs ih =>
    obtain ⟨least, rest⟩ := List.pairwise_cons.1 ascending
    obtain ⟨other, others⟩ := List.forall_mem_cons.1 free
    by_cases lt : x.id < r.id
    · rw [place, if_pos lt, List.pairwise_cons]
      refine ⟨fun y hy => ?_, ih rest others⟩
      rcases mem_place.1 hy with rfl | old
      · exact lt
      · exact least y old
    · have first : r.id < x.id := Int64.lt_of_le_of_ne (Int64.not_lt.1 lt) other.symm
      rw [place, if_neg lt, List.pairwise_cons]
      refine ⟨List.forall_mem_cons.2 ⟨first, fun y hy => ?_⟩, ascending⟩
      exact Int64.lt_trans first (least y hy)

/-- A row that was inserted has the cells of its draft and an id that was free. -/
theorem insert_ok {s : Schema} {d : Draft} (h : t.insert s d = .ok (id, after)) :
    (∀ r ∈ t.rows, r.id ≠ id) ∧
      ∃ vs, cells s.name d s.columns = .ok vs ∧ after.rows = place ⟨id, vs⟩ t.rows := by
  unfold insert at h
  split at h
  · cases h
  · split at h
    · cases h
    · next vs made =>
      split at h
      · cases h
      · next free =>
        cases h
        refine ⟨fun r hr same => free ?_, vs, made, rfl⟩
        exact List.any_eq_true.2 ⟨r, hr, beq_iff_eq.2 same⟩

theorem Keyed.insert (keyed : t.Keyed) {s : Schema} {d : Draft}
    (h : t.insert s d = .ok (id, after)) : after.Keyed := by
  obtain ⟨free, vs, -, placed⟩ := insert_ok h
  rw [Keyed, placed]
  exact pairwise_place keyed free

end Table

/-! ## Targets -/

variable {s after : Store} {t : Target} {ts : List Target} {id : Int64}

theorem bind_eq_ok {x : Except ε α} {f : α → Except ε β} {b : β} (h : (x >>= f) = .ok b) :
    ∃ a, x = .ok a ∧ f a = .ok b := by
  cases x with
  | error e => cases h
  | ok a => exact ⟨a, rfl, h⟩

theorem ok_of_mapError {x : Except ε α} {f : ε → δ} {a : α} (h : x.mapError f = .ok a) :
    x = .ok a := by
  cases x with
  | error e => cases h
  | ok b => exact congrArg Except.ok (Except.ok.inj h)

theorem exists_of_mapError {x : Except ε α} {f : ε → δ} {d : δ} (h : x.mapError f = .error d) :
    ∃ e, d = f e := by
  cases x with
  | error e => exact ⟨e, (Except.error.inj h).symm⟩
  | ok a => cases h

/-- What a target that a row is read as says of itself is in the cells of the row. -/
theorem read_of_target {r : Row} (h : r.target = .ok t) :
    (r.all .targets).get 0 Decoder.integer = .ok t.id ∧
      (r.all .targets).get 12 Decoder.count = .ok t.timeout := by
  unfold Row.target at h
  dsimp only at h
  split at h
  · cases h
  · split at h
    · cases h
    · obtain ⟨interval, -, h⟩ := bind_eq_ok (ok_of_mapError h)
      obtain ⟨timeout, read, h⟩ := bind_eq_ok h
      obtain ⟨number, own, h⟩ := bind_eq_ok h
      -- The nine fields that are read after the id do not matter.
      iterate 9 obtain ⟨_, -, h⟩ := bind_eq_ok h
      cases h
      exact ⟨own, read⟩

/-- A target has the id of its row. -/
theorem id_of_target {r : Row} (h : r.target = .ok t) : t.id = r.id :=
  (Except.ok.inj (read_of_target h).1).symm

/-- A count comes from a signed word. -/
theorem count_lt {v : Value} {n : UInt64} (h : Decoder.count v = .ok n) :
    n.toNat < 9223372036854775808 := by
  cases v with
  | integer m =>
    cases h
    have below : m.toInt < 9223372036854775808 := m.toInt_lt
    rw [UInt64.toNat_ofNat']
    omega
  | _ => cases h

theorem timeout_lt_of_target {r : Row} (h : r.target = .ok t) :
    t.timeout.toNat < 9223372036854775808 := by
  have read := (read_of_target h).2
  unfold Selected.get at read
  dsimp only at read
  split at read
  · next counted =>
    cases read
    exact count_lt counted
  · cases read
  · cases read

/-- All of the results are there just if there is no error among them. -/
theorem collect_eq_ok {rs : List (Except ε α)} {as : List α} (h : collect rs = .ok as) :
    rs = as.map .ok := by
  induction rs generalizing as with
  | nil => cases h; rfl
  | cons r rs ih =>
    unfold collect at h
    split at h
    · cases h
    · next a =>
      cases rest : collect rs with
      | error e => rw [rest] at h; cases h
      | ok bs =>
        rw [rest] at h
        cases h
        rw [ih rest, List.map_cons]

theorem rows_of_all (h : s.all = .ok ts) :
    s.poisoned = false ∧ s.targets.rows.map Row.target = ts.map .ok := by
  unfold all peek at h
  split at h
  · cases h
  · next usable =>
    refine ⟨Bool.eq_false_iff.2 usable, ?_⟩
    dsimp only at h
    split at h
    · cases h
    · exact collect_eq_ok h

theorem mem_of_all (listed : s.all = .ok ts) {u : Target} :
    u ∈ ts ↔ ∃ r ∈ s.targets.rows, r.target = .ok u := by
  obtain ⟨-, shown⟩ := rows_of_all listed
  rw [← List.mem_map, shown, List.mem_map]
  exact ⟨fun hu => ⟨u, hu, rfl⟩, fun ⟨v, hv, same⟩ => Except.ok.inj same ▸ hv⟩

/-- A target that was stored has a row under an id that was free. -/
theorem add_ok (h : (s.add t).1 = (.ok id, after)) :
    s.poisoned = false ∧ (∀ r ∈ s.targets.rows, r.id ≠ id) ∧
      ∃ targets, s.targets.insert .targets (.ofTarget t) = .ok (id, targets) ∧
        after = { s with targets } ∧
        targets.rows = Table.place ⟨id, targetCells t⟩ s.targets.rows := by
  have inserted : s.insertTarget (.ofTarget t) = (.ok id, after) := by
    unfold add at h
    split at h
    · next stored => exact stored.trans h
    · exact h
  obtain ⟨usable, stored⟩ := locked_ok inserted
  obtain ⟨targets, done, rfl⟩ := insertion_ok (execute_eq_ok_iff.1 stored)
  obtain ⟨free, vs, made, placed⟩ := Table.insert_ok done
  rw [cells_ofTarget] at made
  cases made
  exact ⟨usable, free, targets, done, rfl, placed⟩

/-- A target as it is found under the id that it was stored under. -/
def keptTarget (id : Int64) (t : Target) : Target :=
  { t with id, interval := keptCount t.interval, timeout := keptCount t.timeout }

theorem get_added (h : (s.add t).1 = (.ok id, after)) : after.get id = .ok (keptTarget id t) := by
  obtain ⟨usable, free, targets, -, rfl, placed⟩ := add_ok h
  have found : targets.row? id = some ⟨id, targetCells t⟩ := by
    obtain ⟨before, later, split, same⟩ := Table.exists_place ⟨id, targetCells t⟩ s.targets.rows
    have none : before.find? (·.id == id) = none := by
      rw [List.find?_eq_none]
      intro r hr own
      exact free r (split ▸ List.mem_append_left _ hr) (beq_iff_eq.1 own)
    rw [Table.row?, placed, same, List.find?_append, none, List.find?_cons_of_pos]
    · rfl
    · exact beq_self_eq_true id
  have usable : ({ s with targets } : Store).poisoned = false := usable
  rw [Store.get, peek_eq usable]
  dsimp only
  rw [found]
  exact target_row id t

/-- If all targets could be shown before, they still can, and the new one stands among them. -/
theorem all_added (h : (s.add t).1 = (.ok id, after)) (listed : s.all = .ok ts) :
    ∃ before later, ts = before ++ later ∧ after.all = .ok (before ++ keptTarget id t :: later) := by
  obtain ⟨usable, -, targets, -, rfl, placed⟩ := add_ok h
  obtain ⟨-, shown⟩ := rows_of_all listed
  obtain ⟨first, second, split, same⟩ := Table.exists_place ⟨id, targetCells t⟩ s.targets.rows
  rw [split, List.map_append] at shown
  obtain ⟨before, later, rfl, front, back⟩ := List.map_eq_append_iff.1 shown.symm
  refine ⟨before, later, rfl, all_of_rows usable ?_⟩
  simp only [placed, same, List.map_append, List.map_cons, ← front, ← back, target_row]
  rfl

/-- Targets that rows are read as have the ids of the rows. -/
theorem ids_of_rows {rows : List Row} (shown : rows.map Row.target = ts.map .ok) :
    ts.map (·.id) = rows.map (·.id) := by
  induction rows generalizing ts with
  | nil =>
    rw [List.map_eq_nil_iff.1 shown.symm]
    rfl
  | cons r rows ih =>
    cases ts with
    | nil => cases shown
    | cons t ts =>
      obtain ⟨own, rest⟩ := List.cons_eq_cons.1 shown
      rw [List.map_cons, List.map_cons, id_of_target own, ih rest]

end Uptime.Store
