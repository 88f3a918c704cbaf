import Uptime.Proofs.Store.Targets

/-!
# The past of a target

A hit or a failure may still be stored for a target that is already deleted, and then it stays. It
is nothing to the targets that are added later, since no id is given out twice (`noPast_perform`).
-/

namespace Uptime.Store

/-- The target that an action leaves a record of. -/
def Action.subject? : Action → Option Int64
  | .addHit h => some h.targetId
  | .addFailure f => some f.targetId
  | _ => none

/-- Histories in which records are made only of targets that were added before, whether or not they
were deleted since. -/
inductive Grounded : List Action → Prop
  | nil : Grounded []
  | concat (as : List Action) (a : Action) (before : Grounded as)
      (known : ∀ id, a.subject? = some id → ∃ t ∈ addedTargets as, t.id = id) : Grounded (as ++ [a])

/-- No hit and no failure of this target is shown, up to whatever limit. -/
def ShowsNone (s : Store) (id : Int64) : Prop :=
  ∀ now limit, s.recentHits now id limit = .ok [] ∧ s.recentFailures now id limit = .ok []

/-! ## Rows of one target -/

theorem eq_of_isInteger {v : Value} {m n : Int64} (hm : v.isInteger m = true)
    (hn : v.isInteger n = true) : m = n := by
  cases v with
  | null => cases hm
  | integer k => exact (beq_iff_eq.1 hm).symm.trans (beq_iff_eq.1 hn)
  | real x =>
    have same := (beq_iff_eq.1 hm).symm.trans (beq_iff_eq.1 hn)
    exact Int64.toInt_inj.1 (Option.some.inj same)
  | text s => cases hm
  | blob => cases hm

/-- A row belongs to one target at most. -/
theorem eq_of_belongsTo {r : Row} {id other : Int64} (h : belongsTo id r = true)
    (h' : belongsTo other r = true) : id = other :=
  eq_of_isInteger h h'

theorem recent_eq_nil {column : Nat} {id limit : Int64} {t : Table}
    (h : ∀ r ∈ t.rows, belongsTo id r = false) : recent column id limit t = [] := by
  have none : t.rows.filter (belongsTo id) = [] := by
    rw [List.filter_eq_nil_iff]
    exact fun r hr => ne_true_of_eq_false (h r hr)
  rw [recent, none, List.mergeSort_nil, cut, List.take_nil, ite_self]

/-- What is shown of a target stays when another one goes. -/
theorem recent_keep {column : Nat} {id other limit : Int64} {t : Table} (ne : other ≠ id) :
    recent column other limit (t.keep fun r => !belongsTo id r) = recent column other limit t := by
  have same : (t.keep fun r => !belongsTo id r).rows.filter (belongsTo other) =
      t.rows.filter (belongsTo other) := by
    rw [Table.keep, List.filter_filter]
    refine List.filter_congr fun r _ => ?_
    cases own : belongsTo other r with
    | false => rfl
    | true =>
      have foreign : belongsTo id r = false := by
        rw [← Bool.not_eq_true]
        exact fun h => ne (eq_of_belongsTo own h)
      rw [foreign]
      rfl
  rw [recent, recent, same]

theorem showsNone_of_rows {s : Store} {id : Int64} (usable : s.poisoned = false)
    (hits : ∀ r ∈ s.hits.rows, belongsTo id r = false)
    (failures : ∀ r ∈ s.failures.rows, belongsTo id r = false) : s.ShowsNone id := by
  intro now limit
  constructor
  · rw [recentHits, peek_eq usable, recent_eq_nil hits]
    rfl
  · rw [recentFailures, peek_eq usable, recent_eq_nil failures]
    rfl

/-! ## Records of known targets -/

theorem records_append (made : Store → Action → Option α) (as bs : List Action) (s : Store) :
    records made (as ++ bs) s = records made as s ++ records made bs (perform as s) := by
  induction as generalizing s with
  | nil => rfl
  | cons a as ih => rw [List.cons_append, records, records, ih, List.append_assoc, perform]

theorem Grounded.known {as : List Action} (grounded : Grounded as) {a : Action} (ha : a ∈ as)
    {id : Int64} (subject : a.subject? = some id) : ∃ t ∈ addedTargets as, t.id = id := by
  induction grounded with
  | nil => cases ha
  | concat as b _ known ih =>
    have earlier : ∃ t ∈ addedTargets as, t.id = id := by
      rcases List.mem_append.1 ha with old | new
      · exact ih old
      · exact known id (List.mem_singleton.1 new ▸ subject)
    obtain ⟨t, ht, same⟩ := earlier
    refine ⟨t, ?_, same⟩
    rw [addedTargets, records_append]
    exact List.mem_append_left _ ht

/-- Every row belongs to a target that was added. -/
theorem Keeps.known {table : Store → Table} {made : Store → Action → Option α} {row : α → Row}
    {owner : α → Int64} (k : Keeps table made row owner)
    (subject : ∀ s a e, made s a = some e → a.subject? = some (owner e))
    (belongs : ∀ e id, belongsTo id (row e) = (owner e == id)) {as : List Action}
    (grounded : Grounded as) :
    ∀ r ∈ (table (perform as {})).rows, ∃ t ∈ addedTargets as, ∀ id,
      belongsTo id r = (t.id == id) := by
  intro r hr
  rw [(k.holds as).rows] at hr
  obtain ⟨e, he, rfl⟩ := List.mem_map.1 hr
  obtain ⟨a, ha, s, some⟩ := mem_standing he
  obtain ⟨t, ht, same⟩ := grounded.known ha (subject s a e some)
  exact ⟨t, ht, fun id => same ▸ belongs e id⟩

theorem subject?_of_hit? (s : Store) (a : Action) (e : Int64 × Hit) (h : a.hit? s = some e) :
    a.subject? = some e.2.targetId := by
  cases a with
  | addHit hit =>
    obtain ⟨_, -, rfl⟩ := Option.map_eq_some_iff.1 h
    rfl
  | _ => cases h

theorem subject?_of_failure? (s : Store) (a : Action) (e : Int64 × Failure)
    (h : a.failure? s = some e) : a.subject? = some e.2.targetId := by
  cases a with
  | addFailure failure =>
    obtain ⟨_, -, rfl⟩ := Option.map_eq_some_iff.1 h
    rfl
  | _ => cases h

/-- The id of a new target is above all that were given out. -/
theorem lt_of_add {as : List Action} {t : Target} {id : Int64}
    (added : ((perform as {}).add t).1.1 = .ok id) : ∀ u ∈ addedTargets as, u.id < id := by
  have next := add_next (keeps_targets.holds as) t
  split at next
  · obtain ⟨new, after, answer, -, above⟩ := next
    rw [answer] at added
    exact Except.ok.inj added ▸ above
  · rw [next] at added
    cases added

/-- Directly after a target was added there is nothing to be shown of it, and directly after it was
deleted there is nothing either; what is shown of the others stays. -/
theorem noPast_perform {as : List Action} (grounded : Grounded as) :
    let s := perform as {}
    (∀ t id, (s.add t).1.1 = .ok id → (s.add t).1.2.ShowsNone id) ∧
    ∀ id, (s.delete id).1 = .ok () ∧ (s.delete id).2.ShowsNone id ∧
      ∀ other, other ≠ id → ∀ now limit,
        (s.delete id).2.recentHits now other limit = s.recentHits now other limit ∧
        (s.delete id).2.recentFailures now other limit = s.recentFailures now other limit := by
  intro s
  have usable : s.poisoned = false := (keeps_targets.holds as).usable
  constructor
  · intro t id added
    obtain ⟨targets, after⟩ := add_changes s t
    -- The row of an old record would make the new id one of those that were given out.
    have foreign : ∀ r : Row, (∃ u ∈ addedTargets as, ∀ id, belongsTo id r = (u.id == id)) →
        belongsTo id r = false := by
      rintro r ⟨u, hu, belongs⟩
      rw [belongs, beq_eq_false_iff_ne]
      exact Int64.ne_of_lt (lt_of_add added u hu)
    have hits := keeps_hits.known subject?_of_hit? (fun _ _ => rfl) grounded
    have failures := keeps_failures.known subject?_of_failure? (fun _ _ => rfl) grounded
    rw [after]
    exact showsNone_of_rows usable (fun r hr => foreign r (hits r hr))
      fun r hr => foreign r (failures r hr)
  · intro id
    rw [delete_eq usable]
    have gone : ∀ t : Table, ∀ r ∈ (t.keep fun r => !belongsTo id r).rows,
        belongsTo id r = false := by
      intro t r hr
      simpa using (List.mem_filter.1 hr).2
    refine ⟨rfl, showsNone_of_rows usable (gone s.hits) (gone s.failures), ?_⟩
    intro other ne now limit
    simp only [recentHits, recentFailures, recent_keep ne, peek]
    exact ⟨trivial, trivial⟩

/-- A target is deleted while it is being checked, so that its last hit comes late. -/
def lateHit : List Action :=
  [.add { name := "a" }, .delete 1, .addHit ⟨1, 0.5, 0.25, ⟨0, 0⟩⟩, .reopen]

/-- The hit stays, but the next target has none, and deleting the first one anew removes it. -/
theorem noPast_perform_lateHit :
    let s := perform lateHit {}
    Grounded lateHit ∧ s.hits.rows.length = 1 ∧
      (s.add { name := "b" }).1.1 = .ok 2 ∧ (s.add { name := "b" }).1.2.ShowsNone 2 ∧
      (s.delete 1).2.ShowsNone 1 := by
  intro s
  have grounded : Grounded lateHit := by
    refine .concat (lateHit.take 3) .reopen (.concat (lateHit.take 2) _ ?_ ?_) nofun
    · exact .concat (lateHit.take 1) _ (.concat [] _ .nil nofun) nofun
    · rintro id ⟨⟩
      exact ⟨{ id := 1, name := "a" }, List.mem_singleton.2 rfl, rfl⟩
  obtain ⟨adding, deleting⟩ := noPast_perform grounded
  have added : (s.add { name := "b" }).1.1 = .ok 2 := by rfl
  exact ⟨grounded, rfl, added, adding _ 2 added, (deleting 1).2.1⟩

end Uptime.Store
