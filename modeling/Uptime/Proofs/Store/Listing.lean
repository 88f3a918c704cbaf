import Uptime.Proofs.Store.Failing
import Uptime.Proofs.Store.Insertion

/-!
# All targets and each of them

Whatever stands in the rows, a list of all targets is what each id gives on its own, in the order of
the ids (`all_asEach`). Where an id gives an error instead, the list fails with the error of the
lowest id; but an error of the database counts before any kind that does not exist, also before one
of a lower id, although within a row the kind is read first.
-/

namespace Uptime

/-- Whether the database itself failed. -/
def StoreError.IsSql (e : StoreError) : Prop := ∃ q, e = .sql q

/-- Whether a row could be read up to a kind that does not exist. -/
def StoreError.IsInvalidRow (e : StoreError) : Prop := ∃ word, e = .invalidRow word

namespace Store

variable {s : Store} {e : StoreError} {id : Int64}

/-- The ids of the targets. -/
def ids (s : Store) : List Int64 := s.targets.rows.map (·.id)

/-- `e` is the error of the lowest id that gives one of this kind. -/
def LowestFault (kind : StoreError → Prop) (s : Store) (e : StoreError) : Prop :=
  ∃ id ∈ s.ids, s.get id = .error e ∧ kind e ∧
    ∀ i ∈ s.ids, i < id → ∀ d, s.get i = .error d → ¬kind d

/-! ## One row -/

/-- The ids in front of a row are the lower ones. -/
theorem Table.Keyed.lt_iff {t : Table} (keyed : t.Keyed) {front back : List Row} {r : Row}
    (split : t.rows = front ++ r :: back) {x : Row} :
    x ∈ t.rows ∧ x.id < r.id ↔ x ∈ front := by
  rw [Keyed, split, List.pairwise_append] at keyed
  obtain ⟨-, later, across⟩ := keyed
  rw [split, List.mem_append, List.mem_cons]
  constructor
  · rintro ⟨inFront | rfl | inBack, lower⟩
    · exact inFront
    · exact (Int64.lt_irrefl lower).elim
    · exact absurd lower (Int64.lt_asymm (List.rel_of_pairwise_cons later inBack))
  · intro inFront
    exact ⟨.inl inFront, across x inFront r List.mem_cons_self⟩

theorem get_of_mem (usable : s.poisoned = false) (keyed : s.targets.Keyed) {r : Row}
    (hr : r ∈ s.targets.rows) : s.get r.id = r.target := by
  obtain ⟨front, back, split⟩ := List.append_of_mem hr
  have found : s.targets.row? r.id = some r := by
    refine List.find?_eq_some_iff_append.2 ⟨beq_self_eq_true _, front, back, split, fun x hx => ?_⟩
    have other := Int64.ne_of_lt ((keyed.lt_iff split).2 hx).2
    simpa using other
  rw [Store.get, peek_eq usable, found]

theorem get_of_notMem (usable : s.poisoned = false) (missing : id ∉ s.ids) :
    s.get id = .error (.sql .noRow) := by
  have none : s.targets.row? id = none := by
    rw [Table.row?, List.find?_eq_none]
    intro r hr own
    exact missing (List.mem_map.2 ⟨r, hr, beq_iff_eq.1 own⟩)
  rw [Store.get, peek_eq usable, none]

/-- A row fails in the database, or its kind does not exist. -/
theorem target_eq_error {r : Row} (h : r.target = .error e) : e.IsSql ∨ e.IsInvalidRow := by
  unfold Row.target at h
  dsimp only at h
  split at h
  · cases h
    exact .inl ⟨_, rfl⟩
  · split at h
    · cases h
      exact .inr ⟨_, rfl⟩
    · exact .inl (exists_of_mapError h)

/-! ## The rows in order -/

/-- The error that a list of results comes to is that of the first one that is not there. -/
theorem collect_map_eq_error {f : β → Except ε α} {xs : List β} {e : ε}
    (h : collect (xs.map f) = .error e) :
    ∃ front x back, xs = front ++ x :: back ∧ f x = .error e ∧ ∀ y ∈ front, ∃ a, f y = .ok a := by
  induction xs with
  | nil => cases h
  | cons x xs ih =>
    cases result : f x with
    | error d =>
      rw [List.map_cons, result] at h
      cases h
      exact ⟨[], x, xs, rfl, result, nofun⟩
    | ok a =>
      rw [List.map_cons, result] at h
      obtain ⟨front, y, back, rfl, failed, before⟩ := ih (error_of_map h)
      exact ⟨x :: front, y, back, rfl, failed, List.forall_mem_cons.2 ⟨⟨a, result⟩, before⟩⟩

/-- The row of the lowest fault of a kind has none of this kind in front of it. -/
theorem lowestFault_of_split (usable : s.poisoned = false) (keyed : s.targets.Keyed)
    {kind : StoreError → Prop} {front back : List Row} {r : Row}
    (split : s.targets.rows = front ++ r :: back) (failed : r.target = .error e) (is : kind e)
    (before : ∀ x ∈ front, ∀ d, x.target = .error d → ¬kind d) : s.LowestFault kind e := by
  have hr : r ∈ s.targets.rows := by
    rw [split]
    exact List.mem_append_right _ List.mem_cons_self
  refine ⟨r.id, List.mem_map_of_mem hr, (get_of_mem usable keyed hr).trans failed, is, ?_⟩
  intro i hi lower d got
  obtain ⟨x, hx, rfl⟩ := List.mem_map.1 hi
  rw [get_of_mem usable keyed hx] at got
  exact before x ((keyed.lt_iff split).1 ⟨hx, lower⟩) d got

theorem LowestFault.unique {kind : StoreError → Prop} {d : StoreError}
    (he : s.LowestFault kind e) (hd : s.LowestFault kind d) : e = d := by
  obtain ⟨i, hi, atI, isE, lowestI⟩ := he
  obtain ⟨j, hj, atJ, isD, lowestJ⟩ := hd
  have same : i = j := by
    refine Int64.le_antisymm (Int64.not_lt.1 fun lt => ?_) (Int64.not_lt.1 fun lt => ?_)
    · exact lowestI j hj lt d atJ isD
    · exact lowestJ i hi lt e atI isE
  rw [same, atJ] at atI
  exact (Except.error.inj atI).symm

theorem isUnreadable_iff {r : Row} :
    isUnreadable r.target = true ↔ ∃ e, r.target = .error e ∧ e.IsSql := by
  constructor
  · intro unreadable
    cases result : r.target with
    | ok t =>
      rw [result] at unreadable
      cases unreadable
    | error e =>
      refine ⟨e, rfl, (target_eq_error result).resolve_right ?_⟩
      rintro ⟨word, rfl⟩
      rw [result] at unreadable
      cases unreadable
  · rintro ⟨-, result, q, rfl⟩
    rw [result]
    rfl

/-- A list that fails does so with the error of an id: the lowest one at which the database fails if
there is one, and else the lowest one whose kind does not exist. -/
theorem fault_of_all (usable : s.poisoned = false) (keyed : s.targets.Keyed)
    (h : s.all = .error e) : s.LowestFault StoreError.IsSql e ∨
      (∀ id ∈ s.ids, ∀ d, s.get id = .error d → ¬d.IsSql) ∧
        s.LowestFault StoreError.IsInvalidRow e := by
  unfold all at h
  rw [peek_eq usable, List.find?_map] at h
  cases found : s.targets.rows.find? (isUnreadable ∘ Row.target) with
  | some r =>
    obtain ⟨unreadable, front, back, split, before⟩ := List.find?_eq_some_iff_append.1 found
    obtain ⟨d, failed, is⟩ := isUnreadable_iff.1 unreadable
    rw [found, Option.map_some, failed] at h
    cases h
    refine .inl (lowestFault_of_split usable keyed split failed is fun x hx d failed is => ?_)
    have readable := before x hx
    rw [Function.comp_apply, isUnreadable_iff.2 ⟨d, failed, is⟩] at readable
    cases readable
  | none =>
    rw [found, Option.map_none] at h
    have readable : ∀ r ∈ s.targets.rows, ∀ d, r.target = .error d → ¬d.IsSql := by
      intro r hr d failed is
      exact List.find?_eq_none.1 found r hr (isUnreadable_iff.2 ⟨d, failed, is⟩)
    obtain ⟨front, r, back, split, failed, before⟩ := collect_map_eq_error h
    have hr : r ∈ s.targets.rows := by
      rw [split]
      exact List.mem_append_right _ List.mem_cons_self
    have is := (target_eq_error failed).resolve_left (readable r hr e failed)
    refine .inr ⟨fun id hid d got => ?_,
      lowestFault_of_split usable keyed split failed is fun x hx d wrong => ?_⟩
    · obtain ⟨x, hx, rfl⟩ := List.mem_map.1 hid
      rw [get_of_mem usable keyed hx] at got
      exact readable x hx d got
    · obtain ⟨t, shown⟩ := before x hx
      rw [shown] at wrong
      cases wrong

/-- The list of all targets, if there is one, is what the ids give. -/
theorem get_of_all (keyed : s.targets.Keyed) {ts : List Target} (listed : s.all = .ok ts) :
    s.ids.map s.get = ts.map .ok := by
  obtain ⟨usable, shown⟩ := rows_of_all listed
  rw [ids, List.map_map, ← shown]
  exact List.map_congr_left fun r hr => get_of_mem usable keyed hr

theorem exists_of_all (keyed : s.targets.Keyed) {ts : List Target} (listed : s.all = .ok ts)
    (hid : id ∈ s.ids) : ∃ t, s.get id = .ok t := by
  have mem : s.get id ∈ ts.map .ok := by
    rw [← get_of_all keyed listed]
    exact List.mem_map_of_mem hid
  obtain ⟨t, -, same⟩ := List.mem_map.1 mem
  exact ⟨t, same.symm⟩

/-- Where an id gives an error the list fails. -/
theorem LowestFault.all_ne_ok {kind : StoreError → Prop} (fault : s.LowestFault kind e)
    (keyed : s.targets.Keyed) (ts : List Target) : s.all ≠ .ok ts := by
  intro listed
  obtain ⟨id, hid, got, -⟩ := fault
  obtain ⟨t, shown⟩ := exists_of_all keyed listed hid
  rw [got] at shown
  cases shown

/-- All targets are listed just if every id gives one, and the list is then what the ids give in
ascending order. Otherwise the list fails with the error of the lowest id at which the database
fails, and if there is none with that of the lowest id whose kind does not exist. An id without a
row is always an error of the database. -/
theorem all_asEach (usable : s.poisoned = false) (keyed : s.targets.Keyed) :
    ((∃ ts, s.all = .ok ts) ↔ ∀ id ∈ s.ids, ∃ t, s.get id = .ok t) ∧
    (∀ ts, s.all = .ok ts → s.ids.map s.get = ts.map .ok ∧ ts.Pairwise (·.id < ·.id)) ∧
    (∀ e, s.all = .error e ↔ s.LowestFault StoreError.IsSql e ∨
      (∀ id ∈ s.ids, ∀ d, s.get id = .error d → ¬d.IsSql) ∧
        s.LowestFault StoreError.IsInvalidRow e) ∧
    ∀ id ∉ s.ids, s.get id = .error (.sql .noRow) := by
  refine ⟨⟨?_, ?_⟩, fun ts listed => ⟨get_of_all keyed listed, ?_⟩, fun e => ⟨?_, ?_⟩, ?_⟩
  · rintro ⟨ts, listed⟩ id hid
    exact exists_of_all keyed listed hid
  · intro each
    cases result : s.all with
    | ok ts => exact ⟨ts, rfl⟩
    | error e =>
      obtain ⟨id, hid, got, -⟩ | ⟨-, id, hid, got, -⟩ := fault_of_all usable keyed result
      all_goals
        obtain ⟨t, shown⟩ := each id hid
        rw [got] at shown
        cases shown
  · obtain ⟨-, shown⟩ := rows_of_all listed
    rw [← List.pairwise_map, ids_of_rows shown]
    exact List.pairwise_map.2 keyed
  · exact fault_of_all usable keyed
  · -- The list fails with the error of an id, and of the two kinds only one can be meant.
    intro fault
    cases result : s.all with
    | ok ts =>
      rcases fault with fault | ⟨-, fault⟩
      all_goals exact absurd result (fault.all_ne_ok keyed ts)
    | error d =>
      congr 1
      rcases fault_of_all usable keyed result with sql | ⟨readable, invalid⟩
      · rcases fault with fault | ⟨readable, -⟩
        · exact sql.unique fault
        · obtain ⟨id, hid, got, is, -⟩ := sql
          exact absurd is (readable id hid d got)
      · rcases fault with ⟨id, hid, got, is, -⟩ | ⟨-, fault⟩
        · exact absurd is (readable id hid e got)
        · exact invalid.unique fault
  · intro id missing
    exact get_of_notMem usable missing

/-- The row of a target with one cell of its own kind and one of its own port. -/
def oddRow (id : Int64) (kind port : Value) : Row :=
  ⟨id, [.text "a", kind, .text "host", port, .text "GET", .null, .null, .integer 0, .null,
    .integer 200, .integer 60, .integer 30]⟩

/-- A store in which nothing but the target with id 4 can be read. -/
def faulty : Store where
  targets :=
    { rows := [oddRow 3 (.text "gopher") (.integer 70000), oddRow 4 (.text " TCP ") (.integer 70),
        oddRow 7 (.text "udp") (.integer 70000), oddRow 9 (.blob [116]) .null]
      sequence := 9 }

/-- The port of the third row is the fault that counts. The kind of the first one does not exist,
which hides its port, and of the two faults it is the lesser one. -/
theorem all_asEach_faulty :
    faulty.all = .error (.sql (.outOfRange 70000 4)) ∧
      faulty.get 3 = .error (.invalidRow "gopher") ∧ faulty.get 8 = .error (.sql .noRow) := by
  have keyed : faulty.targets.Keyed := by
    unfold Table.Keyed
    decide
  obtain ⟨-, -, fails, missing⟩ := all_asEach (s := faulty) rfl keyed
  have gopher : faulty.get 3 = .error (.invalidRow "gopher") := by rfl
  have found : faulty.get 4 =
      .ok { id := 4, name := "a", kind := .tcp, address := "host", port := some 70 } := by rfl
  refine ⟨(fails _).2 (.inl ⟨7, by decide, by rfl, ⟨_, rfl⟩, fun i hi lower d got => ?_⟩), gopher,
    missing 8 (by decide)⟩
  have known : i ∈ [3, 4, 7, 9] := hi
  simp only [List.mem_cons, List.not_mem_nil, or_false] at known
  rcases known with rfl | rfl | rfl | rfl
  · rw [gopher] at got
    cases got
    exact nofun
  · rw [found] at got
    cases got
  · exact absurd lower (by decide)
  · exact absurd lower (by decide)

end Store

end Uptime
