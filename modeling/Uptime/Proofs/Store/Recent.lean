import Mathlib.Data.List.Forall2
import Uptime.Proofs.Number.Double
import Uptime.Proofs.Store.History
import Uptime.Proofs.Time.StoredText

/-!
# The hits and failures of a target

What is shown of a target are its hits or failures since it was last deleted, each as it was stored,
the latest first (`recent_perform`). They are sorted by the texts of their times, which sort like
what they tell (`Instant.settled`), and then by the ids of their rows, which ascend in the order of
creation. A leap second that does not end a minute is told as the second after it, so its record is
sorted and shown as one of that second (`times_not_kept`).
-/

namespace Uptime

/-- The times of the hit are numbers, and its date is one that is stored in order. -/
structure Hit.Storable (h : Hit) : Prop where
  latency : h.latency.isNaN = false
  pingTime : h.pingTime.isNaN = false
  createdAt : h.createdAt.Storable

/-- The time of the failure is a number, and its date is one that is stored in order. -/
structure Failure.Storable (f : Failure) : Prop where
  pingTime : f.pingTime.isNaN = false
  createdAt : f.createdAt.Storable

/-- The first hit is the second one as it is shown: the same but for the sign of a zero, with the
time that its text tells. -/
structure Hit.Same (a b : Hit) : Prop where
  targetId : a.targetId = b.targetId
  latency : (a.latency == b.latency) = true
  pingTime : (a.pingTime == b.pingTime) = true
  createdAt : a.createdAt = b.createdAt.settled

/-- The first failure is the second one as it is shown: the same but for the sign of a zero, with
the time that its text tells. -/
structure Failure.Same (a b : Failure) : Prop where
  targetId : a.targetId = b.targetId
  issue : a.issue = b.issue
  pingTime : (a.pingTime == b.pingTime) = true
  errorCode : a.errorCode = b.errorCode
  createdAt : a.createdAt = b.createdAt.settled

namespace Store

/-- The hits of a target that a history of a new store stored since the target was last deleted, in
the order in which they were stored. -/
def hitsOf (id : Int64) (as : List Action) : List Hit :=
  ((standing Action.hit? (·.2.targetId) as {} []).map (·.2)).filter (·.targetId == id)

/-- How many hits a history of a new store stored. -/
def hitCount (as : List Action) : Nat := (records Action.hit? as {}).length

/-- How many failures a history of a new store stored. -/
def failureCount (as : List Action) : Nat := (records Action.failure? as {}).length

/-- The failures of a target that a history of a new store stored since the target was last deleted,
in the order in which they were stored. -/
def failuresOf (id : Int64) (as : List Action) : List Failure :=
  ((standing Action.failure? (·.2.targetId) as {} []).map (·.2)).filter (·.targetId == id)

/-- All that was created is shown once, later times first, and of equal times what was created later
first. -/
structure NewestFirst (time : α → Instant) (created shown : List α) : Prop where
  perm : shown.Perm created
  descending : shown.Pairwise fun a b => ¬(time a).Before (time b)
  ties : ∀ t, shown.filter (time · == t) = (created.filter (time · == t)).reverse

/-- The first of a list; a limit below zero is none. -/
def upTo (limit : Int64) (xs : List α) : List α :=
  if limit < 0 then xs else xs.take limit.toInt.toNat

/-! ## The order of rows -/

theorem newer_iff {column : Nat} {a b : Row} : newer column a b = true ↔
    timeKey column b < timeKey column a ∨
      timeKey column a = timeKey column b ∧ b.id ≤ a.id := by
  unfold newer
  simp only []
  by_cases same : timeKey column a = timeKey column b
  · rw [if_pos same, decide_eq_true_eq, same]
    exact ⟨fun le => .inr ⟨rfl, le⟩, fun h => h.elim (absurd · (String.lt_irrefl _)) (·.2)⟩
  · rw [if_neg same, decide_eq_true_eq]
    exact ⟨.inl, fun h => h.elim id (absurd ·.1 same)⟩

theorem newer_trans {column : Nat} (a b c : Row) (ab : newer column a b = true)
    (bc : newer column b c = true) : newer column a c = true := by
  rw [newer_iff] at *
  rcases ab with lt | ⟨ab, le⟩
  · rcases bc with lt' | ⟨bc, -⟩
    · exact .inl (String.lt_trans lt' lt)
    · exact .inl (bc ▸ lt)
  · rcases bc with lt' | ⟨bc, le'⟩
    · exact .inl (ab ▸ lt')
    · exact .inr ⟨ab.trans bc, Int64.le_trans le' le⟩

theorem newer_total {column : Nat} (a b : Row) :
    (newer column a b || newer column b a) = true := by
  rw [Bool.or_eq_true, newer_iff, newer_iff]
  by_cases ab : timeKey column a < timeKey column b
  · exact .inr (.inl ab)
  · by_cases ba : timeKey column b < timeKey column a
    · exact .inl (.inl ba)
    · have same := String.le_antisymm (String.not_lt.1 ba) (String.not_lt.1 ab)
      exact (Int64.le_total b.id a.id).imp (fun le => .inr ⟨same, le⟩)
        (fun le => .inr ⟨same.symm, le⟩)

section

variable {row : Int64 × α → Row} {time : α → Instant} {column : Nat} {es : List (Int64 × α)}

/-- Rows whose ids ascend in the order of creation are sorted newest first. -/
theorem newestFirst_mergeSort (ascending : es.Pairwise fun a b => a.1 < b.1)
    (rowId : ∀ e, (row e).id = e.1) (key : ∀ e, timeKey column (row e) = (time e.2).text)
    (storable : ∀ e ∈ es, (time e.2).Storable) :
    NewestFirst (fun a => (time a).settled) (es.map (·.2))
      ((es.mergeSort fun a b => newer column (row a) (row b)).map (·.2)) := by
  have perm := List.mergeSort_perm es fun a b => newer column (row a) (row b)
  have sorted := @List.pairwise_mergeSort _ (fun a b => newer column (row a) (row b))
    (fun a b c => newer_trans (row a) (row b) (row c)) (fun a b => newer_total (row a) (row b)) es
  generalize es.mergeSort (fun a b => newer column (row a) (row b)) = shown at *
  have known : ∀ e ∈ shown, (time e.2).Storable := fun e he => storable e (perm.mem_iff.1 he)
  refine ⟨perm.map _, ?_, ?_⟩
  · rw [List.pairwise_map]
    refine sorted.imp_of_mem fun {a b} ha hb newer before => ?_
    rw [newer_iff, key, key] at newer
    rw [← Instant.text_lt_iff (known a ha) (known b hb)] at before
    rcases newer with lt | ⟨same, -⟩
    · exact String.lt_asymm before lt
    · exact String.lt_irrefl _ (same ▸ before)
  · intro t
    rw [List.filter_map, List.filter_map, ← List.map_reverse]
    refine congrArg (List.map _) ?_
    have distinct : shown.Pairwise fun a b => a.1 ≠ b.1 :=
      (perm.pairwise_iff Ne.symm).2 (ascending.imp fun lt => Int64.ne_of_lt lt)
    -- Among equal times both lists descend strictly in the ids, so they are the same.
    refine @List.Perm.eq_of_pairwise _ (fun a b => b.1 < a.1) _ _ ?_ ?_ ?_ ?_
    · exact fun a b _ _ ab ba => absurd ab (Int64.lt_asymm ba)
    · rw [List.pairwise_filter]
      refine (sorted.and distinct).imp_of_mem fun {a b} inA inB ⟨newer, other⟩ ha hb => ?_
      have same : (time a.2).text = (time b.2).text := by
        rw [← Instant.text_settled (known a inA).representable, beq_iff_eq.1 ha,
          ← beq_iff_eq.1 hb, Instant.text_settled (known b inB).representable]
      rw [newer_iff, key, key, rowId, rowId, same] at newer
      rcases newer with lt | ⟨-, le⟩
      · exact absurd lt (String.lt_irrefl _)
      · exact Int64.lt_of_le_of_ne le other.symm
    · rw [List.pairwise_reverse]
      exact ascending.filter _
    · exact (perm.filter _).trans (List.reverse_perm _).symm

theorem cut_map (limit : Int64) (f : α → Row) (xs : List α) :
    cut limit (xs.map f) = (upTo limit xs).map f := by
  unfold cut upTo
  split
  · rfl
  · rw [List.map_take]

theorem map_upTo (limit : Int64) (f : α → β) (xs : List α) :
    (upTo limit xs).map f = upTo limit (xs.map f) := by
  unfold upTo
  split
  · rfl
  · rw [List.map_take]

theorem mem_of_mem_upTo {limit : Int64} {xs : List α} {x : α} (h : x ∈ upTo limit xs) :
    x ∈ xs := by
  unfold upTo at h
  split at h
  · exact h
  · exact List.mem_of_mem_take h

/-- What is shown of a table that keeps records are the records of the target, newest first. -/
theorem Keeps.recent {table : Store → Table} {made : Store → Action → Option (Int64 × α)}
    {owner : α → Int64} (k : Keeps table made row fun e => owner e.2) (time : α → Instant)
    (column : Nat) {id : Int64} (rowId : ∀ e, (row e).id = e.1)
    (key : ∀ e, timeKey column (row e) = (time e.2).text)
    (belongs : ∀ e, belongsTo id (row e) = (owner e.2 == id)) {as : List Action}
    (storable : ∀ e ∈ standing made (fun e => owner e.2) as {} [], (time e.2).Storable) :
    ∃ shown, NewestFirst (fun a => (time a).settled)
        (((standing made (fun e => owner e.2) as {} []).map (·.2)).filter (owner · == id))
        (shown.map (·.2)) ∧
      (∀ e ∈ shown, e ∈ standing made (fun e => owner e.2) as {} []) ∧
      ∀ limit,
        Store.recent column id limit (table (perform as {})) = (upTo limit shown).map row := by
  have holds := k.holds as
  have ascending : (standing made (fun e => owner e.2) as {} []).Pairwise fun a b => a.1 < b.1 :=
    (holds.ascending.sublist (sublist_standing _ _ as)).imp fun {a b} lt => rowId a ▸ rowId b ▸ lt
  generalize standing made (fun e => owner e.2) as {} [] = es at *
  refine ⟨(es.filter fun e => owner e.2 == id).mergeSort fun a b => newer column (row a) (row b),
    ?_, ?_, ?_⟩
  · rw [List.filter_map]
    exact newestFirst_mergeSort (ascending.filter _) rowId key
      fun e he => storable e (List.mem_filter.1 he).1
  · exact fun e he => (List.mem_filter.1 (List.mem_mergeSort.1 he)).1
  · intro limit
    have same : belongsTo id ∘ row = fun e => owner e.2 == id := funext belongs
    rw [Store.recent, holds.rows, List.filter_map, same, ← cut_map]
    congr 1
    exact (List.map_mergeSort (f := row) fun _ _ _ _ => rfl).symm

end

/-! ## What is read -/

theorem keptDouble_beq {x : Float} (number : x.isNaN = false) : (keptDouble x == x) = true := by
  unfold keptDouble
  split
  · next zero => exact Number.zero_beq zero
  · exact Number.beq_self number

/-- The hit as it is read from its row. -/
def keptHit (h : Hit) : Hit :=
  { h with
    latency := keptDouble h.latency
    pingTime := keptDouble h.pingTime
    createdAt := h.createdAt.settled }

/-- The failure as it is read from its row. -/
def keptFailure (f : Failure) : Failure :=
  { f with pingTime := keptDouble f.pingTime, createdAt := f.createdAt.settled }

theorem same_keptHit {h : Hit} (storable : h.Storable) : (keptHit h).Same h where
  targetId := rfl
  latency := keptDouble_beq storable.latency
  pingTime := keptDouble_beq storable.pingTime
  createdAt := rfl

theorem same_keptFailure {f : Failure} (storable : f.Storable) : (keptFailure f).Same f where
  targetId := rfl
  issue := rfl
  pingTime := keptDouble_beq storable.pingTime
  errorCode := rfl
  createdAt := rfl

theorem read_hitRow (now : Instant) {e : Int64 × Hit} (storable : e.2.Storable) :
    (hitRow e).hit now = .ok (keptHit e.2) := by
  rw [hitRow, hit_row, storable.createdAt.read?_text]
  rfl

theorem read_failureRow (now : Instant) {e : Int64 × Failure} (storable : e.2.Storable) :
    (failureRow e).failure now = .ok (keptFailure e.2) := by
  rw [failureRow, failure_row, storable.createdAt.read?_text]
  rfl

theorem collect_map {f : α → Except ε β} {g : α → β} {xs : List α}
    (h : ∀ x ∈ xs, f x = .ok (g x)) : collect (xs.map f) = .ok (xs.map g) := by
  induction xs with
  | nil => rfl
  | cons x xs ih =>
    have rest := ih fun y hy => h y (List.mem_cons_of_mem x hy)
    simp only [List.map_cons, collect, h x List.mem_cons_self, rest]
    rfl

/-- What is read of the rows that are shown, if each record is read from its row as `kept`. -/
theorem Keeps.shown {table : Store → Table} {made : Store → Action → Option (Int64 × α)}
    {row : Int64 × α → Row} {owner : α → Int64} (k : Keeps table made row fun e => owner e.2)
    (time : α → Instant) (column : Nat) {id : Int64} (rowId : ∀ e, (row e).id = e.1)
    (key : ∀ e, timeKey column (row e) = (time e.2).text)
    (belongs : ∀ e, belongsTo id (row e) = (owner e.2 == id)) {as : List Action}
    (storable : ∀ e ∈ standing made (fun e => owner e.2) as {} [], (time e.2).Storable)
    {read : Instant → Row → Except SqlError α} {kept : α → α} {Same : α → α → Prop}
    (reads : ∀ e ∈ standing made (fun e => owner e.2) as {} [], ∀ now,
      read now (row e) = .ok (kept e.2))
    (same : ∀ e ∈ standing made (fun e => owner e.2) as {} [], Same (kept e.2) e.2) :
    ∃ shown, NewestFirst (fun a => (time a).settled)
        (((standing made (fun e => owner e.2) as {} []).map (·.2)).filter (owner · == id)) shown ∧
      ∀ now limit, ∃ xs, (perform as {}).peek
        ((collect ((Store.recent column id limit (table (perform as {}))).map
          (read now))).mapError .sql) = .ok xs ∧ List.Forall₂ Same xs (upTo limit shown) := by
  obtain ⟨shown, order, known, recent⟩ := k.recent time column rowId key belongs storable
  have known : ∀ limit, ∀ e ∈ upTo limit shown, e ∈ standing made (fun e => owner e.2) as {} [] :=
    fun limit e he => known e (mem_of_mem_upTo he)
  refine ⟨shown.map Prod.snd, order, fun now limit => ⟨(upTo limit shown).map (kept ·.2), ?_, ?_⟩⟩
  · have read := collect_map fun e he => reads e (known limit e he) now
    rw [peek_eq (k.holds as).usable, recent, List.map_map, Function.comp_def, read]
    rfl
  · rw [← map_upTo, List.forall₂_map_left_iff, List.forall₂_map_right_iff, List.forall₂_same]
    exact fun e he => same e (known limit e he)

theorem storable_hit {as : List Action} (storable : ∀ h, .addHit h ∈ as → h.Storable)
    {e : Int64 × Hit} (he : e ∈ standing Action.hit? (·.2.targetId) as {} []) : e.2.Storable := by
  obtain ⟨a, ha, s, made⟩ := mem_standing he
  cases a with
  | addHit h =>
    obtain ⟨_, -, rfl⟩ := Option.map_eq_some_iff.1 made
    exact storable h ha
  | _ => cases made

theorem storable_failure {as : List Action} (storable : ∀ f, .addFailure f ∈ as → f.Storable)
    {e : Int64 × Failure} (he : e ∈ standing Action.failure? (·.2.targetId) as {} []) :
    e.2.Storable := by
  obtain ⟨a, ha, s, made⟩ := mem_standing he
  cases a with
  | addFailure f =>
    obtain ⟨_, -, rfl⟩ := Option.map_eq_some_iff.1 made
    exact storable f ha
  | _ => cases made

/-- The hits of a target are shown newest first after every history, up to any limit. -/
theorem recentHits_perform {as : List Action} (storable : ∀ h, .addHit h ∈ as → h.Storable)
    (id : Int64) : ∃ shown, NewestFirst (·.createdAt.settled) (hitsOf id as) shown ∧ ∀ now limit,
      ∃ hs, (perform as {}).recentHits now id limit = .ok hs ∧
        List.Forall₂ Hit.Same hs (upTo limit shown) := by
  have key : ∀ e, timeKey 3 (hitRow e) = e.2.createdAt.text := fun _ => rfl
  have belongs : ∀ e, belongsTo id (hitRow e) = (e.2.targetId == id) := fun _ => rfl
  exact keeps_hits.shown (·.createdAt) 3 (fun _ => rfl) key belongs
    (fun e he => (storable_hit storable he).createdAt)
    (fun e he now => read_hitRow now (storable_hit storable he))
    fun e he => same_keptHit (storable_hit storable he)

/-- The failures of a target are shown newest first after every history, up to any limit. -/
theorem recentFailures_perform {as : List Action}
    (storable : ∀ f, .addFailure f ∈ as → f.Storable) (id : Int64) :
    ∃ shown, NewestFirst (·.createdAt.settled) (failuresOf id as) shown ∧ ∀ now limit,
      ∃ fs, (perform as {}).recentFailures now id limit = .ok fs ∧
        List.Forall₂ Failure.Same fs (upTo limit shown) := by
  have key : ∀ e, timeKey 4 (failureRow e) = e.2.createdAt.text := fun _ => rfl
  have belongs : ∀ e, belongsTo id (failureRow e) = (e.2.targetId == id) := fun _ => rfl
  exact keeps_failures.shown (·.createdAt) 4 (fun _ => rfl) key belongs
    (fun e he => (storable_failure storable he).createdAt)
    (fun e he now => read_failureRow now (storable_failure storable he))
    fun e he => same_keptFailure (storable_failure storable he)

/-- A hit whose times are numbers is stored as long as there is an id. -/
theorem addHit_perform (as : List Action) {h : Hit} (storable : h.Storable) :
    if hitCount as < Table.lastId then ∃ row, ((perform as {}).addHit h).1 = .ok row
    else ((perform as {}).addHit h).1 = .error (.sql .full) := by
  have holds := keeps_hits.holds as
  have count : (perform as {}).hits.sequence = hitCount as := holds.count
  have latency := (Number.isNaN_eq h.latency).trans storable.latency
  have pingTime := (Number.isNaN_eq h.pingTime).trans storable.pingTime
  rw [addHit_eq holds.usable holds.sound, count]
  split
  · simp only [latency, pingTime, Bool.false_eq_true, if_false]
    exact ⟨_, rfl⟩
  · rfl

/-- A failure whose time is a number is stored as long as there is an id. -/
theorem addFailure_perform (as : List Action) {f : Failure} (storable : f.Storable) :
    if failureCount as < Table.lastId then ∃ row, ((perform as {}).addFailure f).1 = .ok row
    else ((perform as {}).addFailure f).1 = .error (.sql .full) := by
  have holds := keeps_failures.holds as
  have count : (perform as {}).failures.sequence = failureCount as := holds.count
  have pingTime := (Number.isNaN_eq f.pingTime).trans storable.pingTime
  rw [addFailure_eq holds.usable holds.sound, count]
  split
  · simp only [pingTime, Bool.false_eq_true, if_false]
    exact ⟨_, rfl⟩
  · rfl

/-- What is shown of a target after a history is what was stored of it since it was last deleted,
newest first and up to the limit, each with the time that its text tells. Nothing is refused as long
as there are ids. -/
theorem recent_perform {as : List Action} (hits : ∀ h, .addHit h ∈ as → h.Storable)
    (failures : ∀ f, .addFailure f ∈ as → f.Storable) (id : Int64) :
    (∃ shown, NewestFirst (·.createdAt.settled) (hitsOf id as) shown ∧ ∀ now limit,
      ∃ hs, (perform as {}).recentHits now id limit = .ok hs ∧
        List.Forall₂ Hit.Same hs (upTo limit shown)) ∧
    (∃ shown, NewestFirst (·.createdAt.settled) (failuresOf id as) shown ∧ ∀ now limit,
      ∃ fs, (perform as {}).recentFailures now id limit = .ok fs ∧
        List.Forall₂ Failure.Same fs (upTo limit shown)) ∧
    (∀ h : Hit, h.Storable →
      if hitCount as < Table.lastId then ∃ row, ((perform as {}).addHit h).1 = .ok row
      else ((perform as {}).addHit h).1 = .error (.sql .full)) ∧
    ∀ f : Failure, f.Storable →
      if failureCount as < Table.lastId then ∃ row, ((perform as {}).addFailure f).1 = .ok row
      else ((perform as {}).addFailure f).1 = .error (.sql .full) :=
  ⟨recentHits_perform hits id, recentFailures_perform failures id, fun _ => addHit_perform as,
    fun _ => addFailure_perform as⟩

/-- A hit in a leap second. -/
def leapHit : Hit := ⟨1, 0.25, -0.0, ⟨1483228799, 1500000000⟩⟩

/-- A hit at the midnight after it. -/
def midnightHit : Hit := ⟨1, 0.5, 0.5, ⟨1483228800, 0⟩⟩

/-- The later hit is stored between two equal ones, and another target goes. -/
def logged : List Action :=
  [.addHit leapHit, .addHit { leapHit with targetId := 2 }, .addHit midnightHit, .delete 2, .reopen,
    .addFailure ⟨1, "timeout", 1, 4, ⟨1483228799, 999999999⟩⟩, .addHit leapHit]

/-- Of the equal leap seconds the later comes first; nothing is left of the target that went. -/
theorem recent_perform_logged :
    ((∀ h, .addHit h ∈ logged → h.Storable) ∧ ∀ f, .addFailure f ∈ logged → f.Storable) ∧
    (∃ shown, NewestFirst (·.createdAt.settled) [leapHit, midnightHit, leapHit] shown ∧
      ∀ now limit, ∃ hs, (perform logged {}).recentHits now 1 limit = .ok hs ∧
        List.Forall₂ Hit.Same hs (upTo limit shown)) ∧
    ∃ shown, NewestFirst (·.createdAt.settled) [] shown ∧ ∀ now limit,
      ∃ hs, (perform logged {}).recentHits now 2 limit = .ok hs ∧
        List.Forall₂ Hit.Same hs (upTo limit shown) := by
  have hits : ∀ h, .addHit h ∈ logged → h.Storable := by
    intro h hh
    simp only [logged, List.mem_cons, Action.addHit.injEq, reduceCtorEq, List.not_mem_nil,
      or_false, false_or] at hh
    rcases hh with rfl | rfl | rfl | rfl <;>
      exact ⟨by decide, by decide, ⟨by decide, by decide⟩⟩
  have failures : ∀ f, .addFailure f ∈ logged → f.Storable := by
    intro f hf
    simp only [logged, List.mem_cons, Action.addFailure.injEq, reduceCtorEq, List.not_mem_nil,
      or_false, false_or] at hf
    obtain rfl := hf
    exact ⟨by decide, ⟨by decide, by decide⟩⟩
  exact ⟨⟨hits, failures⟩, (recent_perform hits failures 1).1, (recent_perform hits failures 2).1⟩

/-- A hit in a leap second that does not end a minute. -/
def strayHit : Hit := ⟨1, 0.25, 0.5, ⟨30, 1500000000⟩⟩

/-- Not every hit is shown with the time that it was made at: this one is shown as one of the next
second. -/
theorem times_not_kept : ¬∀ (as : List Action) (id : Int64),
    (∀ h, .addHit h ∈ as → h.Storable) → ∃ shown, NewestFirst (·.createdAt) (hitsOf id as) shown ∧
      ∀ now limit, ∃ hs, (perform as {}).recentHits now id limit = .ok hs ∧
        List.Forall₂ (fun a b => a.createdAt = b.createdAt) hs (upTo limit shown) := by
  intro kept
  have storable : ∀ h, .addHit h ∈ [Action.addHit strayHit] → h.Storable := by
    intro h hh
    obtain rfl := Action.addHit.inj (List.mem_singleton.1 hh)
    exact ⟨by decide, by decide, ⟨by decide, by decide⟩⟩
  have one : hitsOf 1 [.addHit strayHit] = [strayHit] := by rfl
  obtain ⟨claimed, order, claim⟩ := kept [.addHit strayHit] 1 storable
  obtain ⟨told, order', telling⟩ := recentHits_perform storable 1
  obtain rfl : claimed = [strayHit] := List.perm_singleton.1 (one ▸ order.perm)
  obtain rfl : told = [strayHit] := List.perm_singleton.1 (one ▸ order'.perm)
  obtain ⟨hs, shown, exact⟩ := claim ⟨0, 0⟩ (-1)
  obtain ⟨hs', shown', same⟩ := telling ⟨0, 0⟩ (-1)
  obtain rfl := Except.ok.inj (shown.symm.trans shown')
  obtain ⟨h, rest, at', -, rfl⟩ := List.forall₂_cons_right_iff.1 exact
  obtain ⟨h', rest', told, -, cons⟩ := List.forall₂_cons_right_iff.1 same
  obtain ⟨rfl, -⟩ := List.cons.inj cons
  exact absurd (at'.symm.trans told.createdAt) (by decide)

end Store

end Uptime
