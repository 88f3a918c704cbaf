import Uptime.Store.Table

/-!
# Tables that settle their ids

Rows that come without an id get ascending ones, so in a table of such rows none has an id above the
last that was given out (`Table.Sound`). A new row then stands behind all others, under an id that
no row had before (`insert_eq`), as long as there is an id left.
-/

namespace Uptime.Store.Table

/-- The ids are positive and ascend, and none is above the last that was given out. -/
structure Sound (t : Table) : Prop where
  ascending : t.rows.Pairwise (·.id < ·.id)
  positive : ∀ r ∈ t.rows, 0 < r.id
  given : ∀ r ∈ t.rows, r.id.toInt ≤ t.sequence
  bounded : t.sequence ≤ lastId

/-- The id of the next row. -/
def nextId (t : Table) : Int64 := Int64.ofNat (t.sequence + 1)

/-- The table with one more row, which has the next id. -/
def append (cells : List Value) (t : Table) : Table where
  rows := t.rows ++ [⟨t.nextId, cells⟩]
  sequence := t.sequence + 1

variable {t : Table}

theorem Sound.empty : Sound {} := ⟨.nil, nofun, nofun, Nat.zero_le _⟩

theorem toInt_nextId (room : t.sequence < lastId) : t.nextId.toInt = t.sequence + 1 := by
  unfold lastId at room
  exact Int64.toInt_ofNat_of_lt (show t.sequence + 1 < Nat.pow 2 63 by
    show _ < 9223372036854775808
    omega)

theorem nextId_pos (room : t.sequence < lastId) : 0 < t.nextId := by
  rw [Int64.lt_iff_toInt_lt, toInt_nextId room]
  show (0 : Int) < _
  omega

theorem lt_nextId (room : t.sequence < lastId) {id : Int64} (given : id.toInt ≤ t.sequence) :
    id < t.nextId := by
  rw [Int64.lt_iff_toInt_lt, toInt_nextId room]
  omega

theorem place_last {r : Row} {rs : List Row} (h : ∀ x ∈ rs, x.id < r.id) :
    place r rs = rs ++ [r] := by
  induction rs with
  | nil => rfl
  | cons x rs ih =>
    rw [place, if_pos (h x List.mem_cons_self), ih fun y hy => h y (List.mem_cons_of_mem x hy)]
    rfl

/-- A row that comes without an id goes to the end under the next id, if its cells are in order and
an id is left. -/
theorem insert_eq (sound : t.Sound) (s : Schema) {d : Draft} (none : d.get? "id" = none) :
    t.insert s d = if t.sequence < lastId then
      (cells s.name d s.columns).map fun vs => (t.nextId, t.append vs) else .error .full := by
  have given : t.idFor (d.get? "id") =
      if t.sequence < lastId then .ok t.nextId else .error .full := by
    rw [none]
    rfl
  by_cases room : t.sequence < lastId
  · have below : ∀ r ∈ t.rows, r.id < t.nextId := fun r hr => lt_nextId room (sound.given r hr)
    have free : t.rows.any (·.id == t.nextId) = false := by
      rw [List.any_eq_false]
      intro r hr same
      exact Int64.lt_irrefl (beq_iff_eq.1 same ▸ below r hr)
    have last : ∀ vs, place ⟨t.nextId, vs⟩ t.rows = t.rows ++ [⟨t.nextId, vs⟩] :=
      fun _ => place_last below
    have greatest : max t.sequence t.nextId.toInt.toNat = t.sequence + 1 := by
      rw [toInt_nextId room]
      omega
    simp only [insert, given, if_pos room]
    cases cells s.name d s.columns with
    | error e => rfl
    | ok vs => simp only [Except.map, append, free, last, greatest, Bool.false_eq_true, if_false]
  · simp only [insert, given, if_neg room]

theorem Sound.append (sound : t.Sound) (room : t.sequence < lastId) (vs : List Value) :
    (t.append vs).Sound where
  ascending := by
    refine List.pairwise_append.2 ⟨sound.ascending, List.pairwise_singleton _ _, ?_⟩
    intro r hr x hx
    rw [List.mem_singleton.1 hx]
    exact lt_nextId room (sound.given r hr)
  positive := by
    intro r hr
    rcases List.mem_append.1 hr with old | new
    · exact sound.positive r old
    · rw [List.mem_singleton.1 new]
      exact nextId_pos room
  given := by
    intro r hr
    show r.id.toInt ≤ ((t.sequence + 1 : Nat) : Int)
    rcases List.mem_append.1 hr with old | new
    · have := sound.given r old
      omega
    · rw [List.mem_singleton.1 new]
      exact Int.le_of_eq (toInt_nextId room)
  bounded := room

theorem Sound.keep (sound : t.Sound) (p : Row → Bool) : (t.keep p).Sound where
  ascending := sound.ascending.filter p
  positive := fun r hr => sound.positive r (List.mem_filter.1 hr).1
  given := fun r hr => sound.given r (List.mem_filter.1 hr).1
  bounded := sound.bounded

end Uptime.Store.Table
