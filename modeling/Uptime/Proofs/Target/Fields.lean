import Uptime.Target.Json

/-!
# The fields of a target in JSON

What is read from an object or an array puts the fields that are given into a target and leaves the
others (`ofMembers?_entries`, `ofItems?_values`). A field that is given twice, or an item too many,
makes the whole refused.
-/

namespace Uptime.Target

/-- The target with the fields given as another has them. -/
def overlay (s t : Target) (fs : List Field) : Target where
  id := if .id ∈ fs then t.id else s.id
  name := if .name ∈ fs then t.name else s.name
  kind := if .kind ∈ fs then t.kind else s.kind
  address := if .address ∈ fs then t.address else s.address
  port := if .port ∈ fs then t.port else s.port
  method := if .method ∈ fs then t.method else s.method
  postData := if .postData ∈ fs then t.postData else s.postData
  headers := if .headers ∈ fs then t.headers else s.headers
  verifySsl := if .verifySsl ∈ fs then t.verifySsl else s.verifySsl
  expected := if .expected ∈ fs then t.expected else s.expected
  expectedStatus := if .expectedStatus ∈ fs then t.expectedStatus else s.expectedStatus
  interval := if .interval ∈ fs then t.interval else s.interval
  timeout := if .timeout ∈ fs then t.timeout else s.timeout

variable (s t : Target)

theorem overlay_nil : s.overlay t [] = s := by
  simp [overlay]

theorem ite_mem_append {α : Type} (f : Field) (fs gs : List Field) (a b : α) :
    (if f ∈ gs then a else if f ∈ fs then a else b) = if f ∈ fs ++ gs then a else b := by
  by_cases left : f ∈ fs <;> by_cases right : f ∈ gs <;> simp [left, right]

theorem overlay_overlay (fs gs : List Field) :
    (s.overlay t fs).overlay t gs = s.overlay t (fs ++ gs) := by
  simp only [overlay, ite_mem_append]

theorem overlay_all : s.overlay t Field.all = t := by
  simp [overlay, Field.all]

theorem int64?_toInt (n : Int64) : int64? (.integer n.toInt) = some n := by
  have low := n.le_toInt
  have high := n.toInt_lt
  simp [int64?, integer?]
  omega

theorem word16?_toNat (n : UInt16) : word16? (.integer n.toNat) = some n := by
  have high := n.toNat_lt
  simp [word16?, integer?]
  omega

theorem word64?_toNat (n : UInt64) : word64? (.integer n.toNat) = some n := by
  have high := n.toNat_lt
  simp [word64?, integer?]
  omega

theorem optional?_optional {α : Type} {f : α → Json} {read : Json → Option α}
    (inverse : ∀ a, read (f a) = some a) (other : ∀ a, f a ≠ .null) (o : Option α) :
    optional? read (Json.optional f o) = some o := by
  cases o with
  | none => rfl
  | some a =>
    have ne := other a
    have read := inverse a
    show optional? _ (f a) = _
    unfold optional?
    split
    · next null => exact absurd null ne
    · rw [read]; rfl

theorem kind?_name (k : Kind) : kind? (text k.name) = some k := Kind.named?_name k

/-- The value of a field is read back, whatever the other fields are. -/
theorem with?_value (f : Field) : s.with? (t.value f) f = some (s.overlay t [f]) := by
  have texts : ∀ o, optional? text? (Json.optional text o) = some o :=
    optional?_optional (fun _ => rfl) (fun _ => nofun)
  have words : ∀ o : Option UInt16,
      optional? word16? (Json.optional (fun n => .integer n.toNat) o) = some o :=
    optional?_optional word16?_toNat (fun _ => nofun)
  have strings : ∀ x, text? (text x) = some x := fun _ => rfl
  cases f <;>
    simp [with?, value, overlay, int64?_toInt, word16?_toNat, word64?_toNat, kind?_name, texts,
      words, strings]

/-! ## Objects -/

theorem named?_key (f : Field) : Field.named? f.key = some f := by cases f <;> decide

/-- A member of an object that describes a target: one of its fields, or something of another
name. -/
inductive Entry where
  | field (f : Field)
  | other (name : String) (v : Json) (unknown : Field.named? name = none)

namespace Entry

/-- The member, with the value that the field has in a target. -/
def member (t : Target) : Entry → Option String × Json
  | .field f => (some f.key, t.value f)
  | .other name v _ => (some name, v)

/-- The field, if the entry is one. -/
def field? : Entry → Option Field
  | .field f => some f
  | .other .. => none

/-- The fields among entries. -/
def fields (es : List Entry) : List Field := es.filterMap field?

end Entry

/-- Members that give each field at most once put the fields they give into the target. -/
theorem ofMembers?_entries {seen : List Field} {es : List Entry} (once : (Entry.fields es).Nodup)
    (fresh : ∀ f ∈ Entry.fields es, f ∉ seen) :
    ofMembers? s seen (es.map (·.member t)) = some (s.overlay t (Entry.fields es)) := by
  induction es generalizing s seen with
  | nil => exact congrArg some (s.overlay_nil t).symm
  | cons e es ih =>
    cases e with
    | other name v unknown =>
      rw [List.map_cons, Entry.member, ofMembers?, unknown]
      exact ih s once fresh
    | field f =>
      have once : (f :: Entry.fields es).Nodup := once
      have fresh : ∀ g ∈ f :: Entry.fields es, g ∉ seen := fresh
      obtain ⟨first, others⟩ := List.nodup_cons.1 once
      have later : ∀ g ∈ Entry.fields es, g ∉ f :: seen := fun g hg => by
        have ne : g ≠ f := by
          rintro rfl
          exact first hg
        simp [ne, fresh g (List.mem_cons_of_mem f hg)]
      have ih := ih (s.overlay t [f]) others later
      rw [List.map_cons, Entry.member, ofMembers?, named?_key]
      simp only [fresh f List.mem_cons_self, if_false, with?_value]
      rw [ih, overlay_overlay]
      rfl

variable {s} {f : Field} {v w : Json} {seen : List Field}
  {before between after : List (Option String × Json)}

/-- A member in front saves nothing of what is refused with its field as given. -/
theorem ofMembers?_cons_none {m : Option String × Json} {ms : List (Option String × Json)}
    (refused : ∀ s more, (∀ g ∈ seen, g ∈ more) →
      (∀ g, m.1.bind Field.named? = some g → g ∈ more) → ofMembers? s more ms = none) :
    ofMembers? s seen (m :: ms) = none := by
  obtain ⟨_ | key, u⟩ := m
  · rfl
  · rw [ofMembers?]
    split
    · next unknown => exact refused s seen (fun _ given => given) fun g known =>
        nomatch unknown.symm.trans known
    · next g known =>
      split
      · rfl
      · split
        · next s' _ =>
          refine refused s' (g :: seen) (fun _ => List.mem_cons_of_mem g) fun g' known' => ?_
          obtain rfl := Option.some.inj (known.symm.trans known')
          exact List.mem_cons_self
        · rfl

/-- A field that was given already is refused, whatever comes before it. -/
theorem ofMembers?_seen (given : f ∈ seen) :
    ofMembers? s seen (between ++ (some f.key, w) :: after) = none := by
  induction between generalizing s seen with
  | nil => simp [ofMembers?, named?_key, given]
  | cons m between ih => exact ofMembers?_cons_none fun s more kept _ => ih (kept f given)

/-- A field that is given twice is refused, wherever and whatever its values are. -/
theorem ofMembers?_twice : ofMembers? s seen
    (before ++ (some f.key, v) :: (between ++ (some f.key, w) :: after)) = none := by
  -- The members in front change the target and what was given, so both are arbitrary.
  induction before generalizing s seen with
  | nil => exact ofMembers?_cons_none fun s more _ now => ofMembers?_seen (now f (named?_key f))
  | cons m before ih => exact ofMembers?_cons_none fun s more _ _ => ih

/-! ## Arrays -/

/-- The values of the first fields in order put these fields into the target. -/
theorem ofItems?_values (s : Target) (fs gs : List Field) :
    ofItems? s (fs ++ gs) (fs.map t.value) = some (s.overlay t fs) := by
  induction fs generalizing s with
  | nil => rw [overlay_nil, List.map_nil, ofItems?]
  | cons f fs ih =>
    rw [List.cons_append, List.map_cons, ofItems?, with?_value]
    simp only
    rw [ih, overlay_overlay]
    rfl

/-- There are no more items than fields. -/
theorem ofItems?_long {fs : List Field} {vs : List Json} (long : fs.length < vs.length) :
    ofItems? s fs vs = none := by
  induction fs generalizing s vs with
  | nil =>
    obtain ⟨v, vs, rfl⟩ := List.exists_cons_of_length_pos long
    rfl
  | cons f fs ih =>
    obtain ⟨v, vs, rfl⟩ := List.exists_cons_of_length_pos (Nat.zero_lt_of_lt long)
    rw [ofItems?]
    split
    · exact ih (Nat.lt_of_succ_lt_succ long)
    · rfl

end Uptime.Target
