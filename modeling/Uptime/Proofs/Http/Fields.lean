import Uptime.Http.Headers

/-!
# What a configuration of header fields says

The pieces between the commas of a configuration are read one by one. One with a key and a value is
a pair (`IsPair`). It sets a field if both can be sent (`Sets`), and is warned about if not
(`Refused`). The fields that come of it have each name once, with the value of the last piece that
sets it (`configures_read`), and a configuration behind another one overrides it name by name
(`read_overrides`).
-/

namespace Uptime.Http.Headers

/-! ## Fields -/

section Fields

variable {hs : Headers} {name : String}

/-- Setting a field adds its name at the end, unless it is there already. -/
theorem names_insert (hs : Headers) (name : String) (value : List UInt8) :
    (hs.insert name value).map (·.1) =
      if name ∈ hs.map (·.1) then hs.map (·.1) else hs.map (·.1) ++ [name] := by
  induction hs with
  | nil => rfl
  | cons h hs ih =>
    rw [insert]
    split
    · next same => simp [same]
    · next other =>
      have other : name ≠ h.1 := Ne.symm other
      simp only [List.map_cons, ih, List.mem_cons, other, false_or]
      split <;> rfl

/-- The names of the fields are in lower case, and each occurs once. -/
structure Distinct (hs : Headers) : Prop where
  nodup : (hs.map (·.1)).Nodup
  lower : ∀ name ∈ hs.map (·.1), Text.lower name.toList = name.toList

theorem Distinct.nil : Distinct [] := ⟨List.Pairwise.nil, nofun⟩

theorem Distinct.insert (distinct : hs.Distinct) (lower : Text.lower name.toList = name.toList)
    (value : List UInt8) : (hs.insert name value).Distinct := by
  by_cases known : name ∈ hs.map (·.1)
  · have names := (names_insert hs name value).trans (if_pos known)
    exact ⟨names ▸ distinct.nodup, names ▸ distinct.lower⟩
  · have names := (names_insert hs name value).trans (if_neg known)
    constructor
    · rw [names]
      refine List.nodup_append.2 ⟨distinct.nodup, List.pairwise_singleton _ name, ?_⟩
      rintro other mem new single rfl
      exact known (List.mem_singleton.1 single ▸ mem)
    · rw [names]
      intro other mem
      rcases List.mem_append.1 mem with old | new
      · exact distinct.lower other old
      · exact List.mem_singleton.1 new ▸ lower

/-- Where each name occurs once, the first field of a name is the only one. -/
theorem get?_eq_some_iff (nodup : (hs.map (·.1)).Nodup) {value : List UInt8} :
    hs.get? name = some value ↔ (name, value) ∈ hs := by
  induction hs with
  | nil => simp [get?]
  | cons h hs ih =>
    obtain ⟨key, old⟩ := h
    obtain ⟨new, nodup⟩ := List.nodup_cons.1 nodup
    by_cases same : name = key
    · subst same
      have absent : (name, value) ∉ hs := fun mem => new (List.mem_map.2 ⟨_, mem, rfl⟩)
      simp [get?, absent, eq_comm]
    · have other : (name == key) = false := beq_eq_false_iff_ne.2 same
      simpa [get?, List.lookup_cons, other, same] using ih nodup

end Fields

/-! ## Pairs -/

/-- The value that a pair gives to the field of a name. -/
def Pair.value? (name : String) : Pair → Option (List UInt8)
  | .field key value => if key = name then some value else none
  | .void | .invalid _ => none

section Pairs

variable {p : Pair} {name : String} {value : List UInt8}

theorem Pair.value?_eq_some_iff : p.value? name = some value ↔ p = .field name value := by
  cases p with
  | void => simp [value?]
  | field key other => simp [value?]
  | invalid text => simp [value?]

theorem get?_apply (hs : Headers) (p : Pair) (name : String) :
    (p.apply hs).get? name = (p.value? name).or (hs.get? name) := by
  cases p with
  | void => rfl
  | field key value =>
    by_cases same : key = name
    · subst same
      simp [Pair.apply, Pair.value?, get?_insert]
    · simp [Pair.apply, Pair.value?, same, get?_insert_ne hs value (Ne.symm same)]
  | invalid text => rfl

/-- Of all the pairs that give a field a value, the last one counts. -/
theorem get?_foldl (ps : List Pair) (hs : Headers) (name : String) :
    (ps.foldl Pair.apply hs).get? name =
      (ps.filterMap (Pair.value? name)).getLast?.or (hs.get? name) := by
  induction ps generalizing hs with
  | nil => rfl
  | cons p ps ih =>
    rw [List.foldl_cons, ih, get?_apply, List.filterMap_cons, ← Option.or_assoc]
    congr 1
    cases p.value? name with
    | none => rw [Option.or_none]
    | some first => rw [List.getLast?_cons, Option.or_some]

end Pairs

/-! ## Pieces -/

/-- A piece that has a key and a value: what stands before and behind its first `=`, without the
blanks around it. -/
structure IsPair (piece key value : List Char) : Prop where
  parts : ∃ left right, piece = left ++ '=' :: right ∧ '=' ∉ left ∧
    key = Text.trim left ∧ value = Text.trim right
  key_ne_nil : key ≠ []
  value_ne_nil : value ≠ []

/-- A piece that sets the field of a name, in whatever case the letters of the name are. -/
def Sets (piece name : List Char) (value : List UInt8) : Prop :=
  ∃ key text, IsPair piece key text ∧ (headerName? key).isSome ∧
    Text.lower key = Text.lower name ∧ headerValue? text = some value

/-- A piece whose key or whose value cannot be sent. -/
def Refused (piece : List Char) : Prop :=
  ∃ key text, IsPair piece key text ∧ ¬((headerName? key).isSome ∧ (headerValue? text).isSome)

/-- What is said about a piece that cannot be sent. -/
def refusal (piece : List Char) : Log.Entry :=
  { level := .warn, source := .http,
    message := "Ignoring invalid header '" ++ String.ofList (Text.trim piece) ++ "'" }

section Pieces

variable {piece key text : List Char}

theorem isPair_iff : IsPair piece key text ↔ ∃ left right,
    Text.cut? (· = '=') piece = some (left, right) ∧ key = Text.trim left ∧ text = Text.trim right ∧
      key ≠ [] ∧ text ≠ [] := by
  constructor
  · rintro ⟨⟨left, right, rfl, first, rfl, rfl⟩, some, given⟩
    have plain : ∀ c ∈ left, decide (c = '=') = false :=
      fun c mem => decide_eq_false fun eq => first (eq ▸ mem)
    exact ⟨left, right, Text.cut?_append plain (decide_eq_true rfl), rfl, rfl, some, given⟩
  · rintro ⟨left, right, cut, rfl, rfl, some, given⟩
    obtain ⟨c, eq, rfl, plain⟩ := Text.cut?_eq_some cut
    obtain rfl := of_decide_eq_true eq
    have first : '=' ∉ left := fun mem => of_decide_eq_false (plain '=' mem) rfl
    exact ⟨⟨left, right, rfl, first, rfl, rfl⟩, some, given⟩

theorem IsPair.unique {key' text' : List Char} (h : IsPair piece key text)
    (h' : IsPair piece key' text') : key' = key ∧ text' = text := by
  obtain ⟨left, right, cut, rfl, rfl, -, -⟩ := isPair_iff.1 h
  obtain ⟨left', right', cut', rfl, rfl, -, -⟩ := isPair_iff.1 h'
  obtain ⟨rfl, rfl⟩ := Prod.mk.inj (Option.some.inj (cut.symm.trans cut'))
  exact ⟨rfl, rfl⟩

/-- All that reading a piece can come to. -/
theorem Pair.read_cases (piece : List Char) :
    (Pair.read piece = .void ∧ ∀ key text, ¬IsPair piece key text) ∨
    ∃ key text, IsPair piece key text ∧
      ((∃ name value, headerName? key = some name ∧ headerValue? text = some value ∧
          Pair.read piece = .field name value) ∨
        ¬((headerName? key).isSome ∧ (headerValue? text).isSome) ∧
          Pair.read piece = .invalid (Text.trim piece)) := by
  unfold Pair.read
  split
  · next uncut =>
    refine .inl ⟨rfl, fun key text pair => ?_⟩
    obtain ⟨left, right, cut, -⟩ := isPair_iff.1 pair
    cases uncut.symm.trans cut
  · next left right cut =>
    simp only [Bool.or_eq_true, List.isEmpty_iff]
    by_cases void : Text.trim left = [] ∨ Text.trim right = []
    · refine .inl ⟨if_pos void, fun key text pair => ?_⟩
      obtain ⟨left', right', cut', rfl, rfl, some, given⟩ := isPair_iff.1 pair
      obtain ⟨rfl, rfl⟩ := Prod.mk.inj (Option.some.inj (cut.symm.trans cut'))
      exact void.elim some given
    · refine .inr ⟨_, _, isPair_iff.2 ⟨left, right, cut, rfl, rfl, not_or.1 void⟩, ?_⟩
      rw [if_neg void]
      cases headerName? (Text.trim left) with
      | none => exact .inr ⟨nofun, rfl⟩
      | some name =>
        cases headerValue? (Text.trim right) with
        | none => exact .inr ⟨nofun, rfl⟩
        | some value => exact .inl ⟨name, value, rfl, rfl, rfl⟩

theorem headerName?_eq_some_iff {name : String} : headerName? key = some name ↔
    (headerName? key).isSome ∧ name = String.ofList (Text.lower key) := by
  unfold headerName?
  split <;> simp [eq_comm]

/-- A name that can be sent is kept in lower case. -/
theorem lower_of_headerName? {name : String} (h : headerName? key = some name) :
    Text.lower name.toList = name.toList := by
  obtain ⟨-, rfl⟩ := headerName?_eq_some_iff.1 h
  rw [String.toList_ofList, Text.lower_lower]

/-- A piece is read as a field just if both parts of a pair can be sent. -/
theorem Pair.read_eq_field_iff {name : String} {value : List UInt8} :
    Pair.read piece = .field name value ↔
      ∃ key text, IsPair piece key text ∧ headerName? key = some name ∧
        headerValue? text = some value := by
  rcases Pair.read_cases piece with ⟨void, none⟩ | ⟨key, text, pair, sent | ⟨refused, invalid⟩⟩
  · simp [void, none]
  · obtain ⟨key', text', named, valued, field⟩ := sent
    constructor
    · intro read
      obtain ⟨rfl, rfl⟩ := Pair.field.inj (field.symm.trans read)
      exact ⟨key, text, pair, named, valued⟩
    · rintro ⟨_, _, again, named', valued'⟩
      obtain ⟨rfl, rfl⟩ := pair.unique again
      obtain rfl := Option.some.inj (named.symm.trans named')
      obtain rfl := Option.some.inj (valued.symm.trans valued')
      exact field
  · constructor
    · intro read
      cases invalid.symm.trans read
    · rintro ⟨_, _, again, named, valued⟩
      obtain ⟨rfl, rfl⟩ := pair.unique again
      exact absurd ⟨by rw [named]; rfl, by rw [valued]; rfl⟩ refused

/-- A piece is read as invalid just if it is refused. -/
theorem Pair.read_eq_invalid_iff {trimmed : List Char} : Pair.read piece = .invalid trimmed ↔
    Refused piece ∧ trimmed = Text.trim piece := by
  rcases Pair.read_cases piece with ⟨void, none⟩ | ⟨key, text, pair, sent | ⟨refused, invalid⟩⟩
  · simp [void, Refused, none]
  · obtain ⟨key', text', named, valued, field⟩ := sent
    constructor
    · intro read
      cases field.symm.trans read
    · rintro ⟨⟨_, _, again, refused⟩, -⟩
      obtain ⟨rfl, rfl⟩ := pair.unique again
      exact absurd ⟨by rw [named]; rfl, by rw [valued]; rfl⟩ refused
  · constructor
    · exact fun read => ⟨⟨key, text, pair, refused⟩, Pair.invalid.inj (read.symm.trans invalid)⟩
    · rintro ⟨-, rfl⟩
      exact invalid

instance : DecidablePred Refused := fun piece =>
  decidable_of_iff (Pair.read piece = .invalid (Text.trim piece)) <| by
    rw [Pair.read_eq_invalid_iff, and_iff_left rfl]

theorem Pair.warning?_read (piece : List Char) :
    (Pair.read piece).warning? = if Refused piece then some (refusal piece) else none := by
  split
  · next refused =>
    rw [Pair.read_eq_invalid_iff.2 ⟨refused, rfl⟩]
    rfl
  · next sent =>
    cases read : Pair.read piece with
    | void => rfl
    | field name value => rfl
    | invalid trimmed => exact absurd (Pair.read_eq_invalid_iff.1 read).1 sent

/-- What a piece sets is seen under the name in lower case. -/
theorem value?_read_eq_some_iff {name : List Char} {value : List UInt8} :
    (Pair.read piece).value? (String.ofList (Text.lower name)) = some value ↔
      Sets piece name value := by
  rw [Pair.value?_eq_some_iff, Pair.read_eq_field_iff]
  constructor
  · rintro ⟨key, text, pair, named, valued⟩
    obtain ⟨sendable, same⟩ := headerName?_eq_some_iff.1 named
    exact ⟨key, text, pair, sendable, (String.ofList_injective same).symm, valued⟩
  · rintro ⟨key, text, pair, sendable, same, valued⟩
    exact ⟨key, text, pair, headerName?_eq_some_iff.2 ⟨sendable, by rw [same]⟩, valued⟩

end Pieces

/-! ## Configurations -/

/-- The last of the pieces that set the field of a name sets it to that value. -/
def LastSets (pieces : List (List Char)) (name : List Char) (value : List UInt8) : Prop :=
  ∃ before piece behind, pieces = before ++ piece :: behind ∧ Sets piece name value ∧
    ∀ other ∈ behind, ∀ overridden, ¬Sets other name overridden

/-- What the pieces of a configuration come to: fields, and warnings. -/
structure Configures (pieces : List (List Char)) (hs : Headers) (log : List Log.Entry) : Prop where
  /-- No name occurs twice, in whatever case its letters are. -/
  once : (hs.map fun h => Text.lower h.1.toList).Nodup
  /-- A field has the value of the last piece that sets it. -/
  last : ∀ name value,
    (∃ h ∈ hs, Text.lower h.1.toList = Text.lower name ∧ h.2 = value) ↔ LastSets pieces name value
  /-- There is one warning for each piece that is refused. -/
  warned : log = (pieces.filter (Refused ·)).map refusal

theorem pairs_eq (text : List Char) : pairs text = (text.splitOn ',').map Pair.read := by
  rw [pairs, Text.pieces_eq_splitOnP]
  rfl

theorem pairs_append (first second : List Char) :
    pairs (first ++ ',' :: second) = pairs first ++ pairs second := by
  have parted := List.splitOnP_append_cons (p := fun c => decide (c = ',')) first second
    (decide_eq_true rfl)
  simp only [pairs, Text.pieces_eq_splitOnP, parted, List.map_append]

theorem read_some (text : String) : read (some text) =
    ((pairs text.toList).foldl Pair.apply [], (pairs text.toList).filterMap Pair.warning?) := rfl

theorem distinct_foldl {pieces : List (List Char)} {hs : Headers} (distinct : hs.Distinct) :
    ((pieces.map Pair.read).foldl Pair.apply hs).Distinct := by
  induction pieces generalizing hs with
  | nil => exact distinct
  | cons piece pieces ih =>
    refine ih ?_
    cases read : Pair.read piece with
    | void => exact distinct
    | field name value =>
      obtain ⟨key, text, -, named, -⟩ := Pair.read_eq_field_iff.1 read
      exact distinct.insert (lower_of_headerName? named) value
    | invalid trimmed => exact distinct

/-- A field of a configuration has the value of the last piece that sets it. -/
theorem get?_read_eq_some_iff {text : String} {name : List Char} {value : List UInt8} :
    (read (some text)).1.get? (String.ofList (Text.lower name)) = some value ↔
      LastSets (text.toList.splitOn ',') name value := by
  have folded : (read (some text)).1.get? (String.ofList (Text.lower name)) =
      ((text.toList.splitOn ',').reverse.findSome? fun piece =>
        (Pair.read piece).value? (String.ofList (Text.lower name))) := by
    rw [read_some, get?_foldl, pairs_eq, List.filterMap_map, List.getLast?_filterMap]
    exact Option.or_none
  have unset (piece : List Char) :
      (Pair.read piece).value? (String.ofList (Text.lower name)) = none ↔
        ∀ overridden, ¬Sets piece name overridden := by
    simp only [Option.eq_none_iff_forall_ne_some, ne_eq, value?_read_eq_some_iff]
  simp only [folded, List.findSome?_eq_some_iff, value?_read_eq_some_iff, unset]
  constructor
  · rintro ⟨behind, piece, before, eq, sets, last⟩
    refine ⟨before.reverse, piece, behind.reverse, ?_, sets, fun other mem => ?_⟩
    · rw [← List.reverse_reverse (List.splitOn ',' _), eq]
      simp
    · exact last other (List.mem_reverse.1 mem)
  · rintro ⟨before, piece, behind, eq, sets, last⟩
    refine ⟨behind.reverse, piece, before.reverse, ?_, sets, fun other mem => ?_⟩
    · rw [eq]
      simp
    · exact last other (List.mem_reverse.1 mem)

theorem distinct_read (text : Option String) : (read text).1.Distinct := by
  cases text with
  | none => exact .nil
  | some text =>
    rw [read_some, pairs_eq]
    exact distinct_foldl .nil

theorem warnings_eq (pieces : List (List Char)) :
    (pieces.map Pair.read).filterMap Pair.warning? = (pieces.filter (Refused ·)).map refusal := by
  induction pieces with
  | nil => rfl
  | cons piece pieces ih =>
    by_cases refused : Refused piece
    · simp [Pair.warning?_read, refused, ih]
    · simp [Pair.warning?_read, refused, ih]

theorem configures_read (text : String) :
    Configures (text.toList.splitOn ',') (read (some text)).1 (read (some text)).2 := by
  have distinct := distinct_read (some text)
  have lower : ∀ h ∈ (read (some text)).1, Text.lower h.1.toList = h.1.toList :=
    fun h mem => distinct.lower h.1 (List.mem_map.2 ⟨h, mem, rfl⟩)
  constructor
  case once =>
    have names : ((read (some text)).1.map fun h => Text.lower h.1.toList) =
        ((read (some text)).1.map (·.1)).map String.toList := by
      rw [List.map_map]
      exact List.map_congr_left lower
    rw [names]
    refine List.Pairwise.map String.toList ?_ distinct.nodup
    exact fun _ _ other same => other (String.toList_injective same)
  case last =>
    intro name value
    rw [← get?_read_eq_some_iff, get?_eq_some_iff distinct.nodup]
    constructor
    · rintro ⟨h, mem, same, rfl⟩
      rw [← same, lower h mem, String.ofList_toList]
      exact mem
    · intro mem
      exact ⟨_, mem, by simp [Text.lower_lower], rfl⟩
  case warned =>
    rw [read_some, pairs_eq, warnings_eq]

/-- A configuration has each name once, with the value of the last piece that sets it, and a warning
for each pair that cannot be sent. Behind another one it overrides that name by name. -/
theorem read_overrides :
    (∀ text : String,
      Configures (text.toList.splitOn ',') (read (some text)).1 (read (some text)).2) ∧
    ∀ first second : String,
      (∀ name, (read (some (first ++ "," ++ second))).1.get? name =
        ((read (some second)).1.get? name).or ((read (some first)).1.get? name)) ∧
      (read (some (first ++ "," ++ second))).2 =
        (read (some first)).2 ++ (read (some second)).2 := by
  refine ⟨configures_read, fun first second => ?_⟩
  have both :
      pairs (first ++ "," ++ second).toList = pairs first.toList ++ pairs second.toList := by
    rw [← pairs_append]
    congr 1
    simp [String.toList_append]
  simp only [read_some, both, List.foldl_append, List.filterMap_append, and_true]
  intro name
  rw [get?_foldl, get?_foldl (pairs second.toList) []]
  congr 1
  exact Option.or_none.symm

/-- A piece without a value is passed over, and a name counts in any case of its letters. -/
example : (read (some "Accept=a, accept = b,Accept=,a b=c")).1 = [("accept", [98])] := by
  decide +kernel

end Uptime.Http.Headers
