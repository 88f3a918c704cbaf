import Mathlib
import Uptime.Proofs.Json.Grammatical
import Uptime.Proofs.Store.Failing
import Uptime.Proofs.Store.Insertion
import Uptime.Proofs.Text.Utf8
import Uptime.Seed

/-!
# Filling a store

A store without targets is filled with all targets of a seed or, if there is anything wrong with the
seed, with none (`fill_allOrNothing`). The targets get the ids that are next in their order,
whatever ids the seed gives them.
-/

namespace Uptime

open Json (Spells Phrase)
open String (utf8EncodeChar)

variable {cs : List Char} {vs : List Json} {ts : List Target} {file : Option (List UInt8)}

/-! ## What a seed says -/

/-- The text is an array of these targets. -/
def Seed.Lists (cs : List Char) (ts : List Target) : Prop :=
  ∃ vs, Spells (.padded (.array vs)) cs ∧
    List.Forall₂ (fun v t => Target.ofJson? v = some t) vs ts

/-- What is wrong with a file that is no seed. -/
inductive Seed.Faulty : Option (List UInt8) → SeedError → Prop
  | missing : Faulty none .missing
  | notText {bytes : List UInt8} (none : ∀ cs : List Char, bytes ≠ cs.flatMap utf8EncodeChar) :
    Faulty (some bytes) .notText
  | malformed {cs : List Char} (none : ∀ ts, ¬Lists cs ts) :
    Faulty (some (cs.flatMap utf8EncodeChar)) .malformed

/-- All are read, each as what stands in its place. -/
theorem mapM_eq_some_iff {f : α → Option β} {as : List α} {bs : List β} :
    as.mapM f = some bs ↔ List.Forall₂ (fun a b => f a = some b) as bs := by
  induction as generalizing bs with
  | nil => simp [eq_comm]
  | cons a as ih =>
    simp only [List.mapM_cons, Option.bind_eq_bind, Option.bind_eq_some_iff, Option.pure_def,
      Option.some.injEq, ih, List.forall₂_cons_left_iff]
    constructor
    · rintro ⟨b, head, rest, tail, rfl⟩
      exact ⟨b, rest, head, tail, rfl⟩
    · rintro ⟨b, rest, head, tail, rfl⟩
      exact ⟨b, head, rest, tail, rfl⟩

theorem Target.readAll?_eq_some_iff : readAll? cs = some ts ↔ Seed.Lists cs ts := by
  unfold readAll?
  constructor
  · intro h
    split at h
    · next vs value => exact ⟨vs, Json.read?_eq_some_iff.1 value, mapM_eq_some_iff.1 h⟩
    · cases h
  · rintro ⟨vs, value, each⟩
    rw [Json.read?_eq_some_iff.2 value]
    exact mapM_eq_some_iff.2 each

/-- A seed is read as the targets that it lists. -/
theorem Seed.read_eq_ok_iff :
    read file = .ok ts ↔ ∃ cs, file = some (cs.flatMap utf8EncodeChar) ∧ Lists cs ts := by
  constructor
  · intro h
    unfold read at h
    split at h
    · cases h
    · split at h
      · cases h
      · next cs text =>
        split at h
        · cases h
        · next targets =>
          cases h
          exact ⟨cs, congrArg some (Text.Utf8.decode?_eq_some_iff.1 text),
            Target.readAll?_eq_some_iff.1 targets⟩
  · rintro ⟨cs, rfl, lists⟩
    simp only [read, Text.Utf8.decode?_eq_some_iff.2 rfl, Target.readAll?_eq_some_iff.2 lists]

/-- A seed is refused for what is wrong with it. -/
theorem Seed.read_eq_error_iff {e : SeedError} : read file = .error e ↔ Faulty file e := by
  constructor
  · intro h
    unfold read at h
    split at h
    · cases h
      exact .missing
    · split at h
      · next noText =>
        cases h
        refine .notText fun cs same => ?_
        rw [Text.Utf8.decode?_eq_some_iff.2 same] at noText
        cases noText
      · next cs text =>
        split at h
        · next noTargets =>
          cases h
          rw [Text.Utf8.decode?_eq_some_iff.1 text]
          refine .malformed fun ts lists => ?_
          rw [Target.readAll?_eq_some_iff.2 lists] at noTargets
          cases noTargets
        · cases h
  · intro faulty
    cases faulty with
    | missing => rfl
    | @notText bytes none =>
      have noText : Text.Utf8.decode? bytes = .none :=
        Option.eq_none_iff_forall_ne_some.2 fun cs text =>
          none cs (Text.Utf8.decode?_eq_some_iff.1 text)
      simp only [read, noText]
    | @malformed cs none =>
      have noTargets : Target.readAll? cs = .none :=
        Option.eq_none_iff_forall_ne_some.2 fun ts targets =>
          none ts (Target.readAll?_eq_some_iff.1 targets)
      simp only [read, Text.Utf8.decode?_eq_some_iff.2 rfl, noTargets]

/-- Between two values stands a comma. -/
theorem length_of_spells_items {p : Phrase} (h : Spells p cs) (items : p = .items vs) :
    vs.length ≤ cs.length + 1 := by
  induction h generalizing vs with
  | lastItem =>
    cases items
    exact Nat.le_add_left 1 _
  | items _ _ _ more =>
    cases items
    have rest := more rfl
    simp only [List.length_cons, List.length_append]
    omega
  | _ => cases items

theorem length_of_spells_array {p : Phrase} (h : Spells p cs) (array : p = .value (.array vs)) :
    vs.length ≤ cs.length := by
  cases h with
  | noItems =>
    cases array
    exact Nat.zero_le _
  | array items =>
    cases array
    have inside := length_of_spells_items items rfl
    simp only [List.length_cons, List.length_append]
    omega
  | number n =>
    have none := Phrase.value.inj array
    grind [Json.Numeral.value]
  | _ => cases array

/-- A text has no more targets than characters. -/
theorem Seed.Lists.length_le (h : Lists cs ts) : ts.length ≤ cs.length := by
  obtain ⟨vs, spells, each⟩ := h
  rw [← each.length_eq]
  cases spells with
  | padded _ _ value =>
    have inside := length_of_spells_array value rfl
    simp only [List.length_append]
    omega

/-! ## Storing the targets -/

namespace Store

variable {s : Store}

/-- The rows of targets that get the ids from `next` on. -/
def rowsFrom (next : Nat) (ts : List Target) : List Row :=
  (ts.zipIdx next).map fun p => ⟨Int64.ofNat p.2, targetCells p.1⟩

theorem Table.Sound.vacant {t : Table} (none : t.rows = []) (bounded : t.sequence ≤ lastId) :
    t.Sound := by
  refine ⟨?_, ?_, ?_, bounded⟩ <;> rw [none]
  · exact .nil
  · exact nofun
  · exact nofun

/-- What holds of a store and of all that storing a target makes of it holds afterwards. -/
theorem addAll_keeps {P : Store → Prop}
    (step : ∀ s t id after, P s → (s.add t).1 = (.ok id, after) → P after) (start : P s)
    (ts : List Target) : P (s.addAll ts).2 := by
  induction ts generalizing s with
  | nil => exact start
  | cons t ts ih =>
    rw [addAll]
    split
    · next id after stored => exact ih (step s t id after start stored)
    · next e after failed =>
      have same := add_failed (congrArg Prod.fst failed)
      rw [same] at failed
      rw [← congrArg Prod.snd failed]
      exact start

/-- Storing targets changes no other table. -/
theorem addAll_changes (s : Store) (ts : List Target) :
    ∃ targets, (s.addAll ts).2 = { s with targets } := by
  refine addAll_keeps (P := fun after => ∃ targets, after = { s with targets })
    (fun _ t id after h added => ?_) ⟨s.targets, rfl⟩ ts
  obtain ⟨before, rfl⟩ := h
  obtain ⟨-, -, targets, -, rfl, -⟩ := add_ok added
  exact ⟨targets, rfl⟩

theorem keyed_addAll (keyed : s.targets.Keyed) (ts : List Target) :
    (s.addAll ts).2.targets.Keyed := by
  refine addAll_keeps (P := fun s => s.targets.Keyed) (fun s t id after h added => ?_) keyed ts
  obtain ⟨-, -, targets, inserted, rfl, -⟩ := add_ok added
  exact Table.Keyed.insert h inserted

theorem listed_addAll {us : List Target} (listed : s.all = .ok us) (ts : List Target) :
    ∃ us, (s.addAll ts).2.all = .ok us := by
  refine addAll_keeps (P := fun s => ∃ us, s.all = .ok us) (fun s t id after h added => ?_)
    ⟨us, listed⟩ ts
  obtain ⟨us, listed⟩ := h
  obtain ⟨before, later, -, after⟩ := all_added added listed
  exact ⟨_, after⟩

/-- If anything was stored at all, there are rows. -/
theorem addAll_rows (s : Store) (ts : List Target) :
    (s.addAll ts).2 = s ∨ (s.addAll ts).2.targets.rows ≠ [] := by
  refine addAll_keeps (P := fun after => after = s ∨ after.targets.rows ≠ [])
    (fun _ t id after _ added => .inr fun none => ?_) (.inl rfl) ts
  obtain ⟨-, -, targets, -, rfl, placed⟩ := add_ok added
  have new : (⟨id, targetCells t⟩ : Row) ∈ targets.rows := placed ▸ Table.mem_place.2 (.inl rfl)
  have gone : targets.rows = [] := none
  rw [gone] at new
  cases new

/-- A store is filled by storing targets. -/
theorem exists_fill (path : Option String) (file : Option (List UInt8)) (s : Store) :
    ∃ ts, (s.fill path file).store = (s.addAll ts).2 := by
  unfold fill
  dsimp only
  split
  · exact ⟨_, rfl⟩
  · split
    · exact ⟨[], rfl⟩
    · exact ⟨_, rfl⟩

/-- Targets for which there are ids are all stored, one after the other. -/
theorem addAll_eq (usable : s.poisoned = false) (sound : s.targets.Sound)
    (room : s.targets.sequence + ts.length ≤ Table.lastId) :
    ∃ targets, s.addAll ts = (.ok (), { s with targets }) ∧
      targets.rows = s.targets.rows ++ rowsFrom (s.targets.sequence + 1) ts := by
  induction ts generalizing s with
  | nil => exact ⟨s.targets, rfl, (List.append_nil _).symm⟩
  | cons t ts ih =>
    rw [List.length_cons] at room
    have next : s.targets.sequence < Table.lastId := by omega
    obtain ⟨targets, stored, rows⟩ := @ih { s with targets := s.targets.append (targetCells t) }
      usable (sound.append next _) (by simp only [Table.append]; omega)
    refine ⟨targets, ?_, ?_⟩
    · rw [addAll, add_eq usable sound, if_pos next]
      exact stored
    · rw [rows]
      simp only [Table.append, rowsFrom, List.zipIdx_cons, List.map_cons, List.append_assoc,
        List.singleton_append, Table.nextId]

/-- A store that shows no target has none. -/
theorem empty_of_all (h : s.all = .ok []) : s.poisoned = false ∧ s.targets.rows = [] := by
  obtain ⟨usable, shown⟩ := rows_of_all h
  exact ⟨usable, List.map_eq_nil_iff.1 shown⟩

/-- `u` is the target `t` of a seed as the store has it under the id `n`. A count from `2^63` on is
not kept. -/
structure StoredAs (t : Target) (n : Nat) (u : Target) : Prop where
  id : u.id.toInt = n
  interval : t.interval.toNat < 9223372036854775808 → u.interval = t.interval
  timeout : t.timeout.toNat < 9223372036854775808 → u.timeout = t.timeout
  same : u = { t with id := u.id, interval := u.interval, timeout := u.timeout }

/-- A row shows the target that it was made from. -/
theorem exists_storedAs (t : Target) {n : Nat} (room : n ≤ Table.lastId) :
    ∃ u, Row.target ⟨Int64.ofNat n, targetCells t⟩ = .ok u ∧ StoredAs t n u := by
  have number : (Int64.ofNat n).toInt = n := Int64.toInt_ofNat_of_lt (Nat.lt_succ_of_le room)
  exact ⟨_, target_row _ t, number, keptCount_eq, keptCount_eq, rfl⟩

theorem exists_forall₂_storedAs (ts : List Target) {next : Nat}
    (room : next + ts.length ≤ Table.lastId + 1) :
    ∃ us, (rowsFrom next ts).map Row.target = us.map .ok ∧
      List.Forall₂ (fun p => StoredAs p.1 p.2) (ts.zipIdx next) us := by
  induction ts generalizing next with
  | nil => exact ⟨[], rfl, .nil⟩
  | cons t ts ih =>
    rw [List.length_cons] at room
    obtain ⟨u, shown, stored⟩ := exists_storedAs t (n := next) (by omega)
    obtain ⟨us, rest, each⟩ := @ih (next + 1) (by omega)
    refine ⟨u :: us, ?_, .cons stored each⟩
    rw [List.map_cons, ← shown, ← rest]
    rfl

/-- A store that shows no target is filled with all targets of the seed, or, if something is wrong
with the seed, stays as it is. The targets stand in the order of the seed under the ids that follow
the last one given out, `1`, `2` and so on in a new store. A file is taken to have no more bytes
than there are ids left; in a new store these are `2^63 - 1`. -/
theorem fill_allOrNothing (path : String) (file : Option (List UInt8)) (s : Store)
    (empty : s.all = .ok [])
    (room : ∀ bytes, file = some bytes → s.targets.sequence + bytes.length ≤ Table.lastId) :
    (∃ e, Seed.Faulty file e ∧ s.fill (some path) file = ⟨.error (.seed e), s, []⟩) ∨
      ∃ cs ts stored, file = some (cs.flatMap utf8EncodeChar) ∧ Seed.Lists cs ts ∧
        (s.fill (some path) file).result = .ok () ∧
        (s.fill (some path) file).store.all = .ok stored ∧
        List.Forall₂ (fun p => StoredAs p.1 p.2) (ts.zipIdx (s.targets.sequence + 1)) stored := by
  cases read : Seed.read file with
  | error e =>
    refine .inl ⟨e, Seed.read_eq_error_iff.1 read, ?_⟩
    simp only [fill, read]
  | ok ts =>
    obtain ⟨cs, rfl, lists⟩ := Seed.read_eq_ok_iff.1 read
    obtain ⟨usable, none⟩ := empty_of_all empty
    have enough : s.targets.sequence + ts.length ≤ Table.lastId := by
      have bytes := room _ rfl
      have characters := Text.Utf8.length_le_flatMap_encode cs
      have targets := lists.length_le
      omega
    obtain ⟨targets, added, rows⟩ := addAll_eq usable (.vacant none (by omega)) enough
    obtain ⟨stored, shown, each⟩ := exists_forall₂_storedAs ts
      (show s.targets.sequence + 1 + ts.length ≤ Table.lastId + 1 by omega)
    rw [none, List.nil_append] at rows
    refine .inr ⟨cs, ts, stored, rfl, lists, ?_, ?_, each⟩
    · simp only [fill, read, added]
      rfl
    · simp only [fill, read, added]
      exact all_of_rows usable (rows ▸ shown)

/-- A seed that gives two targets one id. -/
def sameIds : String := "[\x7b\"id\":7,\"name\":\"a\"\x7d,\x7b\"interval\":5,\"id\":7\x7d]"

/-- The targets get different ids. -/
theorem fill_allOrNothing_sameIds :
    let file := some (sameIds.toList.flatMap utf8EncodeChar)
    let filled := fill (some "seed.json") file {}
    Store.all {} = .ok [] ∧ (∀ bytes, file = some bytes → 0 + bytes.length ≤ Table.lastId) ∧
      Seed.Lists sameIds.toList [{ id := 7, name := "a" }, { id := 7, interval := 5 }] ∧
      filled.result = .ok () ∧
      filled.store.all = .ok [{ id := 1, name := "a" }, { id := 2, interval := 5 }] := by
  intro file filled
  have room : ∀ bytes, file = some bytes → 0 + bytes.length ≤ Table.lastId := by
    intro bytes same
    rw [← Option.some.inj same]
    decide +kernel
  have lists : Seed.Lists sameIds.toList [{ id := 7, name := "a" }, { id := 7, interval := 5 }] :=
    Target.readAll?_eq_some_iff.1 (by cbv)
  refine ⟨rfl, room, lists, ?_⟩
  have read := Seed.read_eq_ok_iff.2 ⟨_, rfl, lists⟩
  rcases fill_allOrNothing "seed.json" file {} rfl room with
    ⟨e, faulty, -⟩ | ⟨cs, ts, stored, text, lists', done, all, each⟩
  · rw [Seed.read_eq_error_iff.2 faulty] at read
    cases read
  · rw [Seed.read_eq_ok_iff.2 ⟨cs, text, lists'⟩] at read
    cases read
    refine ⟨done, all.trans ?_⟩
    obtain _ | ⟨first, _ | ⟨second, _ | _⟩⟩ := each
    have one : _ = (1 : Int64) := Int64.toInt_inj.1 (first.id.trans (by rfl))
    have two : _ = (2 : Int64) := Int64.toInt_inj.1 (second.id.trans (by rfl))
    rw [first.same, second.same, one, two, first.interval (by decide), first.timeout (by decide),
      second.interval (by decide), second.timeout (by decide)]

/-- One bad element at the end, and nothing is read. -/
example : Target.readAll? "[\x7b\"id\":7\x7d,\x7b\x7d,\x7b\"port\":-1\x7d]".toList = none := by cbv

end Store

end Uptime
