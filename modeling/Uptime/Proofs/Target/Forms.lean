import Mathlib
import Uptime.Proofs.Json.Grammatical
import Uptime.Proofs.Target.RoundTrip

/-!
# The forms of a target

A target may be given as an object of some of its fields or as an array of the first few
(`read?_forms`). What is not given has its default; what is not known is passed over.
-/

namespace Uptime.Target

open Json (Spells)

/-- An object gives the fields that are among its members. -/
theorem ofJson?_entries (t : Target) {es : List Entry} (once : (Entry.fields es).Nodup) :
    ofJson? (.object (es.map (·.member t))) = some (({} : Target).overlay t (Entry.fields es)) :=
  ofMembers?_entries {} t once nofun

/-- An array gives the first fields in order. -/
theorem ofJson?_values (t : Target) (k : Nat) :
    ofJson? (.array ((Field.all.take k).map t.value)) =
      some (({} : Target).overlay t (Field.all.take k)) := by
  have read := ofItems?_values t {} (Field.all.take k) (Field.all.drop k)
  rw [List.take_append_drop] at read
  exact read

theorem fields_map_field (fs : List Field) : Entry.fields (fs.map Entry.field) = fs := by
  induction fs with
  | nil => rfl
  | cons f fs ih => exact congrArg (f :: ·) ih

theorem nodup_all : Field.all.Nodup := by decide

/-- Texts that describe a target, with any blanks. -/
theorem read?_forms (t : Target) :
    (∀ (es : List Entry) (s : String), (Entry.fields es).Nodup →
      Spells (.padded (.object (es.map (·.member t)))) s.toList →
      read? s = some (({} : Target).overlay t (Entry.fields es))) ∧
    (∀ (f : Field) (v w : Json) (before between after : List (Option String × Json)) (s : String),
      Spells (.padded (.object
        (before ++ (some f.key, v) :: (between ++ (some f.key, w) :: after)))) s.toList →
      read? s = none) ∧
    (∀ (k : Nat) (a o : String),
      Spells (.padded (.array ((Field.all.take k).map t.value))) a.toList →
      Spells (.padded (.object ((Field.all.take k).map fun f => (some f.key, t.value f))))
        o.toList →
      read? a = some (({} : Target).overlay t (Field.all.take k)) ∧ read? a = read? o) ∧
    (∀ (vs : List Json) (s : String), 13 < vs.length →
      Spells (.padded (.array vs)) s.toList → read? s = none) := by
  refine ⟨fun es s once h => ?_, fun f v w before between after s h => ?_, fun k a o ha ho => ?_,
    fun vs s long h => ?_⟩
  · rw [read?_of_spells h, ofJson?_entries t once]
  · rw [read?_of_spells h]
    exact ofMembers?_twice
  · have once : (Entry.fields ((Field.all.take k).map .field)).Nodup := by
      rw [fields_map_field]
      exact nodup_all.sublist (List.take_sublist k _)
    have object := ofJson?_entries t once
    rw [fields_map_field, List.map_map] at object
    rw [read?_of_spells ha, read?_of_spells ho, ofJson?_values]
    exact ⟨rfl, object.symm⟩
  · rw [read?_of_spells h]
    exact ofItems?_long long

/-- A target as it might be given in part. -/
def numbered : Target := { id := 7, port := some 5432 }

/-- An object with blanks and a member of another name, one that gives a port twice, an array of one
item against the object of one member, and an array of fourteen items. -/
theorem read?_forms_numbered :
    let es : List Entry := [.other "x" (.array [.string none]) (by decide), .field .port]
    let object := "\x7b \"x\":[\"\\uD800\"] ,\"p\\u006frt\":5432\x7d"
    let ports : List (Option String × Json) :=
      [(some "port", .integer 1), (some "x", .integer 0), (some "port", .null)]
    let twice := "\x7b\"port\":1,\"x\":0,\"port\":null\x7d"
    let zeros := List.replicate 14 (Json.integer 0)
    let array := "[0,0,0,0,0,0,0,0,0,0,0,0,0,0]"
    ((Entry.fields es).Nodup ∧
      Spells (.padded (.object (es.map (·.member numbered)))) object.toList ∧
      read? object = some { port := some 5432 }) ∧
    (Spells (.padded (.object ports)) twice.toList ∧ read? twice = none) ∧
    (Spells (.padded (.array ((Field.all.take 1).map numbered.value))) "[7]".toList ∧
      Spells (.padded (.object ((Field.all.take 1).map fun f => (some f.key, numbered.value f))))
        "\x7b\"id\":7\x7d".toList ∧
      read? "[7]" = some { id := 7 } ∧ read? "[7]" = read? "\x7b\"id\":7\x7d") ∧
    13 < zeros.length ∧ Spells (.padded (.array zeros)) array.toList ∧ read? array = none := by
  intro es object ports twice zeros array
  obtain ⟨objects, doubles, arrays, longs⟩ := read?_forms numbered
  have once : (Entry.fields es).Nodup := by decide
  -- Reading tells what a text spells, so the reader is run on each of the texts.
  have object' : Spells (.padded (.object (es.map (·.member numbered)))) object.toList :=
    Json.read?_eq_some_iff.1 (by cbv)
  have twice' : Spells (.padded (.object ports)) twice.toList :=
    Json.read?_eq_some_iff.1 (by cbv)
  have first : Spells (.padded (.array ((Field.all.take 1).map numbered.value))) "[7]".toList :=
    Json.read?_eq_some_iff.1 (by cbv)
  have named : Spells (.padded (.object ((Field.all.take 1).map fun f =>
      (some f.key, numbered.value f)))) "\x7b\"id\":7\x7d".toList :=
    Json.read?_eq_some_iff.1 (by cbv)
  have many : Spells (.padded (.array zeros)) array.toList := Json.read?_eq_some_iff.1 (by cbv)
  exact ⟨⟨once, object', objects es object once object'⟩,
    ⟨twice', doubles .port _ _ [] [(some "x", .integer 0)] [] twice twice'⟩,
    ⟨first, named, arrays 1 _ _ first named⟩, by decide, many, longs zeros array (by decide) many⟩

end Uptime.Target
