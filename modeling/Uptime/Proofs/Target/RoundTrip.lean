import Uptime.Proofs.Json.Reading
import Uptime.Proofs.Json.Writing
import Uptime.Proofs.Target.Fields

/-!
# Targets in and out of JSON

A target that is written is read as it was (`read?_jsonText`).
-/

namespace Uptime.Target

open Json (Spells)

theorem spells_text (s : String) : Spells (.value (text s)) (text s).render :=
  .string (Json.quoted_stringText s)

theorem spells_optional {α : Type} {f : α → Json} (h : ∀ a, Spells (.value (f a)) (f a).render)
    (o : Option α) : Spells (.value (Json.optional f o)) (Json.optional f o).render := by
  cases o with
  | none => exact .null
  | some a => exact h a

/-- The value of every field is written by the grammar. -/
theorem spells_value (t : Target) (f : Field) :
    Spells (.value (t.value f)) (t.value f).render := by
  have integer : ∀ n, Spells (.value (.integer n)) (Json.integer n).render := Json.spells_integer
  cases f with
  | id => exact integer _
  | name => exact spells_text _
  | kind => exact spells_text _
  | address => exact spells_text _
  | port => exact spells_optional (fun _ => integer _) _
  | method => exact spells_text _
  | postData => exact spells_optional spells_text _
  | headers => exact spells_optional spells_text _
  | verifySsl =>
    show Spells (.value (.bool t.verifySsl)) (Json.bool t.verifySsl).render
    cases t.verifySsl with
    | true => exact .true
    | false => exact .false
  | expected => exact spells_optional spells_text _
  | expectedStatus => exact integer _
  | interval => exact integer _
  | timeout => exact integer _

theorem spells_toJson (t : Target) : Spells (.padded t.toJson) t.toJson.render := by
  refine Json.padded_of_value (Json.spells_object (by simp [Field.all]) fun m hm => ?_)
  obtain ⟨f, -, rfl⟩ := List.mem_map.1 hm
  exact ⟨rfl, spells_value t f⟩

theorem ofJson?_toJson (t : Target) : ofJson? t.toJson = some t := by
  have fields : Entry.fields (Field.all.map Entry.field) = Field.all := by decide
  have once : (Entry.fields (Field.all.map Entry.field)).Nodup := by decide
  have fresh : ∀ f ∈ Entry.fields (Field.all.map Entry.field), f ∉ [] := fun _ _ => nofun
  have read := ofMembers?_entries {} t once fresh
  rw [fields, overlay_all] at read
  exact read

/-- What is read in a text that spells a value is what the value stands for. -/
theorem read?_of_spells {v : Json} {s : String} (h : Spells (.padded v) s.toList) :
    read? s = ofJson? v := by
  rw [read?, Json.read?_of_spells h, Option.bind_some]

/-- A target is read from its text as it was. So writing what was read in any text, and reading it
again, comes to the same as reading the text. -/
theorem read?_jsonText (t : Target) (s : String) :
    read? t.jsonText = some t ∧ (read? s).bind (fun u => read? u.jsonText) = read? s := by
  have inverse : ∀ u : Target, read? u.jsonText = some u := fun u => by
    rw [read?_of_spells (v := u.toJson), ofJson?_toJson]
    rw [jsonText, String.toList_ofList]
    exact u.spells_toJson
  refine ⟨inverse t, ?_⟩
  cases read? s with
  | none => rfl
  | some u => exact inverse u

end Uptime.Target
