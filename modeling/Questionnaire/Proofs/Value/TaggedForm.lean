/-
**Values and their tagged form.**

In tagged form every value stands under the name of its kind, so that six kinds share one shape of
document and a record may have keys that are called like the tags.  A reader takes a tag only from
an object with a single member, and under it only what fits the tag; hence a value is read back as
what it was, and only a number that JSON cannot write spoils it.

Main results:

* `Questionnaire.Value.ofTagged?_toTagged_iff` — **a value is read back from its tagged form
  exactly if its numbers are finite**;
* `Questionnaire.Value.arranged_toTagged` — the tagged form of a value is in order, if its records
  are.
-/

import Questionnaire.Proofs.Value.PlainForm

set_option autoImplicit false

namespace Questionnaire

namespace Json

/-- A number that is not finite is written as null. -/
theorem ofNumber_of_not_finite {x : Number} (h : ¬ x.isFinite = true) : ofNumber x = .null := by
  rw [ofNumber, JsonNumber.ofNumber?, dif_neg h]

/-- An object with a single member is in order, if what stands in it is. -/
theorem arranged_object_singleton (key : String) (content : Json) :
    arranged (.object [(key, content)]) = .object [(key, content.arranged)] := rfl

end Json

namespace Value

/-- A number that is written as null is not read as a number again. -/
theorem ofTagged?_number (x : Number) :
    ofTagged? (toTagged (.number x)) = if x.isFinite = true then some (.number x) else none := by
  by_cases h : x.isFinite = true
  · rw [toTagged, Json.ofNumber_eq h, if_pos h]
    rfl
  · rw [toTagged, Json.ofNumber_of_not_finite h, if_neg h]
    rfl

theorem ofTagged?_list (items : List Value) :
    ofTagged? (toTagged (.list items)) = (ofTaggedItems? (toTaggedItems items)).map .list := rfl

theorem ofTagged?_record (entries : List (String × Value)) :
    ofTagged? (toTagged (.record entries)) =
      (ofTaggedMembers? (toTaggedMembers entries)).map .record := rfl

mutual

/-- **A value is read back from its tagged form exactly if its numbers are finite.** -/
theorem ofTagged?_toTagged_iff (value : Value) :
    ofTagged? value.toTagged = some value ↔ value.Finite := by
  cases value with
  | null => exact ⟨fun _ => trivial, fun _ => rfl⟩
  | bool b => exact ⟨fun _ => trivial, fun _ => rfl⟩
  | number x =>
      rw [ofTagged?_number]
      simp [Finite]
  | text s => exact ⟨fun _ => trivial, fun _ => rfl⟩
  | list items =>
      rw [ofTagged?_list]
      simpa [Finite] using ofTaggedItems?_toTaggedItems_iff items
  | record entries =>
      rw [ofTagged?_record]
      simpa [Finite] using ofTaggedMembers?_toTaggedMembers_iff entries

theorem ofTaggedItems?_toTaggedItems_iff (items : List Value) :
    ofTaggedItems? (toTaggedItems items) = some items ↔ FiniteItems items := by
  cases items with
  | nil => exact ⟨fun _ => trivial, fun _ => rfl⟩
  | cons item items =>
      rw [FiniteItems, ← ofTagged?_toTagged_iff item, ← ofTaggedItems?_toTaggedItems_iff items,
        toTaggedItems, ofTaggedItems?]
      cases ofTagged? item.toTagged <;> cases ofTaggedItems? (toTaggedItems items) <;> simp

theorem ofTaggedMembers?_toTaggedMembers_iff (entries : List (String × Value)) :
    ofTaggedMembers? (toTaggedMembers entries) = some entries ↔ FiniteEntries entries := by
  cases entries with
  | nil => exact ⟨fun _ => trivial, fun _ => rfl⟩
  | cons entry entries =>
      obtain ⟨key, value⟩ := entry
      rw [FiniteEntries, ← ofTagged?_toTagged_iff value,
        ← ofTaggedMembers?_toTaggedMembers_iff entries, toTaggedMembers, ofTaggedMembers?]
      cases ofTagged? value.toTagged <;> cases ofTaggedMembers? (toTaggedMembers entries) <;> simp

end

/-- A record with a key that is called like a tag is read back. -/
example : ofTagged? (toTagged (.record [("List", .list [.null, .text "Null"])])) =
    some (.record [("List", .list [.null, .text "Null"])]) := rfl

theorem keys_toTaggedMembers (entries : List (String × Value)) :
    (toTaggedMembers entries).map Prod.fst = entries.map Prod.fst := by
  induction entries with
  | nil => rfl
  | cons entry entries ih => rw [toTaggedMembers, List.map_cons, ih, List.map_cons]

/-- The tagged forms of entries in order are in order. -/
theorem increasing_toTaggedMembers {entries : List (String × Value)}
    (h : Keyed.Increasing entries) : Keyed.Increasing (toTaggedMembers entries) :=
  h.of_keys (keys_toTaggedMembers entries)

mutual

/-- **The tagged form of a value is in order**, if its records are. -/
theorem arranged_toTagged (value : Value) (h : value.Ordered) :
    value.toTagged.arranged = value.toTagged := by
  cases value with
  | null => rfl
  | bool b => rfl
  | number x =>
      rw [toTagged, Json.arranged_object_singleton, Json.ofNumber]
      split <;> rfl
  | text s => rfl
  | list items =>
      rw [toTagged, Json.arranged_object_singleton, Json.arranged, arrangedItems_toTaggedItems items h]
  | record entries =>
      rw [toTagged, Json.arranged_object_singleton, Json.arranged,
        arrangedMembers_toTaggedMembers entries h.2, (increasing_toTaggedMembers h.1).ofList_eq]

theorem arrangedItems_toTaggedItems (items : List Value) (h : OrderedItems items) :
    Json.arrangedItems (toTaggedItems items) = toTaggedItems items := by
  cases items with
  | nil => rfl
  | cons item items =>
      rw [toTaggedItems, Json.arrangedItems, arranged_toTagged item h.1,
        arrangedItems_toTaggedItems items h.2]

theorem arrangedMembers_toTaggedMembers (entries : List (String × Value))
    (h : OrderedEntries entries) :
    Json.arrangedMembers (toTaggedMembers entries) = toTaggedMembers entries := by
  cases entries with
  | nil => rfl
  | cons entry entries =>
      obtain ⟨key, value⟩ := entry
      rw [toTaggedMembers, Json.arrangedMembers, arranged_toTagged value h.1,
        arrangedMembers_toTaggedMembers entries h.2]

end

end Value

end Questionnaire
