/-
**Values and their plain form.**

A document that is held in memory has the members of its objects in the order of their keys, whatever
the order in which they were written.  A value whose numbers are finite is read back from its plain
form, also when the members were put in order, since the entries of a record stand in that order
already.

Main definitions:

* `Questionnaire.Json.arranged` — a document with the members of every object in order;
* `Questionnaire.Value.Finite` — values in which every number is finite.

Main results:

* `Questionnaire.Json.get?_arranged` — **what is found under a key after the members were put in
  order**;
* `Questionnaire.Value.arranged_toJson` — the plain form of a value is in order;
* `Questionnaire.Value.ofJson_toJson` — **a value is read back from its plain form**;
* `Questionnaire.Value.finite_ofJson` — what is read has finite numbers only.
-/

import Questionnaire.Proofs.Value.Ordered
import Questionnaire.Value.Json

set_option autoImplicit false

namespace Questionnaire

/-- A number of a document stands for a finite number. -/
theorem JsonNumber.isFinite_toNumber (n : JsonNumber) : n.toNumber.isFinite = true := by
  cases n with
  | integer n inRange =>
      have hbound : 1 <<< 64 = 18446744073709551616 := by decide
      exact Number.isFinite_ofInt (by omega)
  | real x finite => exact finite

namespace Json

mutual

/-- **A document with the members of every object in the order of their keys**, as a document has
them that is held in memory. -/
def arranged : Json → Json
  | .null => .null
  | .bool b => .bool b
  | .number n => .number n
  | .string s => .string s
  | .array items => .array (arrangedItems items)
  | .object members => .object (Keyed.ofList (arrangedMembers members))

/-- Some items, each with its members in order. -/
def arrangedItems : List Json → List Json
  | [] => []
  | item :: items => arranged item :: arrangedItems items

/-- Some members, each with those below it in order. -/
def arrangedMembers : List (String × Json) → List (String × Json)
  | [] => []
  | (key, value) :: members => (key, arranged value) :: arrangedMembers members

end

@[simp] theorem arranged_null : arranged .null = .null := rfl

@[simp] theorem arranged_bool (b : Bool) : arranged (.bool b) = .bool b := rfl

@[simp] theorem arranged_number (n : JsonNumber) : arranged (.number n) = .number n := rfl

@[simp] theorem arranged_string (s : String) : arranged (.string s) = .string s := rfl

theorem arrangedItems_eq_map (items : List Json) : arrangedItems items = items.map arranged := by
  induction items with
  | nil => rfl
  | cons item items ih => rw [arrangedItems, ih, List.map_cons]

@[simp] theorem arranged_array (items : List Json) :
    arranged (.array items) = .array (items.map arranged) := by
  rw [arranged, arrangedItems_eq_map]

@[simp] theorem arranged_object (members : List (String × Json)) :
    arranged (.object members) = .object (Keyed.ofList (arrangedMembers members)) := rfl

theorem keys_arrangedMembers (members : List (String × Json)) :
    (arrangedMembers members).map Prod.fst = members.map Prod.fst := by
  induction members with
  | nil => rfl
  | cons member members ih => rw [arrangedMembers, List.map_cons, ih, List.map_cons]

theorem get?_arrangedMembers (members : List (String × Json)) (key : String) :
    Keyed.get? (arrangedMembers members) key = (Keyed.get? members key).map arranged := by
  induction members with
  | nil => rfl
  | cons member members ih =>
      obtain ⟨k, value⟩ := member
      rw [arrangedMembers, Keyed.get?_cons, Keyed.get?_cons]
      by_cases hk : k = key
      · rw [if_pos hk, if_pos hk, Option.map_some]
      · rw [if_neg hk, if_neg hk, ih]

/-- **What is found under a key after members with different keys were put in order.** -/
theorem get?_arranged (members : List (String × Json)) (h : (members.map Prod.fst).Nodup)
    (key : String) :
    (Keyed.ofList (arrangedMembers members)).get? key =
      (Keyed.get? members key).map arranged := by
  rw [Keyed.get?_ofList (by rwa [keys_arrangedMembers]), get?_arrangedMembers]

/-- A finite number has a document of its own. -/
theorem ofNumber_eq {x : Number} (h : x.isFinite = true) : ofNumber x = .number (.real x h) := by
  rw [ofNumber, JsonNumber.ofNumber?, dif_pos h]

/-- A count of 64 bits is written as an integer. -/
theorem ofNat_eq {n : Nat} (h : n ≤ 18446744073709551615) :
    ofNat n = .number (.integer n ⟨by omega, by omega⟩) := by
  rw [ofNat, JsonNumber.ofInt?, dif_pos]

end Json

namespace Value

mutual

/-- **Every number in a value is finite**, at any depth. -/
def Finite : Value → Prop
  | .number x => x.isFinite = true
  | .list items => FiniteItems items
  | .record entries => FiniteEntries entries
  | _ => True

/-- Every number in some items is finite. -/
def FiniteItems : List Value → Prop
  | [] => True
  | item :: items => Finite item ∧ FiniteItems items

/-- Every number in some entries is finite. -/
def FiniteEntries : List (String × Value) → Prop
  | [] => True
  | (_, value) :: entries => Finite value ∧ FiniteEntries entries

end

mutual

/-- **No number in a document is infinite or not-a-number**, so the value of a document has finite
numbers only. -/
theorem finite_ofJson (document : Json) : (ofJson document).Finite := by
  cases document with
  | null => trivial
  | bool b => trivial
  | number n => exact n.isFinite_toNumber
  | string s => trivial
  | array items => exact finiteItems_ofItems items
  | object members => exact finiteEntries_ofMembers members

theorem finiteItems_ofItems (items : List Json) : FiniteItems (ofItems items) := by
  cases items with
  | nil => trivial
  | cons item items => exact ⟨finite_ofJson item, finiteItems_ofItems items⟩

theorem finiteEntries_ofMembers (members : List (String × Json)) :
    FiniteEntries (ofMembers members) := by
  cases members with
  | nil => trivial
  | cons member members =>
      obtain ⟨key, content⟩ := member
      exact ⟨finite_ofJson content, finiteEntries_ofMembers members⟩

end

theorem keys_toMembers (entries : List (String × Value)) :
    (toMembers entries).map Prod.fst = entries.map Prod.fst := by
  induction entries with
  | nil => rfl
  | cons entry entries ih => rw [toMembers, List.map_cons, ih, List.map_cons]

/-- The plain forms of entries in order are in order. -/
theorem increasing_toMembers {entries : List (String × Value)} (h : Keyed.Increasing entries) :
    Keyed.Increasing (toMembers entries) :=
  h.of_keys (keys_toMembers entries)

mutual

/-- **The plain form of a value is in order**, if its records are. -/
theorem arranged_toJson (value : Value) (h : value.Ordered) :
    value.toJson.arranged = value.toJson := by
  cases value with
  | null => rfl
  | bool b => rfl
  | number x =>
      rw [toJson, Json.ofNumber]
      split <;> rfl
  | text s => rfl
  | list items => rw [toJson, Json.arranged, arrangedItems_toItems items h]
  | record entries =>
      rw [toJson, Json.arranged, arrangedMembers_toMembers entries h.2,
        (increasing_toMembers h.1).ofList_eq]

theorem arrangedItems_toItems (items : List Value) (h : OrderedItems items) :
    Json.arrangedItems (toItems items) = toItems items := by
  cases items with
  | nil => rfl
  | cons item items =>
      rw [toItems, Json.arrangedItems, arranged_toJson item h.1, arrangedItems_toItems items h.2]

theorem arrangedMembers_toMembers (entries : List (String × Value)) (h : OrderedEntries entries) :
    Json.arrangedMembers (toMembers entries) = toMembers entries := by
  cases entries with
  | nil => rfl
  | cons entry entries =>
      obtain ⟨key, value⟩ := entry
      rw [toMembers, Json.arrangedMembers, arranged_toJson value h.1,
        arrangedMembers_toMembers entries h.2]

end

mutual

/-- **A value is read back from its plain form**, if its numbers are finite. -/
theorem ofJson_toJson (value : Value) (h : value.Finite) : ofJson value.toJson = value := by
  cases value with
  | null => rfl
  | bool b => rfl
  | number x =>
      rw [toJson, Json.ofNumber_eq h]
      rfl
  | text s => rfl
  | list items => rw [toJson, ofJson, ofItems_toItems items h]
  | record entries => rw [toJson, ofJson, ofMembers_toMembers entries h]

theorem ofItems_toItems (items : List Value) (h : FiniteItems items) :
    ofItems (toItems items) = items := by
  cases items with
  | nil => rfl
  | cons item items =>
      rw [toItems, ofItems, ofJson_toJson item h.1, ofItems_toItems items h.2]

theorem ofMembers_toMembers (entries : List (String × Value)) (h : FiniteEntries entries) :
    ofMembers (toMembers entries) = entries := by
  cases entries with
  | nil => rfl
  | cons entry entries =>
      obtain ⟨key, value⟩ := entry
      rw [toMembers, ofMembers, ofJson_toJson value h.1, ofMembers_toMembers entries h.2]

end

end Value

end Questionnaire
