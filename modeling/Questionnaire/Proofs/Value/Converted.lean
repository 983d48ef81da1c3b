/-
**Plain form, there and back.**

Values and documents are turned into each other by two recursions over nested lists and records.
What is lost on the way is lost at the numbers only: a document has no infinite number and no
not-a-number, so on the way out such a number becomes null; a value has no integers of its own, so
on the way in an integer becomes the nearest number of double precision, which then is written as a
number with a point.  Signs of zero, texts, keys and the order of items come back as they were, and
what came back once comes back unchanged ever after.

Main definitions:

* `Questionnaire.Value.nulled` — a value with null for every number that is not finite;
* `Questionnaire.Json.rounded` — a document with every number brought to double precision.

Main results:

* `Questionnaire.JsonNumber.exact_iff` — **an integer is kept exactly if it needs no more than 53
  binary digits**;
* `Questionnaire.Value.ofJson_toJson_eq_nulled`, `Questionnaire.Json.toJson_ofJson_eq_rounded` —
  what comes back of a value and of a document;
* `Questionnaire.Value.ordered_ofJson_arranged` — **the records of a document in order are in
  order**, so no key is lost when they are collected;
* `Questionnaire.Value.plain_form_there_and_back` — **both round trips, and that a second one
  changes nothing**.
-/

import Questionnaire.Proofs.Number.Scaled
import Questionnaire.Proofs.Value.TaggedForm

set_option autoImplicit false

namespace Questionnaire

/-! ### Numbers -/

namespace Number

/-- The size of a finite number is the distance of its place from zero. -/
theorem natAbs_of_position?_finite {negative : Bool} {units : Nat} {fits : Fits units} {place : Int}
    (h : (finite negative units fits).position? = some place) : place.natAbs = units := by
  cases negative with
  | false =>
      cases h
      exact Int.natAbs_natCast units
  | true =>
      cases h
      rw [Int.natAbs_neg, Int.natAbs_natCast]

end Number

/-- **An integer is kept exactly if it needs no more than 53 binary digits**; any other one comes
back as a neighbour. -/
theorem JsonNumber.exact_iff (n : Int)
    (inRange : -9223372036854775808 ≤ n ∧ n ≤ 18446744073709551615) :
    (JsonNumber.integer n inRange).toNumber.position? = some (n * Number.one) ↔
      Number.Fits (n.natAbs * Number.one) := by
  constructor
  · intro hplace
    have hfinite : (JsonNumber.integer n inRange).toNumber.isFinite = true :=
      JsonNumber.isFinite_toNumber _
    cases hnumber : (JsonNumber.integer n inRange).toNumber with
    | nan =>
        rw [hnumber] at hfinite
        cases hfinite
    | infinite negative =>
        rw [hnumber] at hfinite
        cases hfinite
    | finite negative units fits =>
        rw [hnumber] at hplace
        have hunits : n.natAbs * Number.one = units := by
          rw [← Number.natAbs_of_position?_finite hplace, Int.natAbs_mul, Int.natAbs_natCast]
        rw [hunits]
        exact fits
  · intro fits
    rw [toNumber, Number.ofInt, Number.nearest_of_fits _ fits]
    by_cases hnegative : n < 0
    · have hsize : (n.natAbs : Int) = -n := by omega
      rw [decide_eq_true hnegative, Number.position?, Int.natCast_mul, hsize, Int.neg_mul,
        Int.neg_neg]
    · have hsize : (n.natAbs : Int) = n := by omega
      rw [decide_eq_false hnegative, Number.position?, Int.natCast_mul, hsize]

/-! ### What comes back of a value -/

namespace Value

mutual

/-- **A value with null for every number that is not finite**, at any depth. -/
def nulled : Value → Value
  | .null => .null
  | .bool b => .bool b
  | .number x => if x.isFinite then .number x else .null
  | .text s => .text s
  | .list items => .list (nulledItems items)
  | .record entries => .record (nulledEntries entries)

/-- Some items, each with null for every number that is not finite. -/
def nulledItems : List Value → List Value
  | [] => []
  | item :: items => nulled item :: nulledItems items

/-- Some entries, each with null for every number that is not finite. -/
def nulledEntries : List (String × Value) → List (String × Value)
  | [] => []
  | (key, value) :: entries => (key, nulled value) :: nulledEntries entries

end

mutual

/-- **What comes back of a value is the value with null for every number that is not finite.** -/
theorem ofJson_toJson_eq_nulled (value : Value) : ofJson value.toJson = value.nulled := by
  cases value with
  | null => rfl
  | bool b => rfl
  | number x =>
      by_cases hfinite : x.isFinite = true
      · rw [toJson, Json.ofNumber_eq hfinite, nulled, if_pos hfinite]
        rfl
      · rw [toJson, Json.ofNumber_of_not_finite hfinite, nulled, if_neg hfinite]
        rfl
  | text s => rfl
  | list items => rw [toJson, ofJson, ofItems_toItems_eq_nulledItems items, nulled]
  | record entries => rw [toJson, ofJson, ofMembers_toMembers_eq_nulledEntries entries, nulled]

theorem ofItems_toItems_eq_nulledItems (items : List Value) :
    ofItems (toItems items) = nulledItems items := by
  cases items with
  | nil => rfl
  | cons item items =>
      rw [toItems, ofItems, ofJson_toJson_eq_nulled item, ofItems_toItems_eq_nulledItems items,
        nulledItems]

theorem ofMembers_toMembers_eq_nulledEntries (entries : List (String × Value)) :
    ofMembers (toMembers entries) = nulledEntries entries := by
  cases entries with
  | nil => rfl
  | cons entry entries =>
      obtain ⟨key, value⟩ := entry
      rw [toMembers, ofMembers, ofJson_toJson_eq_nulled value,
        ofMembers_toMembers_eq_nulledEntries entries, nulledEntries]

end

/-- **A value comes back as it was exactly if its numbers are finite.** -/
theorem nulled_eq_self_iff (value : Value) : value.nulled = value ↔ value.Finite := by
  rw [← ofJson_toJson_eq_nulled]
  constructor
  · intro hback
    -- what comes back was read from a document
    rw [← hback]
    exact finite_ofJson value.toJson
  · exact ofJson_toJson value

end Value

/-! ### What comes back of a document -/

/-- A number of a document as one of double precision. -/
def JsonNumber.rounded (n : JsonNumber) : JsonNumber := .real n.toNumber n.isFinite_toNumber

namespace Json

mutual

/-- **A document with every number brought to double precision**, at any depth. -/
def rounded : Json → Json
  | .null => .null
  | .bool b => .bool b
  | .number n => .number n.rounded
  | .string s => .string s
  | .array items => .array (roundedItems items)
  | .object members => .object (roundedMembers members)

/-- Some items, each with its numbers brought to double precision. -/
def roundedItems : List Json → List Json
  | [] => []
  | item :: items => rounded item :: roundedItems items

/-- Some members, each with its numbers brought to double precision. -/
def roundedMembers : List (String × Json) → List (String × Json)
  | [] => []
  | (key, value) :: members => (key, rounded value) :: roundedMembers members

end

mutual

/-- **What comes back of a document is the document with every number brought to double
precision.** -/
theorem toJson_ofJson_eq_rounded (document : Json) :
    (Value.ofJson document).toJson = document.rounded := by
  cases document with
  | null => rfl
  | bool b => rfl
  | number n => exact ofNumber_eq n.isFinite_toNumber
  | string s => rfl
  | array items => rw [Value.ofJson, Value.toJson, toItems_ofItems_eq_roundedItems items, rounded]
  | object members =>
      rw [Value.ofJson, Value.toJson, toMembers_ofMembers_eq_roundedMembers members, rounded]

theorem toItems_ofItems_eq_roundedItems (items : List Json) :
    Value.toItems (Value.ofItems items) = roundedItems items := by
  cases items with
  | nil => rfl
  | cons item items =>
      rw [Value.ofItems, Value.toItems, toJson_ofJson_eq_rounded item,
        toItems_ofItems_eq_roundedItems items, roundedItems]

theorem toMembers_ofMembers_eq_roundedMembers (members : List (String × Json)) :
    Value.toMembers (Value.ofMembers members) = roundedMembers members := by
  cases members with
  | nil => rfl
  | cons member members =>
      obtain ⟨key, value⟩ := member
      rw [Value.ofMembers, Value.toMembers, toJson_ofJson_eq_rounded value,
        toMembers_ofMembers_eq_roundedMembers members, roundedMembers]

end

end Json

/-! ### Keys -/

namespace Keyed

variable {α : Type} {entries : List (String × α)} {m : Keyed α}

/-- Writing entries keeps the order of what was there. -/
theorem Increasing.foldl_insert_of_increasing (h : Increasing m) :
    Increasing (entries.foldl (fun m entry => m.insert entry.1 entry.2) m) := by
  induction entries generalizing m with
  | nil => exact h
  | cons entry entries ih => exact ih (h.insert entry.1 entry.2)

/-- **Entries that were put in order are in order.** -/
theorem increasing_ofList (entries : List (String × α)) : Increasing (ofList entries) :=
  Increasing.foldl_insert_of_increasing List.Pairwise.nil

theorem mem_or_mem_of_mem_foldl_insert {entry : String × α}
    (h : entry ∈ entries.foldl (fun m entry => m.insert entry.1 entry.2) m) :
    entry ∈ entries ∨ entry ∈ m := by
  induction entries generalizing m with
  | nil => exact .inr h
  | cons first entries ih =>
      rcases ih h with hrest | hwritten
      · exact .inl (List.mem_cons_of_mem _ hrest)
      · rcases eq_or_mem_of_mem_insert hwritten with rfl | hmem
        · exact .inl List.mem_cons_self
        · exact .inr hmem

/-- Nothing but the entries is there after they were put in order. -/
theorem mem_of_mem_ofList {entry : String × α} (h : entry ∈ ofList entries) : entry ∈ entries := by
  rcases mem_or_mem_of_mem_foldl_insert h with hmem | hnil
  · exact hmem
  · cases hnil

end Keyed

namespace Value

theorem keys_ofMembers (members : List (String × Json)) :
    (ofMembers members).map Prod.fst = members.map Prod.fst := by
  induction members with
  | nil => rfl
  | cons member members ih => rw [ofMembers, List.map_cons, ih, List.map_cons]

/-- An entry was read from a member with its key. -/
theorem exists_mem_of_mem_ofMembers {members : List (String × Json)} {entry : String × Value}
    (h : entry ∈ ofMembers members) : ∃ member ∈ members, entry = (member.1, ofJson member.2) := by
  induction members with
  | nil => cases h
  | cons member members ih =>
      rcases List.mem_cons.1 h with rfl | hrest
      · exact ⟨member, List.mem_cons_self, rfl⟩
      · obtain ⟨other, hother, hentry⟩ := ih hrest
        exact ⟨other, List.mem_cons_of_mem _ hother, hentry⟩

mutual

/-- **The records of a document in order are in order**, so collecting their entries by key loses
none of them. -/
theorem ordered_ofJson_arranged (document : Json) : (ofJson document.arranged).Ordered := by
  cases document with
  | null => trivial
  | bool b => trivial
  | number n => trivial
  | string s => trivial
  | array items => exact orderedItems_ofItems_arrangedItems items
  | object members =>
      refine ⟨(Keyed.increasing_ofList _).of_keys (keys_ofMembers _), orderedEntries_iff.2 ?_⟩
      intro entry hentry
      obtain ⟨member, hmember, rfl⟩ := exists_mem_of_mem_ofMembers hentry
      exact ordered_ofJson_of_mem_arrangedMembers members member (Keyed.mem_of_mem_ofList hmember)

theorem orderedItems_ofItems_arrangedItems (items : List Json) :
    OrderedItems (ofItems (Json.arrangedItems items)) := by
  cases items with
  | nil => trivial
  | cons item items =>
      exact ⟨ordered_ofJson_arranged item, orderedItems_ofItems_arrangedItems items⟩

theorem ordered_ofJson_of_mem_arrangedMembers (members : List (String × Json))
    (member : String × Json) (h : member ∈ Json.arrangedMembers members) :
    (ofJson member.2).Ordered := by
  cases members with
  | nil => cases h
  | cons first members =>
      obtain ⟨key, content⟩ := first
      rcases List.mem_cons.1 h with rfl | hrest
      · exact ordered_ofJson_arranged content
      · exact ordered_ofJson_of_mem_arrangedMembers members member hrest

end

/-! ### Both round trips -/

/-- **Plain form, there and back.**  A value comes back with null for every number that is not
finite, so as it was exactly if it has none; a document comes back with every number brought to
double precision; the second time nothing changes any more.  The keys of records stay in order both
ways, so none is lost or merged with another. -/
theorem plain_form_there_and_back (value : Value) (document : Json) :
    ofJson value.toJson = value.nulled ∧
      (ofJson value.toJson = value ↔ value.Finite) ∧
      ofJson (ofJson value.toJson).toJson = ofJson value.toJson ∧
      (ofJson document).toJson = document.rounded ∧
      (ofJson (ofJson document).toJson).toJson = (ofJson document).toJson ∧
      (value.Ordered →
        value.toJson.arranged = value.toJson ∧ (ofJson value.toJson).Ordered) ∧
      (document.arranged = document → (ofJson document).Ordered ∧
        (ofJson document).toJson.arranged = (ofJson document).toJson) := by
  -- what was read of a document has finite numbers only, so it comes back as it is
  have hagain : ∀ document : Json, ofJson (ofJson document).toJson = ofJson document := by
    intro document
    exact ofJson_toJson _ (finite_ofJson document)
  refine ⟨ofJson_toJson_eq_nulled value, ?_, hagain value.toJson,
    Json.toJson_ofJson_eq_rounded document, ?_, ?_, ?_⟩
  · rw [ofJson_toJson_eq_nulled]
    exact nulled_eq_self_iff value
  · rw [hagain document]
  · intro hordered
    have harranged : value.toJson.arranged = value.toJson := arranged_toJson value hordered
    refine ⟨harranged, ?_⟩
    rw [← harranged]
    exact ordered_ofJson_arranged value.toJson
  · intro harranged
    have hordered : (ofJson document).Ordered := by
      rw [← harranged]
      exact ordered_ofJson_arranged document
    exact ⟨hordered, arranged_toJson _ hordered⟩

/-- A value of two numbers under one key, of which JSON can hold the second. -/
def extremes : Value := .record [("a", .list [.number (.infinite true), .number (.zero true)])]

/-- A document of one integer of 54 binary digits. -/
def odd : Json := .object [("n", .number (.integer 9007199254740993 (by omega)))]

/-- An infinite number comes back as null and a negative zero as itself; an integer of 54 binary
digits comes back as its even neighbour. -/
theorem plain_form_there_and_back_extremes :
    ofJson extremes.toJson = .record [("a", .list [.null, .number (.zero true)])] ∧
      extremes.toJson.arranged = extremes.toJson ∧
      (ofJson odd).Ordered ∧
      (ofJson odd).toJson =
        .object [("n", .number (.real (.ofNat 9007199254740992) (by decide +kernel)))] := by
  obtain ⟨hvalue, -, -, hdocument, -, hordered, harranged⟩ :=
    plain_form_there_and_back extremes odd
  have hextremes : extremes.Ordered :=
    ⟨List.pairwise_singleton _ _, ⟨⟨trivial, trivial, trivial⟩, trivial⟩⟩
  have hodd : odd.arranged = odd := rfl
  have heven : Number.ofInt 9007199254740993 = Number.ofNat 9007199254740992 := by decide +kernel
  refine ⟨hvalue, (hordered hextremes).1, (harranged hodd).1, ?_⟩
  rw [hdocument]
  simp only [odd, Json.rounded, Json.roundedMembers, JsonNumber.rounded, JsonNumber.toNumber, heven]

end Value

end Questionnaire
