/-
**Entries by key.**

A collection of entries, each with a text as its key, is a list that `insert` keeps in the order of
the keys.  A key is looked up by its first entry, so the laws of looking up hold of every list.

Main definitions:

* `Questionnaire.Keyed` — entries by key;
* `Questionnaire.Keyed.get?`, `Questionnaire.Keyed.insert`, `Questionnaire.Keyed.erase`,
  `Questionnaire.Keyed.ofList` — looking up, writing and removing.

Main results:

* `Questionnaire.Keyed.get?_insert`, `Questionnaire.Keyed.get?_erase` — what is found after a
  write and after a removal;
* `Questionnaire.Keyed.insert_insert` — the second of two writes to a key is the one that counts.
-/

set_option autoImplicit false

namespace Questionnaire

/-- Entries by key. -/
abbrev Keyed (α : Type) := List (String × α)

namespace Keyed

variable {α : Type}

/-- The value of the first entry with a key. -/
def get? : Keyed α → String → Option α
  | [], _ => none
  | (k, v) :: rest, key => if k = key then some v else get? rest key

/-- Writes a value under a key: in place if the key is there, else where the order of the keys
puts it. -/
def insert : Keyed α → String → α → Keyed α
  | [], key, value => [(key, value)]
  | (k, v) :: rest, key, value =>
    if k = key then (key, value) :: rest
    else if key < k then (key, value) :: (k, v) :: rest
    else (k, v) :: insert rest key value

/-- Removes the entries with a key. -/
def erase (m : Keyed α) (key : String) : Keyed α := m.filter fun entry => entry.1 ≠ key

/-- The entries of a list in the order of their keys; of several with one key, the last. -/
def ofList (entries : List (String × α)) : Keyed α :=
  entries.foldl (fun m entry => m.insert entry.1 entry.2) []

/-- The keys, in order. -/
def keys (m : Keyed α) : List String := m.map Prod.fst

/-- Whether a key has an entry. -/
def has (m : Keyed α) (key : String) : Bool := (m.get? key).isSome

@[simp] theorem get?_nil (key : String) : get? ([] : Keyed α) key = none := rfl

theorem get?_cons (k : String) (v : α) (rest : Keyed α) (key : String) :
    get? ((k, v) :: rest) key = if k = key then some v else get? rest key := rfl

/-- **After a write, its key has the new value and every other key the old one.** -/
theorem get?_insert (m : Keyed α) (key : String) (value : α) (other : String) :
    (m.insert key value).get? other = if key = other then some value else m.get? other := by
  induction m with
  | nil => simp [insert, get?_cons]
  | cons entry rest ih =>
    obtain ⟨k, v⟩ := entry
    by_cases hk : k = key
    · subst hk
      by_cases ho : k = other <;> simp [insert, get?_cons, ho]
    · by_cases hlt : key < k
      · simp [insert, get?_cons, hk, hlt]
      · by_cases ho : k = other
        · subst ho
          simp [insert, get?_cons, hk, hlt, Ne.symm hk]
        · simp [insert, get?_cons, hk, hlt, ho, ih]

theorem has_of_get? {m : Keyed α} {key : String} {value : α} (h : m.get? key = some value) :
    m.has key = true := by
  rw [has, h]
  rfl

@[simp] theorem get?_insert_self (m : Keyed α) (key : String) (value : α) :
    (m.insert key value).get? key = some value := by simp [get?_insert]

/-- **After a removal, its key has no value and every other key the old one.** -/
theorem get?_erase (m : Keyed α) (key other : String) :
    (m.erase key).get? other = if key = other then none else m.get? other := by
  induction m with
  | nil => simp [erase]
  | cons entry rest ih =>
    obtain ⟨k, v⟩ := entry
    have herase : erase ((k, v) :: rest) key =
        if k = key then erase rest key else (k, v) :: erase rest key := by
      by_cases hk : k = key <;> simp [erase, hk]
    rw [herase]
    by_cases hk : k = key
    · subst hk
      rw [if_pos rfl, ih]
      by_cases ho : k = other <;> simp [get?_cons, ho]
    · by_cases ho : k = other
      · subst ho
        simp [get?_cons, hk, Ne.symm hk]
      · simp [get?_cons, hk, ho, ih]

/-- **The second of two writes to a key is the one that counts.** -/
theorem insert_insert (m : Keyed α) (key : String) (first second : α) :
    (m.insert key first).insert key second = m.insert key second := by
  induction m with
  | nil => simp [insert]
  | cons entry rest ih =>
    obtain ⟨k, v⟩ := entry
    by_cases hk : k = key
    · simp [insert, hk]
    · by_cases hlt : key < k
      · simp [insert, hk, hlt]
      · simp [insert, hk, hlt, ih]

end Keyed

end Questionnaire
