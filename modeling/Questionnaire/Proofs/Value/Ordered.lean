/-
**Records with their keys in order.**

The entries of a record stand in the order of their keys, and no key comes twice.  The type of
values does not say so, since every function on records looks a key up by its first entry; a value
that was read or written has its records in order, because `Keyed.insert` keeps them so.

Main definitions:

* `Questionnaire.Keyed.Increasing` — entries in the order of their keys, each key once;
* `Questionnaire.Keyed.filled` — one value under each of several keys;
* `Questionnaire.Value.Ordered` — values in which every record is in order.

Main results:

* `Questionnaire.Keyed.get?_append` — looking up in one collection behind another;
* `Questionnaire.Keyed.get?_ofList` — **putting entries in order changes nothing for looking up**;
* `Questionnaire.Keyed.get?_ofList_append` — nor does putting others in order behind them;
* `Questionnaire.Keyed.Increasing.insert` — **writing keeps the order**;
* `Questionnaire.Keyed.Increasing.ofList_eq` — entries in order are left as they are;
* `Questionnaire.Keyed.get?_filled`, `Questionnaire.Keyed.increasing_filled` — what a filled
  collection holds, and that it is in order.
-/

import Mathlib.Data.String.Basic
import Questionnaire.Value

set_option autoImplicit false

namespace Questionnaire

namespace Keyed

variable {α : Type} {m : Keyed α} {key : String} {value : α}

/-- A key is looked up in the first of two collections, and then in the second. -/
theorem get?_append (m n : Keyed α) (key : String) :
    get? (m ++ n) key = (get? m key).or (get? n key) := by
  induction m with
  | nil => rfl
  | cons entry rest ih =>
      obtain ⟨k, v⟩ := entry
      rw [List.cons_append, get?_cons, get?_cons]
      by_cases hk : k = key
      · rw [if_pos hk, if_pos hk, Option.some_or]
      · rw [if_neg hk, if_neg hk, ih]

/-- No key but those of the entries is found. -/
theorem get?_eq_none_of_notMem (h : key ∉ m.map Prod.fst) : get? m key = none := by
  induction m with
  | nil => rfl
  | cons entry rest ih =>
      rw [List.map_cons, List.mem_cons, not_or] at h
      rw [get?_cons, if_neg (Ne.symm h.1), ih h.2]

theorem get?_foldl_insert {entries : List (String × α)} (h : (entries.map Prod.fst).Nodup)
    (m : Keyed α) (key : String) :
    get? (entries.foldl (fun m entry => m.insert entry.1 entry.2) m) key =
      (get? entries key).or (get? m key) := by
  induction entries generalizing m with
  | nil => rfl
  | cons entry rest ih =>
      obtain ⟨k, v⟩ := entry
      obtain ⟨hk, hrest⟩ := List.nodup_cons.1 h
      rw [List.foldl_cons, ih hrest, get?_insert, get?_cons]
      by_cases hkey : k = key
      · -- what was written under the key stays there, since the key does not come again
        subst hkey
        rw [if_pos rfl, if_pos rfl, get?_eq_none_of_notMem hk, Option.none_or, Option.some_or]
      · rw [if_neg hkey, if_neg hkey]

/-- **Entries with different keys are found as well when they are put in order.** -/
theorem get?_ofList {entries : List (String × α)} (h : (entries.map Prod.fst).Nodup)
    (key : String) : (ofList entries).get? key = get? entries key := by
  rw [ofList, get?_foldl_insert h, get?_nil, Option.or_none]

/-- What stands behind under other keys does not change what is found under a key. -/
theorem get?_foldl_insert_of_notMem {entries : List (String × α)} {key : String}
    (h : key ∉ entries.map Prod.fst) (m : Keyed α) :
    get? (entries.foldl (fun m entry => m.insert entry.1 entry.2) m) key = get? m key := by
  induction entries generalizing m with
  | nil => rfl
  | cons entry rest ih =>
      rw [List.map_cons, List.mem_cons, not_or] at h
      rw [List.foldl_cons, ih h.2, get?_insert, if_neg (Ne.symm h.1)]

/-- What is found is one of the entries. -/
theorem mem_of_get? (h : get? m key = some value) : (key, value) ∈ m := by
  induction m with
  | nil => cases h
  | cons entry rest ih =>
      obtain ⟨k, v⟩ := entry
      rw [get?_cons] at h
      split at h
      · rename_i hk
        cases h
        exact hk ▸ List.mem_cons_self
      · exact List.mem_cons_of_mem _ (ih h)

/-- An entry whose key comes once is the one that is found. -/
theorem get?_of_mem (h : (m.map Prod.fst).Nodup) {entry : String × α} (hmem : entry ∈ m) :
    get? m entry.1 = some entry.2 := by
  induction m with
  | nil => cases hmem
  | cons first rest ih =>
      obtain ⟨k, v⟩ := first
      obtain ⟨hk, hrest⟩ := List.nodup_cons.1 h
      rw [get?_cons]
      rcases List.mem_cons.1 hmem with rfl | hmem
      · rw [if_pos rfl]
      · have hkey : entry.1 ∈ rest.map Prod.fst := List.mem_map_of_mem hmem
        have hne : k ≠ entry.1 := fun heq => hk (heq ▸ hkey)
        rw [if_neg hne, ih hrest hmem]

/-- **Entries with different keys are found in order with others behind them**, if the others have
other keys. -/
theorem get?_ofList_append {entries others : List (String × α)}
    (h : (entries.map Prod.fst).Nodup) {entry : String × α} (hmem : entry ∈ entries)
    (hother : entry.1 ∉ others.map Prod.fst) :
    (ofList (entries ++ others)).get? entry.1 = some entry.2 := by
  rw [ofList, List.foldl_append, get?_foldl_insert_of_notMem hother, ← ofList, get?_ofList h,
    get?_of_mem h hmem]

/-! ### Increasing keys -/

/-- **Entries in the order of their keys**, each key once. -/
def Increasing (m : Keyed α) : Prop := m.Pairwise fun a b => a.1 < b.1

/-- Whether entries are in order is a matter of their keys alone. -/
theorem Increasing.of_keys {β : Type} {n : Keyed β} (h : Increasing m)
    (hkeys : n.map Prod.fst = m.map Prod.fst) : Increasing n := by
  have hordered := List.pairwise_map.2 h
  rw [← hkeys] at hordered
  exact List.pairwise_map.1 hordered

/-- A write adds its own entry, and every other one was there before. -/
theorem eq_or_mem_of_mem_insert {entry : String × α} (h : entry ∈ m.insert key value) :
    entry = (key, value) ∨ entry ∈ m := by
  induction m with
  | nil => exact .inl (List.mem_singleton.1 h)
  | cons first rest ih =>
      obtain ⟨k, v⟩ := first
      unfold insert at h
      split at h
      · exact (List.mem_cons.1 h).imp_right fun h => List.mem_cons_of_mem _ h
      · split at h
        · exact List.mem_cons.1 h
        · rcases List.mem_cons.1 h with rfl | h
          · exact .inr List.mem_cons_self
          · exact (ih h).imp_right fun h => List.mem_cons_of_mem _ h

/-- **Writing keeps the order.** -/
theorem Increasing.insert (h : Increasing m) (key : String) (value : α) :
    Increasing (m.insert key value) := by
  induction m with
  | nil => exact List.pairwise_singleton _ _
  | cons entry rest ih =>
      obtain ⟨k, v⟩ := entry
      obtain ⟨hbehind, hrest⟩ := List.pairwise_cons.1 h
      unfold Keyed.insert
      split
      · rename_i hk
        subst hk
        exact List.pairwise_cons.2 ⟨hbehind, hrest⟩
      · rename_i hne
        split
        · rename_i hlt
          refine List.pairwise_cons.2 ⟨?_, h⟩
          intro other hother
          rcases List.mem_cons.1 hother with rfl | hother
          · exact hlt
          · exact lt_trans hlt (hbehind other hother)
        · rename_i hnlt
          -- the new key goes behind the first one, which stays below all others
          have hlt : k < key := lt_of_le_of_ne (not_lt.1 hnlt) hne
          refine List.pairwise_cons.2 ⟨?_, ih hrest⟩
          intro other hother
          rcases eq_or_mem_of_mem_insert hother with rfl | hother
          · exact hlt
          · exact hbehind other hother

/-- A key behind all others is written at the end. -/
theorem insert_eq_append (h : ∀ entry ∈ m, entry.1 < key) :
    m.insert key value = m ++ [(key, value)] := by
  induction m with
  | nil => rfl
  | cons entry rest ih =>
      obtain ⟨k, v⟩ := entry
      have hlt : k < key := h _ List.mem_cons_self
      rw [insert, if_neg (ne_of_lt hlt), if_neg (not_lt_of_gt hlt),
        ih fun other hother => h other (List.mem_cons_of_mem _ hother), List.cons_append]

theorem Increasing.foldl_insert {entries : List (String × α)} (h : Increasing (m ++ entries)) :
    entries.foldl (fun m entry => m.insert entry.1 entry.2) m = m ++ entries := by
  induction entries generalizing m with
  | nil => exact (List.append_nil m).symm
  | cons entry rest ih =>
      obtain ⟨k, v⟩ := entry
      have hbehind : ∀ other ∈ m, other.1 < k := fun other hother =>
        (List.pairwise_append.1 h).2.2 other hother _ List.mem_cons_self
      rw [List.append_cons] at h ⊢
      rw [List.foldl_cons, insert_eq_append hbehind, ih h]

/-- **Entries in order are left as they are.** -/
theorem Increasing.ofList_eq (h : Increasing m) : ofList m = m :=
  Increasing.foldl_insert (m := []) h

/-! ### One value under several keys -/

/-- One value under each of several keys. -/
def filled (keys : List String) (value : α) : Keyed α :=
  keys.foldr (fun key m => m.insert key value) []

theorem get?_filled (keys : List String) (value : α) (key : String) :
    (filled keys value).get? key = if key ∈ keys then some value else none := by
  induction keys with
  | nil => rfl
  | cons k keys ih =>
      rw [filled, List.foldr_cons, ← filled, get?_insert, ih]
      by_cases hk : k = key
      · rw [if_pos hk, if_pos (hk ▸ List.mem_cons_self)]
      · rw [if_neg hk]
        exact if_congr (by simp [Ne.symm hk]) rfl rfl

theorem increasing_filled (keys : List String) (value : α) : Increasing (filled keys value) := by
  induction keys with
  | nil => exact List.Pairwise.nil
  | cons k keys ih => exact ih.insert k value

/-- Nothing but the one value is in a filled collection. -/
theorem eq_of_mem_filled {keys : List String} {entry : String × α}
    (h : entry ∈ filled keys value) : entry.2 = value := by
  induction keys with
  | nil => cases h
  | cons k keys ih =>
      rcases eq_or_mem_of_mem_insert h with rfl | h
      · rfl
      · exact ih h

end Keyed

namespace Value

mutual

/-- **Every record in a value has its keys in order**, at any depth. -/
def Ordered : Value → Prop
  | .list items => OrderedItems items
  | .record entries => Keyed.Increasing entries ∧ OrderedEntries entries
  | _ => True

/-- Every record in some items has its keys in order. -/
def OrderedItems : List Value → Prop
  | [] => True
  | item :: items => Ordered item ∧ OrderedItems items

/-- Every record in some entries has its keys in order. -/
def OrderedEntries : List (String × Value) → Prop
  | [] => True
  | (_, value) :: entries => Ordered value ∧ OrderedEntries entries

end

theorem orderedEntries_iff {entries : List (String × Value)} :
    OrderedEntries entries ↔ ∀ entry ∈ entries, entry.2.Ordered := by
  induction entries with
  | nil => simp [OrderedEntries]
  | cons entry entries ih => simp [OrderedEntries, ih]

end Value

end Questionnaire
