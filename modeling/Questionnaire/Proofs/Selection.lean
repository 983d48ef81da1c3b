/-
**Selections of several options.**

An answer to a question with several options is a list of items, and what an item means is decided
by the options as a whole: an id counts before any value, wherever in the list it stands, and only a
text that is no id is compared with the values.  So an option can be named in two ways, and two
items that look different can mean the same option.  This module says what an item means and what a
selection is, apart from the loop that reads one, and shows that exactly the selections are
accepted.

Main definitions:

* `Questionnaire.Means` — the option that an answer means;
* `Questionnaire.Selects` — **the selections of some options**, within a limit.

Main results:

* `Questionnaire.chosen?_eq_some_iff` — the option that is found is the one that is meant;
* `Questionnaire.acceptItems_eq_ok_iff`, `Questionnaire.acceptSelection_eq_ok_iff` — which items and
  which answers select some options;
* `Questionnaire.Means.of_mem` — an id means its option, whatever the values of the others are;
* `Questionnaire.Kind.multiChoice_accepts_exactly_selections` — **a question with several options
  accepts exactly the selections**, and stores the values of the selected options in their order.
-/

import Questionnaire.Proofs.Session.Chosen

set_option autoImplicit false

namespace Questionnaire

variable {choices selected : List Choice} {choice : Choice} {answer : Value} {limit : Option Nat}

/-! ### What an answer means -/

/-- **The option that an answer means**: the first whose id it is, and if it is the id of none, the
first with whose value it agrees. -/
inductive Means (choices : List Choice) (answer : Value) (choice : Choice) : Prop where
  | byId {before behind : List Choice} (hchoices : choices = before ++ choice :: behind)
      (hid : answer = .text choice.id) (hfirst : ∀ other ∈ before, other.id ≠ choice.id)
  | byValue {before behind : List Choice} (hnone : ∀ other ∈ choices, answer ≠ .text other.id)
      (hchoices : choices = before ++ choice :: behind)
      (hvalue : answer.agrees choice.value = true)
      (hfirst : ∀ other ∈ before, answer.agrees other.value = false)

/-- Whether an answer is the id of an option. -/
theorem text?_beq_id_iff : (answer.text? == some choice.id) = true ↔ answer = .text choice.id := by
  cases answer <;> simp [Value.text?]

/-- **The option that is found is the one that is meant.** -/
theorem chosen?_eq_some_iff :
    chosen? choices answer = some choice ↔ Means choices answer choice := by
  rw [chosen?, Option.or_eq_some_iff, List.find?_eq_some_iff_append, List.find?_eq_none,
    List.find?_eq_some_iff_append]
  simp only [text?_beq_id_iff, Bool.not_eq_eq_eq_not, Bool.not_true]
  constructor
  · rintro (⟨hid, before, behind, hchoices, hfirst⟩ |
      ⟨hnone, hvalue, before, behind, hchoices, hfirst⟩)
    · refine .byId hchoices hid fun other hother heq => ?_
      have hno := hfirst other hother
      rw [← heq] at hid
      rw [text?_beq_id_iff.2 hid] at hno
      cases hno
    · exact .byValue hnone hchoices hvalue hfirst
  · rintro (⟨hchoices, hid, hfirst⟩ | ⟨hnone, hchoices, hvalue, hfirst⟩)
    · refine .inl ⟨hid, _, _, hchoices, fun other hother => Bool.eq_false_iff.2 fun heq => ?_⟩
      rw [text?_beq_id_iff, hid, Value.text.injEq] at heq
      exact hfirst other hother heq.symm
    · exact .inr ⟨hnone, hvalue, _, _, hchoices, hfirst⟩

/-- **An id means its option**, whatever the values of the other options are. -/
theorem Means.of_mem (hmem : choice ∈ choices) (hnodup : (choices.map Choice.id).Nodup) :
    Means choices (.text choice.id) choice := by
  obtain ⟨before, behind, rfl⟩ := List.append_of_mem hmem
  refine .byId rfl rfl fun other hother heq => ?_
  rw [List.map_append, List.map_cons] at hnodup
  exact (List.nodup_append.1 hnodup).2.2 _ (List.mem_map_of_mem hother) _ List.mem_cons_self heq

/-! ### Selections -/

/-- **Items select options**: there is at least one item and no more than the limit allows, each
item means the option in its place, and no option is meant twice. -/
structure Selects (choices : List Choice) (limit : Option Nat) (items : List Value)
    (selected : List Choice) : Prop where
  items_ne_nil : items ≠ []
  length_le : ∀ n ∈ limit, items.length ≤ n
  means : List.Forall₂ (Means choices) items selected
  nodup_ids : (selected.map Choice.id).Nodup

/-- **Items are accepted** when each means an option, and no option is meant twice or was selected
before. -/
theorem acceptItems_eq_ok_iff {items : List Value} {earlier : List String} :
    acceptItems choices earlier items = .ok selected ↔
      List.Forall₂ (Means choices) items selected ∧ (selected.map Choice.id).Nodup ∧
        ∀ choice ∈ selected, choice.id ∉ earlier := by
  constructor
  · intro h
    obtain ⟨-, -, hnodup, hapart⟩ := acceptItems_spec h
    exact ⟨(forall₂_of_acceptItems h).imp fun _ _ => chosen?_eq_some_iff.1, hnodup, hapart⟩
  · rintro ⟨hmeans, hnodup, hapart⟩
    induction hmeans generalizing earlier with
    | nil => rfl
    | @cons item choice items selected hmeans _ ih =>
        obtain ⟨hnew, hnodup⟩ := List.nodup_cons.1 hnodup
        obtain ⟨hbefore, hapart⟩ := List.forall_mem_cons.1 hapart
        -- the rest has neither the ids that were selected before nor the one that is new
        have hrest : acceptItems choices (choice.id :: earlier) items = .ok selected := by
          refine ih hnodup fun other hother => ?_
          rw [List.mem_cons, not_or]
          refine ⟨fun heq => hnew ?_, hapart other hother⟩
          exact heq ▸ List.mem_map_of_mem hother
        rw [acceptItems, acceptChoice_eq_ok_iff.2 (chosen?_eq_some_iff.2 hmeans)]
        simp only [hbefore, if_false, hrest]
        rfl

/-- **An answer selects options** when it is a list of items that do. -/
theorem acceptSelection_eq_ok_iff : acceptSelection choices limit answer = .ok selected ↔
    ∃ items, answer = .list items ∧ Selects choices limit items selected := by
  cases answer with
  | list items =>
      cases items with
      | nil => simpa [acceptSelection] using fun h : Selects choices limit [] selected =>
          h.items_ne_nil rfl
      | cons item items =>
          have hwithin : (limit.filter (· < (item :: items).length) = none) ↔
              ∀ n ∈ limit, (item :: items).length ≤ n := by
            simp [Option.filter_eq_none_iff]
          simp only [acceptSelection, Value.list.injEq, exists_eq_left']
          split
          · rename_i n hexceeds
            have hnot : ¬ Selects choices limit (item :: items) selected := by
              intro h
              rw [hwithin.2 h.length_le] at hexceeds
              cases hexceeds
            simp [hnot]
          · rename_i hfits
            rw [acceptItems_eq_ok_iff]
            constructor
            · rintro ⟨hmeans, hnodup, -⟩
              exact ⟨List.cons_ne_nil _ _, hwithin.1 hfits, hmeans, hnodup⟩
            · intro h
              exact ⟨h.means, h.nodup_ids, fun _ _ => List.not_mem_nil⟩
  | _ => simp [acceptSelection]

/-- **What a question with several options accepts**, and what it stores. -/
theorem Kind.accept_multiChoice_eq_ok_iff {stored : Option Value} :
    (multiChoice choices limit).accept answer = .ok stored ↔
      ∃ items selected, answer = .list items ∧ Selects choices limit items selected ∧
        stored = some (.list (selected.map Choice.value)) := by
  constructor
  · intro h
    obtain ⟨selected, hselected, rfl⟩ := map_eq_ok_iff.1 h
    obtain ⟨items, rfl, hselects⟩ := acceptSelection_eq_ok_iff.1 hselected
    exact ⟨items, selected, rfl, hselects, rfl⟩
  · rintro ⟨items, selected, rfl, hselects, rfl⟩
    rw [accept, acceptSelection_eq_ok_iff.2 ⟨items, rfl, hselects⟩]
    rfl

/-! ### Selections by ids -/

/-- Ids of options are the ids of some options, one by one. -/
theorem exists_forall₂_of_ids {ids : List String} (h : ∀ id ∈ ids, id ∈ choices.map Choice.id) :
    ∃ selected, List.Forall₂ (fun id choice => choice ∈ choices ∧ choice.id = id) ids selected := by
  induction ids with
  | nil => exact ⟨[], .nil⟩
  | cons id ids ih =>
      obtain ⟨hid, hids⟩ := List.forall_mem_cons.1 h
      obtain ⟨choice, hmem, hchoice⟩ := List.mem_map.1 hid
      obtain ⟨selected, hselected⟩ := ih hids
      exact ⟨choice :: selected, .cons ⟨hmem, hchoice⟩ hselected⟩

/-- **Options are selected by their ids**, if all options have different ids. -/
theorem Selects.of_ids {ids : List String} (hchoices : (choices.map Choice.id).Nodup)
    (hids : List.Forall₂ (fun id choice => choice ∈ choices ∧ choice.id = id) ids selected)
    (hne : ids ≠ []) (hnodup : ids.Nodup) (hlimit : ∀ n ∈ limit, ids.length ≤ n) :
    Selects choices limit (ids.map Value.text) selected where
  items_ne_nil := by simpa using hne
  length_le := by simpa using hlimit
  means := by
    refine List.forall₂_map_left_iff.2 (hids.imp ?_)
    rintro _ choice ⟨hmem, rfl⟩
    exact .of_mem hmem hchoices
  nodup_ids := by
    have hmap : List.Forall₂ (· = ·) (selected.map Choice.id) ids :=
      List.forall₂_map_left_iff.2 (hids.flip.imp fun _ _ h => h.2)
    rw [List.forall₂_eq_eq_eq] at hmap
    rwa [hmap]

/-- **A question with several options accepts exactly the selections.**  What it accepts is a list
of items that select some of its options, and what it stores are the values of these options, in the
order of the items.  On a survey that passes its review, every list of different ids of options
within the limit is accepted, and stores the values of the options that have these ids. -/
theorem Kind.multiChoice_accepts_exactly_selections :
    (∀ choices limit answer stored, (multiChoice choices limit).accept answer = .ok stored ↔
      ∃ items selected, answer = .list items ∧ Selects choices limit items selected ∧
        stored = some (.list (selected.map Choice.value))) ∧
    ∀ (graph : Graph) settings, (graph.review settings).isValid = true →
      ∀ block ∈ graph.blocks, ∀ choices limit, block.kind = .multiChoice choices limit →
        ∀ ids : List String, ids ≠ [] → ids.Nodup → (∀ id ∈ ids, id ∈ choices.map Choice.id) →
          (∀ n ∈ limit, ids.length ≤ n) →
          ∃ selected, List.Forall₂ (fun id choice =>
              ∀ other, other ∈ choices ∧ other.id = id ↔ other = choice) ids selected ∧
            block.kind.accept (.list (ids.map Value.text)) =
              .ok (some (.list (selected.map Choice.value))) := by
  refine ⟨fun _ _ _ _ => accept_multiChoice_eq_ok_iff, ?_⟩
  intro graph settings hvalid block hmem choices limit hkind ids hne hnodup hids hlimit
  have hfaults := Graph.isValid_review_iff.1 hvalid
  have hwellFormed := (Graph.wellFormed_iff.2 hfaults).wellFormed block hmem
  have hchoices : (choices.map Choice.id).Nodup :=
    (hwellFormed.options choices (by rw [hkind]; rfl)).2
  obtain ⟨selected, hselected⟩ := exists_forall₂_of_ids hids
  refine ⟨selected, hselected.imp ?_, ?_⟩
  · rintro _ choice ⟨hchoice, rfl⟩ other
    constructor
    · rintro ⟨hother, heq⟩
      exact List.inj_on_of_nodup_map hchoices hother hchoice heq
    · rintro rfl
      exact ⟨hchoice, rfl⟩
  · rw [hkind, accept_multiChoice_eq_ok_iff]
    exact ⟨_, selected, rfl, .of_ids hchoices hselected hne hnodup hlimit, rfl⟩

namespace Graph

/-- The options of a question, the second of which has the value of the first for its id. -/
def crossedChoices : List Choice := [⟨"a", "A", .text "b"⟩, ⟨"b", "B", .text "c"⟩]

/-- A survey that asks for up to two of the options `Graph.crossedChoices`. -/
def crossed : Graph where
  start := "pick"
  title := none
  expectedMinutes := none
  blocks := [
    { id := "pick"
      kind := .multiChoice crossedChoices (some 2)
      prompt := none
      variableName := some "picked"
      next := some (.direct "end") },
    { id := "end", kind := .final, prompt := none, variableName := none, next := none }]
  blocks_ne_nil := List.cons_ne_nil _ _
  nodup_ids := by decide +kernel

end Graph

/-- In the survey `Graph.crossed` the id of the second option means this option, though it is the
value of the first one. -/
theorem Kind.multiChoice_accepts_exactly_selections_crossed :
    (Graph.crossed.review .standard).isValid = true ∧
    (multiChoice Graph.crossedChoices (some 2)).accept (.list [.text "b", .text "a"]) =
      .ok (some (.list [.text "c", .text "b"])) := by
  have hvalid : (Graph.crossed.review .standard).isValid = true := by decide +kernel
  obtain ⟨selected, hselected, haccept⟩ := multiChoice_accepts_exactly_selections.2
    Graph.crossed .standard hvalid _ List.mem_cons_self Graph.crossedChoices (some 2) rfl
    ["b", "a"] (by decide) (by decide) (by decide) (by decide)
  refine ⟨hvalid, ?_⟩
  cases hselected with
  | cons hsecond hrest =>
      cases hrest with
      | cons hfirst hnil =>
          cases hnil
          rw [← (hsecond _).1 ⟨List.mem_cons_of_mem _ (List.mem_singleton_self _), rfl⟩,
            ← (hfirst _).1 ⟨List.mem_cons_self, rfl⟩] at haccept
          exact haccept

end Questionnaire
