/-
**Chosen options are found by the rules that ask for them.**

A rule for an option asks whether the variable of the question equals the value of the option.
Which option an answer means is another matter: the answer may be the id of the option, its value,
or a text that spells the value.  In each case the value of the option is stored, and this value
agrees with itself as long as its numbers are finite, which those of a document are.  Where several
options are chosen their values are stored as a list, which is asked item by item; so each option
is found by its value if this is no list, and among operands in any case.

Main definition:

* `Questionnaire.Session.Settles` — an answer makes a condition hold, and a transition that asks it
  first follow its first rule.

Main results:

* `Questionnaire.Predicate.holdsOf_equals_self`, `Questionnaire.Predicate.holdsOf_equals_of_mem`,
  `Questionnaire.Predicate.holdsOf_oneOf_of_mem` — a value passes the questions that ask for it;
* `Questionnaire.forall₂_of_acceptItems` — the options that are selected are those that the items
  mean, one by one;
* `Questionnaire.Session.chosen_options_are_found` — **on a survey that was read, every option that
  an accepted answer means is found by the conditions that ask for its value**.
-/

import Questionnaire.Proofs.Document.Origin
import Questionnaire.Proofs.Document.RoundTrip
import Questionnaire.Proofs.Membership
import Questionnaire.Proofs.Session.Shape
import Questionnaire.Proofs.Value.Agreement

set_option autoImplicit false

namespace Questionnaire

/-! ### Questions that ask for a value -/

namespace Predicate

variable {value : Value} {items operands : List Value}

/-- **A value equals itself.** -/
theorem holdsOf_equals_self (h : value.Finite) : (equals value).holdsOf value = true := by
  cases value with
  | list items =>
      rw [holdsOf_equals_list_of_isList rfl]
      exact Value.agrees_self h
  | _ =>
      rw [holdsOf_equals_of_not_isList rfl]
      exact Value.agrees_self h

/-- **A list equals each of its items that is no list.** -/
theorem holdsOf_equals_of_mem (hmem : value ∈ items) (h : value.Finite)
    (hplain : value.isList = false) : (equals value).holdsOf (.list items) = true := by
  rw [holdsOf_equals_list_of_not_isList hplain, List.any_eq_true]
  exact ⟨value, hmem, Value.agrees_self h⟩

/-- **A list is among operands that have one of its items.** -/
theorem holdsOf_oneOf_of_mem (hmem : value ∈ items) (h : value.Finite)
    (hoperand : value ∈ operands) : (oneOf operands).holdsOf (.list items) = true :=
  holdsOf_oneOf_list_iff.2 ⟨value, hmem, value, hoperand, Value.agrees_self h⟩

end Predicate

/-- A transition follows its first rule if the condition of this rule holds. -/
theorem Transition.decide_of_first_holds {condition : Condition} {bindings : Variables}
    (h : condition.holds bindings = true) (target : String) (rules : List Rule)
    (otherwise : String) :
    (Transition.conditional (⟨condition, target⟩ :: rules) otherwise).decide bindings =
      .matched 0 condition.variableName (bindings.get? condition.variableName)
        condition.predicate target := by
  simp only [decide, decideFrom, h, if_true]

/-! ### What an answer means -/

section Choices

variable {choices selected : List Choice} {answer : Value}

/-- **The options that are selected are those that the items mean**, one by one. -/
theorem forall₂_of_acceptItems {items : List Value} {earlier : List String}
    (h : acceptItems choices earlier items = .ok selected) :
    List.Forall₂ (fun item choice => chosen? choices item = some choice) items selected := by
  induction items generalizing earlier selected with
  | nil =>
      cases h
      exact .nil
  | cons item items ih =>
      rw [acceptItems] at h
      split at h
      · cases h
      · rename_i choice hchoice
        split at h
        · cases h
        · obtain ⟨rest, hrest, rfl⟩ := map_eq_ok_iff.1 h
          exact .cons (acceptChoice_eq_ok_iff.1 hchoice) (ih hrest)

/-- A selection is made by a list of items. -/
theorem exists_items_of_acceptSelection {limit : Option Nat}
    (h : acceptSelection choices limit answer = .ok selected) :
    ∃ items, answer = .list items ∧
      List.Forall₂ (fun item choice => chosen? choices item = some choice) items selected := by
  unfold acceptSelection at h
  split at h
  · cases h
  · rename_i items _
    split at h
    · cases h
    · exact ⟨items, rfl, forall₂_of_acceptItems h⟩
  · cases h

/-- What is selected was meant by an item, so it is one of the options. -/
theorem mem_of_forall₂_chosen? {items : List Value}
    (h : List.Forall₂ (fun item choice => chosen? choices item = some choice) items selected) :
    ∀ choice ∈ selected, choice ∈ choices := by
  induction h with
  | nil => exact fun _ hmem => absurd hmem List.not_mem_nil
  | cons hchosen _ ih => exact List.forall_mem_cons.2 ⟨mem_of_chosen? hchosen, ih⟩

end Choices

/-! ### Submissions -/

namespace Session

variable {session : Session} {block : Block} {answer : Value} {stored : Option Value}

/-- A session that moves on has the variables that the answer leaves, and stands where the
transition leads. -/
theorem moved_of_submit {limit : UInt32} {next : Session}
    (hblock : session.graph.block? session.current = some block)
    (haccept : block.kind.accept answer = .ok stored)
    (hsubmit : session.submit limit answer = .ok next) :
    ∃ transition, block.next = some transition ∧
      next = session.moveTo block (storeAnswer session.bindings block stored)
        (session.destination block stored transition) := by
  cases made_of_submit hsubmit with
  | @moved _ found kept transition hfound _ hkept hnext _ _ =>
      obtain rfl : found = block := Option.some.inj (hfound.symm.trans hblock)
      obtain rfl : kept = stored := Except.ok.inj (hkept.symm.trans haccept)
      exact ⟨transition, hnext, rfl⟩

/-- **An answer settles a condition.**  The condition holds of the variables that the answer leaves,
so that every transition which asks it first follows its first rule.  If the answer is submitted,
the condition holds afterwards, and the session stands where the first rule leads if the current
block asks it first. -/
structure Settles (session : Session) (block : Block) (answer : Value) (stored : Option Value)
    (condition : Condition) : Prop where
  holds : condition.holds (storeAnswer session.bindings block stored) = true
  decides : ∀ target rules otherwise,
    (Transition.conditional (⟨condition, target⟩ :: rules) otherwise).decide
        (storeAnswer session.bindings block stored) =
      .matched 0 condition.variableName
        ((storeAnswer session.bindings block stored).get? condition.variableName)
        condition.predicate target
  holds_after : ∀ limit next, session.submit limit answer = .ok next →
    condition.holds next.bindings = true
  leads : ∀ limit next target rules otherwise,
    block.next = some (.conditional (⟨condition, target⟩ :: rules) otherwise) →
    session.submit limit answer = .ok next → next.current = target

/-- A condition that holds of the variables which an accepted answer leaves is settled. -/
theorem settles_of_holds {condition : Condition}
    (hblock : session.graph.block? session.current = some block)
    (haccept : block.kind.accept answer = .ok stored)
    (hholds : condition.holds (storeAnswer session.bindings block stored) = true) :
    session.Settles block answer stored condition where
  holds := hholds
  decides := Transition.decide_of_first_holds hholds
  holds_after := by
    intro limit next hsubmit
    obtain ⟨transition, -, rfl⟩ := moved_of_submit hblock haccept hsubmit
    exact hholds
  leads := by
    intro limit next target rules otherwise hnext hsubmit
    obtain ⟨transition, htransition, rfl⟩ := moved_of_submit hblock haccept hsubmit
    obtain rfl := Option.some.inj (hnext.symm.trans htransition)
    rw [moveTo, destination, Transition.decide_of_first_holds hholds]
    rfl

/-- A question that the stored value passes is settled. -/
theorem settles_of_holdsOf {name : String} {value : Value} {predicate : Predicate}
    (hblock : session.graph.block? session.current = some block)
    (hname : block.variableName = some name)
    (haccept : block.kind.accept answer = .ok (some value))
    (hholds : predicate.holdsOf value = true) :
    session.Settles block answer (some value) ⟨name, predicate⟩ := by
  refine settles_of_holds hblock haccept ?_
  have hget : (storeAnswer session.bindings block (some value)).get? name = some value := by
    simp only [storeAnswer, hname, Keyed.get?_insert_self]
  rw [Condition.holds_of_get? hget]
  exact hholds

/-- **Chosen options are found by the conditions that ask for them.**  Let a session on a survey
that was read from a draft stand at a block with a variable, and let the block accept an answer.
If it asks for one option, the answer means an option, and it settles the condition that the
variable equals the value of this option.  If it asks for several, the items of the answer mean
options, and for each of them the answer settles the condition that the variable equals its value,
if that is no list, and the condition that the variable is among operands which have its value. -/
theorem chosen_options_are_found {vocabulary : Document.Vocabulary} {draft : Document.Draft}
    (hgraph : draft.toGraph vocabulary = .ok session.graph)
    (hblock : session.graph.block? session.current = some block) {name : String}
    (hname : block.variableName = some name) (haccept : block.kind.accept answer = .ok stored) :
    (∀ choices, block.kind = .singleChoice choices ∨ block.kind = .scale choices →
      ∃ choice, chosen? choices answer = some choice ∧ stored = some choice.value ∧
        session.Settles block answer stored ⟨name, .equals choice.value⟩) ∧
    ∀ choices limit, block.kind = .multiChoice choices limit →
      ∃ items selected, answer = .list items ∧
        List.Forall₂ (fun item choice => chosen? choices item = some choice) items selected ∧
        stored = some (.list (selected.map Choice.value)) ∧
        ∀ choice ∈ selected,
          (choice.value.isList = false →
            session.Settles block answer stored ⟨name, .equals choice.value⟩) ∧
          ∀ operands, choice.value ∈ operands →
            session.Settles block answer stored ⟨name, .oneOf operands⟩ := by
  have hfinite : ∀ choices, block.kind.choices? = some choices →
      ∀ choice ∈ choices, choice.value.Finite := fun choices hchoices =>
    Document.Draft.finite_of_mem_choices hgraph (Graph.mem_of_block? hblock).1 hchoices
  constructor
  · intro choices hkind
    have hchoices : block.kind.choices? = some choices := by
      rcases hkind with hkind | hkind <;> rw [hkind] <;> rfl
    have hread : (acceptChoice choices answer).map (fun choice => some choice.value) =
        .ok stored := by
      rcases hkind with hkind | hkind <;> rw [hkind] at haccept <;> exact haccept
    obtain ⟨choice, hchoice, rfl⟩ := map_eq_ok_iff.1 hread
    have hchosen := acceptChoice_eq_ok_iff.1 hchoice
    have hvalue := hfinite choices hchoices choice (mem_of_chosen? hchosen)
    exact ⟨choice, hchosen, rfl, settles_of_holdsOf hblock hname haccept
      (Predicate.holdsOf_equals_self hvalue)⟩
  · intro choices limit hkind
    have hchoices : block.kind.choices? = some choices := by
      rw [hkind]
      rfl
    have hread : (acceptSelection choices limit answer).map (fun selected =>
        some (Value.list (selected.map Choice.value))) = .ok stored := by
      rw [hkind] at haccept
      exact haccept
    obtain ⟨selected, hselected, rfl⟩ := map_eq_ok_iff.1 hread
    obtain ⟨items, rfl, hitems⟩ := exists_items_of_acceptSelection hselected
    refine ⟨items, selected, rfl, hitems, rfl, fun choice hmem => ?_⟩
    have hvalue := hfinite choices hchoices choice (mem_of_forall₂_chosen? hitems choice hmem)
    have hstored : choice.value ∈ selected.map Choice.value := List.mem_map_of_mem hmem
    exact ⟨fun hplain => settles_of_holdsOf hblock hname haccept
        (Predicate.holdsOf_equals_of_mem hstored hvalue hplain),
      fun operands hoperand => settles_of_holdsOf hblock hname haccept
        (Predicate.holdsOf_oneOf_of_mem hstored hvalue hoperand)⟩

end Session

namespace Graph

/-- A scale of two steps, whose first rule asks for the higher one. -/
def rating : Block where
  id := "rate"
  kind := .scale [⟨"low", "Low", .number (.ofNat 1)⟩, ⟨"high", "High", .number (.ofNat 4)⟩]
  prompt := none
  variableName := some "rating"
  next := some (.conditional [⟨⟨"rating", .equals (.number (.ofNat 4))⟩, "end"⟩] "rate")

/-- A survey that asks for a rating until it is high. -/
def rated : Graph where
  start := "rate"
  title := none
  expectedMinutes := none
  blocks := [rating,
    { id := "end", kind := .final, prompt := none, variableName := none, next := none }]
  blocks_ne_nil := List.cons_ne_nil _ _
  nodup_ids := by decide +kernel

theorem writable_rated : rated.Writable where
  block := by
    have hone : (Number.ofNat 1).isFinite = true := by decide +kernel
    have hfour : (Number.ofNat 4).isFinite = true := by decide +kernel
    refine List.forall_mem_cons.2 ⟨⟨by decide +kernel, ?_, ?_, ?_⟩, List.forall_mem_singleton.2 ?_⟩
    · exact List.forall_mem_cons.2 ⟨⟨by decide +kernel, hone, trivial⟩,
        List.forall_mem_singleton.2 ⟨by decide +kernel, hfour, trivial⟩⟩
    · rintro name ⟨⟩
      decide +kernel
    · rintro transition ⟨⟩
      exact ⟨by decide +kernel, List.forall_mem_singleton.2 ⟨hfour, trivial⟩⟩
    · exact ⟨by decide +kernel, trivial, fun _ h => (nomatch h), fun _ h => (nomatch h)⟩
  expectedMinutes := fun _ h => (nomatch h)

/-- An answer that spells the number of the higher step means this step. -/
theorem chosen?_rating :
    chosen? [⟨"low", "Low", .number (.ofNat 1)⟩, ⟨"high", "High", .number (.ofNat 4)⟩]
      (.text " +4.0 ") = some ⟨"high", "High", .number (.ofNat 4)⟩ := by
  have hlow : (Value.text " +4.0 ").agrees (.number (.ofNat 1)) = false := by decide +kernel
  have hhigh : (Value.text " +4.0 ").agrees (.number (.ofNat 4)) = true := by decide +kernel
  simp [chosen?, Value.text?, hlow, hhigh]

end Graph

namespace Session

/-- In the survey `Graph.rated` a text that spells the higher step leads to the end.  In the survey
`Graph.feedback` the option that stands for nothing is found by its id. -/
theorem chosen_options_are_found_rated_feedback :
    (Document.Draft.ofGraph Graph.rated).toGraph .standard = .ok Graph.rated ∧
    Graph.rating.kind.accept (.text " +4.0 ") = .ok (some (.number (.ofNat 4))) ∧
    (opening "s" Graph.rated).Settles Graph.rating (.text " +4.0 ") (some (.number (.ofNat 4)))
      ⟨"rating", .equals (.number (.ofNat 4))⟩ ∧
    (Document.Draft.ofGraph (Graph.feedback .yesNo)).toGraph .standard =
      .ok (Graph.feedback .yesNo) ∧
    Graph.visit.kind.accept (.list [.text "home"]) = .ok (some (.list [.null])) ∧
    (opening "s" (Graph.feedback .yesNo)).Settles Graph.visit (.list [.text "home"])
      (some (.list [.null])) ⟨"place", .oneOf [.text "work", .null]⟩ := by
  have hrated : (Document.Draft.ofGraph Graph.rated).toGraph .standard = .ok Graph.rated := by
    rw [Document.toGraph_ofGraph Graph.writable_rated, Graph.forgetNames_of_known
      (List.forall_mem_cons.2 ⟨nofun, List.forall_mem_singleton.2 nofun⟩)]
  have hfeedback : (Document.Draft.ofGraph (Graph.feedback .yesNo)).toGraph .standard =
      .ok (Graph.feedback .yesNo) := by
    have hwritable : (Graph.feedback .yesNo).Writable := Graph.writable_feedback trivial
    rw [Document.toGraph_ofGraph hwritable, Graph.forgetNames_of_known
      (List.forall_mem_cons.2 ⟨nofun, List.forall_mem_cons.2 ⟨nofun,
        List.forall_mem_singleton.2 nofun⟩⟩)]
  have hspelled : Graph.rating.kind.accept (.text " +4.0 ") =
      .ok (some (.number (.ofNat 4))) := by
    rw [Graph.rating, Kind.accept, acceptChoice_eq_ok_iff.2 Graph.chosen?_rating]
    rfl
  have hhome : chosen? [Graph.shop, ⟨"home", "At home", .null⟩] (.text "home") =
      some ⟨"home", "At home", .null⟩ := by
    simp [chosen?, Value.text?, Graph.shop]
  have hnamed : Graph.visit.kind.accept (.list [.text "home"]) = .ok (some (.list [.null])) := by
    simp [Graph.visit, Kind.accept, acceptSelection, acceptItems, acceptChoice, hhome,
      Option.filter, Except.map]
  refine ⟨hrated, hspelled, ?_, hfeedback, hnamed, ?_⟩
  · have hgraph : (Document.Draft.ofGraph Graph.rated).toGraph .standard =
        .ok (opening "s" Graph.rated).graph := hrated
    obtain ⟨choice, -, hstored, hsettles⟩ :=
      (chosen_options_are_found hgraph rfl rfl hspelled).1 _ (.inr rfl)
    rw [← Option.some.inj hstored] at hsettles
    exact hsettles
  · have hgraph : (Document.Draft.ofGraph (Graph.feedback .yesNo)).toGraph .standard =
        .ok (opening "s" (Graph.feedback .yesNo)).graph := hfeedback
    obtain ⟨items, selected, -, -, hstored, hsettles⟩ :=
      (chosen_options_are_found hgraph rfl rfl hnamed).2 _ _ rfl
    have hvalues : [Value.null] = selected.map Choice.value :=
      Value.list.inj (Option.some.inj hstored)
    obtain ⟨choice, rfl, hnull⟩ := List.map_eq_singleton_iff.1 hvalues.symm
    have hoperand : choice.value ∈ [Value.text "work", .null] := by
      rw [hnull]
      exact List.mem_cons_of_mem _ (List.mem_singleton_self _)
    exact (hsettles choice (List.mem_singleton_self _)).2 _ hoperand

end Session

end Questionnaire
