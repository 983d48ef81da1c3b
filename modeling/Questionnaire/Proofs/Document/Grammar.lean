/-
**The grammar of transitions.**

Four readers stand behind a transition, one for each layer of its document: what a condition asks,
the condition, the rule and the transition.  Each is lenient in its own way: rules may be left out,
a condition may leave its variable to the block, and a member that no reader looks for is passed
over.
This module says apart from the readers which documents write a transition, and which transition
they write, and shows that the readers accept these documents and no others.  So no rule is dropped,
added or moved, and the first rule that is not written as one is the one that is reported.

Main definitions:

* `Questionnaire.Visible` — a text with a character that is not blank;
* `Questionnaire.Document.WritesPredicate`, `Questionnaire.Document.WritesCondition`,
  `Questionnaire.Document.WritesRule`, `Questionnaire.Document.WritesTransition` — **the grammar**,
  layer by layer.

Main results:

* `Questionnaire.Document.readCondition_eq_ok_iff`, `Questionnaire.Document.readRule_eq_ok_iff`,
  `Questionnaire.Document.readTransition_eq_ok_iff` — each reader accepts what the grammar has;
* `Questionnaire.Document.readRules_eq_error_iff` — the first rule that cannot be read is reported;
* `Questionnaire.Document.readNext_value_eq_some_iff` — a block has the transition that its document
  writes;
* `Questionnaire.Document.readTransition_accepts_exactly_grammar` — **reading a transition accepts
  exactly the grammar**, keeps the targets in their order, and names the first rule that is wrong.
-/

import Questionnaire.Document.Block
import Questionnaire.Proofs.Basic

set_option autoImplicit false

namespace Questionnaire

/-- **A text can be seen** when some character of it is not blank. -/
def Visible (s : String) : Prop := ∃ c ∈ s.toList, isBlank c = false

theorem isBlankText_eq_false_iff {s : String} : isBlankText s = false ↔ Visible s := by
  simp [isBlankText, Visible]

instance (s : String) : Decidable (Visible s) := decidable_of_iff _ isBlankText_eq_false_iff

namespace Document

variable {members : List (String × Json)} {blockVariable : Option String} {raw : Json}

/-! ### The grammar -/

/-- **An operator and its operand write a predicate.**  Any document can be compared with; a set is
an array, and a bound is a number. -/
inductive WritesPredicate : String → Json → Predicate → Prop where
  | equals {operand : Json} : WritesPredicate "equals" operand (.equals (.ofJson operand))
  | oneOf {items : List Json} :
      WritesPredicate "in" (.array items) (.oneOf (items.map Value.ofJson))
  | above {bound : JsonNumber} : WritesPredicate "gt" (.number bound) (.above bound.toNumber)
  | below {bound : JsonNumber} : WritesPredicate "lt" (.number bound) (.below bound.toNumber)

/-- **The variable of a condition**: its own if it names one by a text, and else that of the
block. -/
inductive NamesVariable (members : List (String × Json)) (blockVariable : Option String)
    (name : String) : Prop where
  | own (hget : Keyed.get? members "variable" = some (.string name))
  | ofBlock (hnone : ∀ own, Keyed.get? members "variable" ≠ some (.string own))
      (hblock : blockVariable = some name)

/-- **An object writes a condition**: it has a variable and exactly one of the operators. -/
inductive WritesCondition (blockVariable : Option String) : Json → Condition → Prop where
  | intro {members : List (String × Json)} {name operator : String} {operand : Json}
      {predicate : Predicate} (hname : NamesVariable members blockVariable name)
      (hoperator : Keyed.get? members operator = some operand)
      (honly : ∀ other ∈ operators, other ≠ operator → Keyed.get? members other = none)
      (hpredicate : WritesPredicate operator operand predicate) :
      WritesCondition blockVariable (.object members) ⟨name, predicate⟩

/-- **An object writes a rule**: it has a condition and a target that can be seen. -/
inductive WritesRule (blockVariable : Option String) : Json → Rule → Prop where
  | intro {members : List (String × Json)} {raw : Json} {condition : Condition} {target : String}
      (hwhen : Keyed.get? members "when" = some raw)
      (hcondition : WritesCondition blockVariable raw condition)
      (hgoto : Keyed.get? members "goto" = some (.string target)) (hvisible : Visible target) :
      WritesRule blockVariable (.object members) ⟨condition, target⟩

/-- The documents of the rules of a transition, which may be left out. -/
inductive ListsRules (members : List (String × Json)) : List Json → Prop where
  | absent (hget : Keyed.get? members "if" = none) : ListsRules members []
  | listed {raws : List Json} (hget : Keyed.get? members "if" = some (.array raws)) :
      ListsRules members raws

/-- **A document writes a transition**: it is a target that can be seen, or an object that has a
last target of this kind and rules, one for each document that it lists. -/
inductive WritesTransition (blockVariable : Option String) : Json → Transition → Prop where
  | direct {target : String} (hvisible : Visible target) :
      WritesTransition blockVariable (.string target) (.direct target)
  | conditional {members : List (String × Json)} {raws : List Json} {rules : List Rule}
      {otherwise : String} (hlists : ListsRules members raws)
      (hrules : List.Forall₂ (WritesRule blockVariable) raws rules)
      (helse : Keyed.get? members "else" = some (.string otherwise))
      (hvisible : Visible otherwise) :
      WritesTransition blockVariable (.object members) (.conditional rules otherwise)

/-! ### Predicates and conditions -/

theorem ofItems_eq_map (items : List Json) : Value.ofItems items = items.map Value.ofJson := by
  induction items with
  | nil => rfl
  | cons item items ih => rw [Value.ofItems, ih, List.map_cons]

/-- **Of an operator and its operand a predicate is read** exactly if they write it. -/
theorem readPredicate_eq_ok_iff {operator : String} {operand : Json} {predicate : Predicate}
    (hoperator : operator ∈ operators) :
    readPredicate operator operand = .ok predicate ↔
      WritesPredicate operator operand predicate := by
  constructor
  · intro h
    simp only [operators, List.mem_cons, List.not_mem_nil, or_false] at hoperator
    rcases hoperator with rfl | rfl | rfl | rfl
    · cases h
      exact .equals
    · cases operand <;> cases h
      rw [ofItems_eq_map]
      exact .oneOf
    · cases operand <;> cases h
      exact .above
    · cases operand <;> cases h
      exact .below
  · intro h
    cases h with
    | oneOf => simp [readPredicate, ofItems_eq_map]
    | _ => rfl

theorem mem_operators_of_writesPredicate {operator : String} {operand : Json}
    {predicate : Predicate} (h : WritesPredicate operator operand predicate) :
    operator ∈ operators := by
  cases h <;> decide

/-- Among keys that all differ, exactly one is found if its entry is all that is found. -/
theorem filterMap_get?_eq_singleton_iff {keys : List String} (hnodup : keys.Nodup) {key : String}
    {content : Json} :
    (keys.filterMap fun k => (Keyed.get? members k).map fun found => (k, found)) =
        [(key, content)] ↔
      key ∈ keys ∧ Keyed.get? members key = some content ∧
        ∀ other ∈ keys, other ≠ key → Keyed.get? members other = none := by
  induction keys with
  | nil => simp
  | cons k keys ih =>
      obtain ⟨hnew, hnodup⟩ := List.nodup_cons.1 hnodup
      cases hget : Keyed.get? members k with
      | none =>
          rw [List.filterMap_cons_none (by simp [hget]), ih hnodup]
          constructor
          · rintro ⟨hmem, hkey, hothers⟩
            exact ⟨List.mem_cons_of_mem _ hmem, hkey,
              List.forall_mem_cons.2 ⟨fun _ => hget, hothers⟩⟩
          · rintro ⟨hmem, hkey, hothers⟩
            have hne : key ≠ k := by
              rintro rfl
              rw [hget] at hkey
              cases hkey
            exact ⟨List.mem_of_ne_of_mem hne hmem, hkey, (List.forall_mem_cons.1 hothers).2⟩
      | some found =>
          rw [List.filterMap_cons_some (by rw [hget]; rfl), List.cons.injEq, Prod.mk.injEq,
            List.filterMap_eq_nil_iff]
          simp only [Option.map_eq_none_iff]
          constructor
          · rintro ⟨⟨rfl, rfl⟩, hothers⟩
            exact ⟨List.mem_cons_self, hget, List.forall_mem_cons.2
              ⟨fun hne => absurd rfl hne, fun other hmem _ => hothers other hmem⟩⟩
          · rintro ⟨-, hkey, hothers⟩
            obtain ⟨hfirst, hothers⟩ := List.forall_mem_cons.1 hothers
            -- something is found under the first key, so this key is the one
            have heq : k = key := by
              by_contra hne
              rw [hfirst hne] at hget
              cases hget
            subst heq
            rw [hget] at hkey
            refine ⟨⟨rfl, Option.some.inj hkey⟩, fun other hmem => hothers other hmem ?_⟩
            rintro rfl
            exact hnew hmem

/-- The text of a member is found when the member is a string. -/
theorem text?_eq_some_iff {key s : String} :
    text? members key = some s ↔ Keyed.get? members key = some (.string s) := by
  rw [text?]
  rcases Keyed.get? members key with _ | (_ | _ | _ | _ | _ | _) <;> simp [Json.string?]

/-- The variable that a condition has is the one that is read. -/
theorem variable_eq_some_iff {name : String} :
    ((Keyed.get? members "variable").bind Json.string?).or blockVariable = some name ↔
      NamesVariable members blockVariable name := by
  rw [← text?, Option.or_eq_some_iff, Option.eq_none_iff_forall_ne_some]
  simp only [ne_eq, text?_eq_some_iff]
  constructor
  · rintro (hget | ⟨hnone, hblock⟩)
    · exact .own hget
    · exact .ofBlock hnone hblock
  · rintro (hget | ⟨hnone, hblock⟩)
    · exact .inl hget
    · exact .inr ⟨hnone, hblock⟩

/-- **A condition is read** exactly if the document writes it. -/
theorem readCondition_eq_ok_iff {condition : Condition} :
    readCondition blockVariable raw = .ok condition ↔
      WritesCondition blockVariable raw condition := by
  constructor
  · intro h
    unfold readCondition at h
    split at h
    · split at h
      · cases h
      · rename_i name hname
        split at h
        · rename_i operator operand hfound
          obtain ⟨hmem, hoperator, honly⟩ :=
            (filterMap_get?_eq_singleton_iff (by decide)).1 hfound
          obtain ⟨predicate, hread, rfl⟩ := map_eq_ok_iff.1 h
          exact .intro (variable_eq_some_iff.1 hname) hoperator honly
            ((readPredicate_eq_ok_iff hmem).1 hread)
        · cases h
        · cases h
    · cases h
  · rintro ⟨hname, hoperator, honly, hpredicate⟩
    have hmem := mem_operators_of_writesPredicate hpredicate
    simp only [readCondition, variable_eq_some_iff.2 hname,
      (filterMap_get?_eq_singleton_iff (by decide)).2 ⟨hmem, hoperator, honly⟩]
    exact map_eq_ok_iff.2 ⟨_, (readPredicate_eq_ok_iff hmem).2 hpredicate, rfl⟩

/-! ### Rules -/

/-- The text that is found under a key can be seen. -/
theorem visibleText?_eq_some_iff {key s : String} :
    visibleText? members key = some s ↔
      Keyed.get? members key = some (.string s) ∧ Visible s := by
  rw [visibleText?, ← text?, Option.filter_eq_some_iff, Bool.not_eq_true',
    isBlankText_eq_false_iff, text?_eq_some_iff]

/-- **A rule is read** exactly if the document writes it. -/
theorem readRule_eq_ok_iff {rule : Rule} :
    readRule blockVariable raw = .ok rule ↔ WritesRule blockVariable raw rule := by
  constructor
  · intro h
    unfold readRule at h
    split at h
    · split at h
      · cases h
      · rename_i content hwhen
        split at h
        · cases h
        · rename_i target htarget
          obtain ⟨condition, hread, rfl⟩ := map_eq_ok_iff.1 h
          obtain ⟨hgoto, hvisible⟩ := visibleText?_eq_some_iff.1 htarget
          exact .intro hwhen (readCondition_eq_ok_iff.1 hread) hgoto hvisible
    · cases h
  · rintro ⟨hwhen, hcondition, hgoto, hvisible⟩
    simp only [readRule, hwhen, visibleText?_eq_some_iff.2 ⟨hgoto, hvisible⟩]
    exact map_eq_ok_iff.2 ⟨_, readCondition_eq_ok_iff.2 hcondition, rfl⟩

/-- A rule that cannot be read is not written. -/
theorem not_writesRule_of_readRule {problem : RuleProblem}
    (h : readRule blockVariable raw = .error problem) (rule : Rule) :
    ¬ WritesRule blockVariable raw rule := by
  intro hwrites
  rw [readRule_eq_ok_iff.2 hwrites] at h
  cases h

/-- **Rules are read** exactly if the documents write them, one by one. -/
theorem readRules_eq_ok_iff {position : Nat} {raws : List Json} {rules : List Rule} :
    readRules blockVariable position raws = .ok rules ↔
      List.Forall₂ (WritesRule blockVariable) raws rules := by
  induction raws generalizing position rules with
  | nil =>
      rw [readRules, List.forall₂_nil_left_iff, Except.ok.injEq]
      exact eq_comm
  | cons raw raws ih =>
      rw [readRules, List.forall₂_cons_left_iff]
      cases hread : readRule blockVariable raw with
      | error problem =>
          constructor
          · intro h
            cases h
          · rintro ⟨rule, _, hwrites, -⟩
            exact absurd hwrites (not_writesRule_of_readRule hread rule)
      | ok rule =>
          have hwrites := readRule_eq_ok_iff.1 hread
          constructor
          · intro h
            obtain ⟨rest, hrest, rfl⟩ := map_eq_ok_iff.1 h
            exact ⟨rule, rest, hwrites, ih.1 hrest, rfl⟩
          · rintro ⟨other, rest, hother, hrest, rfl⟩
            rw [readRule_eq_ok_iff.2 hother] at hread
            obtain rfl := Except.ok.inj hread
            exact map_eq_ok_iff.2 ⟨rest, ih.2 hrest, rfl⟩

/-- **The first rule that cannot be read is reported**, with its position. -/
theorem readRules_eq_error_iff {position : Nat} {raws : List Json} {problem : TransitionProblem} :
    readRules blockVariable position raws = .error problem ↔
      ∃ i raw cause, problem = .rule (position + i) cause ∧ raws[i]? = some raw ∧
        readRule blockVariable raw = .error cause ∧
        ∀ earlier ∈ raws.take i, ∃ rule, WritesRule blockVariable earlier rule := by
  induction raws generalizing position with
  | nil => simp [readRules]
  | cons raw raws ih =>
      rw [readRules]
      cases hread : readRule blockVariable raw with
      | error cause =>
          constructor
          · intro h
            cases h
            exact ⟨0, raw, cause, rfl, rfl, hread, by simp⟩
          · rintro ⟨i, found, other, rfl, hfound, hother, hearlier⟩
            cases i with
            | zero =>
                obtain rfl := Option.some.inj hfound
                rw [hread] at hother
                rw [Except.error.inj hother]
                rfl
            | succ i =>
                obtain ⟨rule, hwrites⟩ := hearlier raw (by simp)
                exact absurd hwrites (not_writesRule_of_readRule hread rule)
      | ok rule =>
          dsimp only
          rw [map_eq_error_iff, ih]
          constructor
          · rintro ⟨i, found, cause, rfl, hfound, hcause, hearlier⟩
            refine ⟨i + 1, found, cause, ?_, hfound, hcause, ?_⟩
            · rw [Nat.add_assoc, Nat.add_comm 1 i]
            rw [List.take_succ_cons]
            exact List.forall_mem_cons.2 ⟨⟨rule, readRule_eq_ok_iff.1 hread⟩, hearlier⟩
          · rintro ⟨i, found, cause, rfl, hfound, hcause, hearlier⟩
            cases i with
            | zero =>
                obtain rfl := Option.some.inj hfound
                rw [hread] at hcause
                cases hcause
            | succ i =>
                rw [List.take_succ_cons] at hearlier
                exact ⟨i, found, cause, by rw [Nat.add_assoc, Nat.add_comm 1 i], hfound, hcause,
                  (List.forall_mem_cons.1 hearlier).2⟩

/-! ### Transitions -/

/-- The targets of the rules are those of their documents. -/
theorem forall₂_goto {raws : List Json} {rules : List Rule}
    (h : List.Forall₂ (WritesRule blockVariable) raws rules) :
    List.Forall₂ (fun raw target => ∃ members, raw = .object members ∧
      Keyed.get? members "goto" = some (.string target)) raws (rules.map Rule.target) := by
  refine List.forall₂_map_right_iff.2 (h.imp ?_)
  rintro raw rule ⟨-, -, hgoto, -⟩
  exact ⟨_, rfl, hgoto⟩

/-- An object that lists rules has them read, if it has a last target. -/
theorem readTransition_object {raws : List Json} (h : ListsRules members raws) :
    readTransition blockVariable (.object members) =
      match visibleText? members "else" with
      | none => .error .noOtherwise
      | some otherwise => (readRules blockVariable 0 raws).map (.conditional · otherwise) := by
  cases helse : visibleText? members "else" <;>
    cases h with
    | absent hget => simp only [readTransition, hget, helse]
    | listed hget => simp only [readTransition, hget, helse]

/-- Without a list of rules the rules are no array, and nothing is read. -/
theorem readTransition_of_not_listsRules (blockVariable : Option String)
    (h : ∀ raws, ¬ ListsRules members raws) :
    ∃ found, readTransition blockVariable (.object members) = .error (.rulesNotAnArray found) := by
  simp only [readTransition]
  split
  · rename_i hget
    exact absurd (.absent hget) (h [])
  · rename_i raws hget
    exact absurd (.listed hget) (h raws)
  · exact ⟨_, rfl⟩

/-- **What reading an object comes to**: its rules are no array, it has no last target, or the result
is that of its rules. -/
theorem readTransition_object_cases (blockVariable : Option String)
    (members : List (String × Json)) :
    (∃ found, readTransition blockVariable (.object members) = .error (.rulesNotAnArray found)) ∨
    readTransition blockVariable (.object members) = .error .noOtherwise ∨
    ∃ raws otherwise, ListsRules members raws ∧
      Keyed.get? members "else" = some (.string otherwise) ∧ Visible otherwise ∧
      readTransition blockVariable (.object members) =
        (readRules blockVariable 0 raws).map (.conditional · otherwise) := by
  by_cases hlists : ∃ raws, ListsRules members raws
  · obtain ⟨raws, hlists⟩ := hlists
    rw [readTransition_object hlists]
    cases hotherwise : visibleText? members "else" with
    | none => exact .inr (.inl rfl)
    | some otherwise =>
        obtain ⟨helse, hvisible⟩ := visibleText?_eq_some_iff.1 hotherwise
        exact .inr (.inr ⟨raws, otherwise, hlists, helse, hvisible, rfl⟩)
  · exact .inl (readTransition_of_not_listsRules blockVariable (not_exists.1 hlists))

/-- **A transition is read** exactly if the document writes it. -/
theorem readTransition_eq_ok_iff {transition : Transition} :
    readTransition blockVariable raw = .ok transition ↔
      WritesTransition blockVariable raw transition := by
  constructor
  · intro h
    cases raw with
    | string target =>
        cases hblank : isBlankText target with
        | true => simp [readTransition, hblank] at h
        | false =>
            simp only [readTransition, hblank, Bool.false_eq_true, if_false] at h
            cases h
            exact .direct (isBlankText_eq_false_iff.1 hblank)
    | object members =>
        rcases readTransition_object_cases blockVariable members with ⟨found, hresult⟩ | hresult |
          ⟨raws, otherwise, hlists, helse, hvisible, hresult⟩
        · rw [hresult] at h
          cases h
        · rw [hresult] at h
          cases h
        · rw [hresult] at h
          obtain ⟨rules, hread, rfl⟩ := map_eq_ok_iff.1 h
          exact .conditional hlists (readRules_eq_ok_iff.1 hread) helse hvisible
    | _ => cases h
  · intro h
    cases h with
    | direct hvisible => simp [readTransition, isBlankText_eq_false_iff.2 hvisible]
    | conditional hlists hrules helse hvisible =>
        rw [readTransition_object hlists, visibleText?_eq_some_iff.2 ⟨helse, hvisible⟩]
        exact map_eq_ok_iff.2 ⟨_, readRules_eq_ok_iff.2 hrules, rfl⟩

/-- **A rule is reported** exactly if the object lists rules and has a last target, and this rule is
the first of its rules that cannot be read. -/
theorem readTransition_eq_error_rule_iff {position : Nat} {problem : RuleProblem} :
    readTransition blockVariable raw = .error (.rule position problem) ↔
      ∃ members raws otherwise rule, raw = .object members ∧ ListsRules members raws ∧
        Keyed.get? members "else" = some (.string otherwise) ∧ Visible otherwise ∧
        raws[position]? = some rule ∧ readRule blockVariable rule = .error problem ∧
        ∀ earlier ∈ raws.take position, ∃ written, WritesRule blockVariable earlier written := by
  constructor
  · intro h
    cases raw with
    | string target =>
        simp only [readTransition] at h
        split at h <;> cases h
    | object members =>
        rcases readTransition_object_cases blockVariable members with ⟨found, hresult⟩ | hresult |
          ⟨raws, otherwise, hlists, helse, hvisible, hresult⟩
        · rw [hresult] at h
          cases h
        · rw [hresult] at h
          cases h
        · rw [hresult] at h
          obtain ⟨i, rule, cause, heq, hrule, hcause, hearlier⟩ :=
            readRules_eq_error_iff.1 (map_eq_error_iff.1 h)
          rw [Nat.zero_add] at heq
          cases heq
          exact ⟨members, raws, otherwise, rule, rfl, hlists, helse, hvisible, hrule, hcause,
            hearlier⟩
    | _ => cases h
  · rintro ⟨members, raws, otherwise, rule, rfl, hlists, helse, hvisible, hrule, hcause, hearlier⟩
    have hread : readRules blockVariable 0 raws = .error (.rule position problem) :=
      readRules_eq_error_iff.2
        ⟨position, rule, problem, by rw [Nat.zero_add], hrule, hcause, hearlier⟩
    rw [readTransition_object hlists, visibleText?_eq_some_iff.2 ⟨helse, hvisible⟩]
    exact map_eq_error_iff.2 hread

/-- **The transition of a block** is the one that its document writes, if it writes one. -/
theorem readNext_value_eq_some_iff {transition : Transition} :
    (readNext members blockVariable).value = some transition ↔
      ∃ raw, Keyed.get? members "next" = some raw ∧
        WritesTransition blockVariable raw transition := by
  unfold readNext
  split
  · rename_i hget
    simp [hget]
  · rename_i hget
    have hnull : ¬ WritesTransition blockVariable .null transition := nofun
    simp [hget, hnull]
  · rename_i raw _ hget
    simp only [hget, Option.some.injEq, exists_eq_left', ← readTransition_eq_ok_iff]
    split
    · rename_i read hread
      rw [hread, Except.ok.injEq, Option.some.injEq]
    · rename_i problem hread
      simp [hread]

/-- **Reading a transition accepts exactly the grammar.**  A transition is read of a document
exactly if the document writes it.  What is read of an object has the targets of its rules, in their
order, and then the last one.  A rule is reported exactly if the object lists rules and has a last
target, and this rule is the first that is not written as one; the message names its position. -/
theorem readTransition_accepts_exactly_grammar (blockVariable : Option String) (raw : Json) :
    (∀ transition, readTransition blockVariable raw = .ok transition ↔
      WritesTransition blockVariable raw transition) ∧
    (∀ members transition, raw = .object members →
      readTransition blockVariable raw = .ok transition →
      ∃ raws targets otherwise, ListsRules members raws ∧
        List.Forall₂ (fun raw target => ∃ members, raw = .object members ∧
          Keyed.get? members "goto" = some (.string target)) raws targets ∧
        Keyed.get? members "else" = some (.string otherwise) ∧
        transition.targets = targets ++ [otherwise]) ∧
    (∀ position, (∃ problem,
        readTransition blockVariable raw = .error (.rule position problem)) ↔
      ∃ members raws otherwise rule, raw = .object members ∧ ListsRules members raws ∧
        Keyed.get? members "else" = some (.string otherwise) ∧ Visible otherwise ∧
        raws[position]? = some rule ∧ (∀ written, ¬ WritesRule blockVariable rule written) ∧
        ∀ earlier ∈ raws.take position, ∃ written, WritesRule blockVariable earlier written) ∧
    ∀ position problem, (TransitionProblem.rule position problem).message =
      "rule #" ++ toString position ++ ": " ++ problem.message := by
  refine ⟨fun _ => readTransition_eq_ok_iff, ?_, ?_, fun _ _ => rfl⟩
  · rintro members transition rfl hread
    cases readTransition_eq_ok_iff.1 hread with
    | conditional hlists hrules helse _ =>
        exact ⟨_, _, _, hlists, forall₂_goto hrules, helse, rfl⟩
  · intro position
    simp only [readTransition_eq_error_rule_iff]
    constructor
    · rintro ⟨problem, members, raws, otherwise, rule, hraw, hlists, helse, hvisible, hrule, hcause,
        hearlier⟩
      exact ⟨members, raws, otherwise, rule, hraw, hlists, helse, hvisible, hrule,
        not_writesRule_of_readRule hcause, hearlier⟩
    · rintro ⟨members, raws, otherwise, rule, hraw, hlists, helse, hvisible, hrule, hnot, hearlier⟩
      cases hread : readRule blockVariable rule with
      | error problem =>
          exact ⟨problem, members, raws, otherwise, rule, hraw, hlists, helse, hvisible, hrule,
            hread, hearlier⟩
      | ok written => exact absurd (readRule_eq_ok_iff.1 hread) (hnot written)

/-- The members of an object with two rules, the first of which leaves the variable to its block. -/
def branching : Members := [
  ("if", .array [
    .object [("when", .object [("equals", .string "yes")]), ("goto", .string "more")],
    .object [("when", .object [("variable", .string "count"),
      ("gt", .number (.integer 3 (by decide)))]), ("goto", .string "end")]]),
  ("else", .string "end")]

/-- Of the object `branching` a transition with three targets is read for a block with a variable.
For a block without one its first rule is reported, and it writes no rule. -/
theorem readTransition_accepts_exactly_grammar_branching :
    (∃ transition, readTransition (some "reply") (.object branching) = .ok transition ∧
      ∃ raws targets otherwise, ListsRules branching raws ∧
        List.Forall₂ (fun raw target => ∃ members, raw = .object members ∧
          Keyed.get? members "goto" = some (.string target)) raws targets ∧
        Keyed.get? branching "else" = some (.string otherwise) ∧
        transition.targets = targets ++ [otherwise]) ∧
    readTransition none (.object branching) = .error (.rule 0 .noVariable) ∧
    ∃ raws rule, ListsRules branching raws ∧ raws[0]? = some rule ∧
      ∀ written, ¬ WritesRule none rule written := by
  refine ⟨⟨_, rfl, ?_⟩, rfl, ?_⟩
  · exact (readTransition_accepts_exactly_grammar (some "reply") (.object branching)).2.1
      branching _ rfl rfl
  · have hreported := (readTransition_accepts_exactly_grammar none (.object branching)).2.2.1 0
    obtain ⟨members, raws, otherwise, rule, hraw, hlists, -, -, hrule, hnot, -⟩ :=
      hreported.1 ⟨.noVariable, rfl⟩
    cases hraw
    exact ⟨raws, rule, hlists, hrule, hnot⟩

end Document

end Questionnaire
