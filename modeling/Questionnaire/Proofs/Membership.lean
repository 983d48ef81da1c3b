/-
**Membership among operands.**

A condition may ask whether a variable equals one operand, or whether it is one of several.  The
second question reads like the first one asked of each operand in turn, and it is that unless both
sides hold lists: a stored list is compared as a whole with an operand that is a list, but among
several operands its items are, one by one.  So a stored list is not found among operands that it
equals, and is found among operands of which one equals an item of it.

Main definitions:

* `Questionnaire.plainOperands`, `Questionnaire.listOperands` — the operands that are no lists, and
  those that are;
* `Questionnaire.SomeItemAgrees`, `Questionnaire.WholeAgrees` — an item of a stored list, and the
  list itself, agrees with some operand.

Main results:

* `Questionnaire.Predicate.holdsOf_oneOf_of_not_isList`,
  `Questionnaire.Predicate.holdsOf_oneOf_list_iff`,
  `Questionnaire.Predicate.exists_holdsOf_equals_list_iff` — what the two questions come to for a
  single value and for a list;
* `Questionnaire.Condition.holds_oneOf_iff_exists_equals_iff` — **when membership is equality with
  some operand**.
-/

import Questionnaire.Condition

set_option autoImplicit false

namespace Questionnaire

/-- The operands that are no lists. -/
def plainOperands (operands : List Value) : List Value :=
  operands.filter fun operand => !operand.isList

/-- The operands that are lists. -/
def listOperands (operands : List Value) : List Value := operands.filter Value.isList

/-- Some item of a stored list agrees with some operand. -/
def SomeItemAgrees (items operands : List Value) : Prop :=
  ∃ item ∈ items, ∃ operand ∈ operands, item.agrees operand = true

/-- A stored list agrees as a whole with some operand. -/
def WholeAgrees (items operands : List Value) : Prop :=
  ∃ operand ∈ operands, (Value.list items).agrees operand = true

theorem mem_plainOperands {operand : Value} {operands : List Value} :
    operand ∈ plainOperands operands ↔ operand ∈ operands ∧ operand.isList = false := by
  simp [plainOperands]

theorem mem_listOperands {operand : Value} {operands : List Value} :
    operand ∈ listOperands operands ↔ operand ∈ operands ∧ operand.isList = true := by
  simp [listOperands]

/-- An item that agrees with an operand agrees with a plain one or with a list. -/
theorem someItemAgrees_iff (items operands : List Value) :
    SomeItemAgrees items operands ↔
      SomeItemAgrees items (plainOperands operands) ∨
        SomeItemAgrees items (listOperands operands) := by
  constructor
  · rintro ⟨item, hitem, operand, hoperand, hagrees⟩
    cases hlist : operand.isList with
    | false => exact .inl ⟨item, hitem, operand, mem_plainOperands.2 ⟨hoperand, hlist⟩, hagrees⟩
    | true => exact .inr ⟨item, hitem, operand, mem_listOperands.2 ⟨hoperand, hlist⟩, hagrees⟩
  · rintro (⟨item, hitem, operand, hoperand, hagrees⟩ | ⟨item, hitem, operand, hoperand, hagrees⟩)
    · exact ⟨item, hitem, operand, (mem_plainOperands.1 hoperand).1, hagrees⟩
    · exact ⟨item, hitem, operand, (mem_listOperands.1 hoperand).1, hagrees⟩

namespace Predicate

variable {value operand : Value} {items operands : List Value}

/-- A value that is no list is compared as a whole with every operand. -/
theorem holdsOf_equals_of_not_isList (h : value.isList = false) :
    (equals operand).holdsOf value = value.agrees operand := by
  cases value with
  | list items => cases h
  | _ => rfl

/-- A list is compared as a whole with a list. -/
theorem holdsOf_equals_list_of_isList (h : operand.isList = true) :
    (equals operand).holdsOf (.list items) = (Value.list items).agrees operand := by
  simp [holdsOf, h]

/-- A list is compared item by item with what is no list. -/
theorem holdsOf_equals_list_of_not_isList (h : operand.isList = false) :
    (equals operand).holdsOf (.list items) = items.any (·.agrees operand) := by
  simp [holdsOf, h]

/-- **A value that is no list is one of some operands if it equals one of them.** -/
theorem holdsOf_oneOf_of_not_isList (h : value.isList = false) :
    (oneOf operands).holdsOf value = operands.any fun operand => (equals operand).holdsOf value := by
  simp only [holdsOf_equals_of_not_isList h]
  cases value with
  | list items => cases h
  | _ => rfl

/-- **A list is one of some operands if an item of it agrees with one of them.** -/
theorem holdsOf_oneOf_list_iff :
    (oneOf operands).holdsOf (.list items) = true ↔ SomeItemAgrees items operands := by
  simp [holdsOf, SomeItemAgrees, List.any_eq_true]

/-- **A list equals one of some operands** if an item of it agrees with a plain one, or the whole
of it with a list. -/
theorem exists_holdsOf_equals_list_iff :
    (∃ operand ∈ operands, (equals operand).holdsOf (.list items) = true) ↔
      SomeItemAgrees items (plainOperands operands) ∨
        WholeAgrees items (listOperands operands) := by
  constructor
  · rintro ⟨operand, hoperand, hholds⟩
    cases hlist : operand.isList with
    | false =>
        rw [holdsOf_equals_list_of_not_isList hlist, List.any_eq_true] at hholds
        obtain ⟨item, hitem, hagrees⟩ := hholds
        exact .inl ⟨item, hitem, operand, mem_plainOperands.2 ⟨hoperand, hlist⟩, hagrees⟩
    | true =>
        rw [holdsOf_equals_list_of_isList hlist] at hholds
        exact .inr ⟨operand, mem_listOperands.2 ⟨hoperand, hlist⟩, hholds⟩
  · rintro (⟨item, hitem, operand, hoperand, hagrees⟩ | ⟨operand, hoperand, hagrees⟩)
    · obtain ⟨hmem, hlist⟩ := mem_plainOperands.1 hoperand
      refine ⟨operand, hmem, ?_⟩
      rw [holdsOf_equals_list_of_not_isList hlist, List.any_eq_true]
      exact ⟨item, hitem, hagrees⟩
    · obtain ⟨hmem, hlist⟩ := mem_listOperands.1 hoperand
      refine ⟨operand, hmem, ?_⟩
      rwa [holdsOf_equals_list_of_isList hlist]

end Predicate

namespace Condition

variable {bindings : Variables} {name : String} {value : Value}

/-- What a condition on a variable with a value comes to. -/
theorem holds_of_get? (h : bindings.get? name = some value) (predicate : Predicate) :
    Condition.holds ⟨name, predicate⟩ bindings = predicate.holdsOf value := by
  simp [holds, h]

/-- **When membership is equality with some operand**: for every store, variable and list of
operands, exactly if a list that is stored there has an item that agrees with a plain operand, or
its items agree with a list among the operands just if the whole does. -/
theorem holds_oneOf_iff_exists_equals_iff (bindings : Variables) (name : String)
    (operands : List Value) :
    (Condition.holds ⟨name, .oneOf operands⟩ bindings = true ↔
      ∃ operand ∈ operands, Condition.holds ⟨name, .equals operand⟩ bindings = true) ↔
    ∀ items, bindings.get? name = some (.list items) →
      SomeItemAgrees items (plainOperands operands) ∨
        (SomeItemAgrees items (listOperands operands) ↔
          WholeAgrees items (listOperands operands)) := by
  cases hvalue : bindings.get? name with
  | none =>
      -- both questions are answered by no
      simp [holds, hvalue]
  | some value =>
      simp only [holds_of_get? hvalue, Option.some.injEq]
      cases hlist : value.isList with
      | false =>
          have hnone : ∀ items, value ≠ .list items := by
            rintro items rfl
            cases hlist
          simp [Predicate.holdsOf_oneOf_of_not_isList hlist, List.any_eq_true, hnone]
      | true =>
          cases value with
          | list items =>
              simp only [Predicate.holdsOf_oneOf_list_iff, Predicate.exists_holdsOf_equals_list_iff,
                Value.list.injEq, forall_eq', someItemAgrees_iff items operands]
              -- an item that agrees with a plain operand settles both questions
              by_cases hplain : SomeItemAgrees items (plainOperands operands) <;> simp [hplain]
          | _ => cases hlist

/-- A list of one text equals that list, but is not one of the lists that consist of it; and a list
that holds this list is one of them, but equals none. -/
theorem list_is_not_among_itself :
    ¬ (Condition.holds ⟨"picked", .oneOf [.list [.text "art"]]⟩
          [("picked", .list [.text "art"])] = true ↔
        ∃ operand ∈ [Value.list [.text "art"]],
          Condition.holds ⟨"picked", .equals operand⟩ [("picked", .list [.text "art"])] = true) ∧
      Condition.holds ⟨"picked", .equals (.list [.text "art"])⟩
        [("picked", .list [.text "art"])] = true ∧
      Condition.holds ⟨"picked", .oneOf [.list [.text "art"]]⟩
        [("picked", .list [.list [.text "art"]])] = true ∧
      Condition.holds ⟨"picked", .equals (.list [.text "art"])⟩
        [("picked", .list [.list [.text "art"]])] = false := by
  have hequals : Condition.holds ⟨"picked", .equals (.list [.text "art"])⟩
      [("picked", .list [.text "art"])] = true := by decide +kernel
  have hamong : Condition.holds ⟨"picked", .oneOf [.list [.text "art"]]⟩
      [("picked", .list [.text "art"])] = false := by decide +kernel
  refine ⟨?_, hequals, by decide +kernel, by decide +kernel⟩
  intro h
  have hholds := h.2 ⟨_, List.mem_singleton_self _, hequals⟩
  rw [hamong] at hholds
  cases hholds

end Condition

end Questionnaire
