/-
**Blocks are read back from their documents.**

A block is written with its id, the name of its kind, the attributes that this kind has, and what
else it has of a prompt, a variable and a next block; what is absent is left out.  The reader looks
for every member under all of its spellings.  What is written under one key is not taken for another,
since the keys of the attributes differ from those that all blocks share.

Main definitions:

* `Questionnaire.Kind.Writable`, `Questionnaire.Block.Writable` — what keeps its meaning when it is
  written;
* `Questionnaire.Kind.forgetName`, `Questionnaire.Block.forgetName` — a kind that is not known goes
  by one name only;
* `Questionnaire.Block.members` — the members of a block's document.

Main results:

* `Questionnaire.Block.nodup_keys_members`, `Questionnaire.Block.get?_members` — no key is written
  twice, and the keys that blocks do not share are those of the attributes;
* `Questionnaire.Document.readKind_attributes` — the attributes of a kind are read back;
* `Questionnaire.Document.readBlock_toJson` — **a block is read back**, a kind that is not known
  apart from its name.
-/

import Questionnaire.Document.Block
import Questionnaire.Graph.Json
import Questionnaire.Proofs.Document.Transition

set_option autoImplicit false

namespace Questionnaire

/-! ### What can be written -/

/-- The id of an option can be seen, and its value keeps its meaning. -/
structure Choice.Writable (choice : Choice) : Prop where
  id : isBlankText choice.id = false
  finite : choice.value.Finite
  ordered : choice.value.Ordered

/-- The parts of a kind have ids that can be seen, its numbers are finite, and its counts are of
64 bits. -/
def Kind.Writable : Kind → Prop
  | .textInput limit => ∀ n ∈ limit, n ≤ 18446744073709551615
  | .numberInput min max => (∀ x ∈ min, x.isFinite = true) ∧ ∀ x ∈ max, x.isFinite = true
  | .singleChoice choices => ∀ choice ∈ choices, choice.Writable
  | .multiChoice choices limit =>
    (∀ choice ∈ choices, choice.Writable) ∧ ∀ n ∈ limit, n ≤ 18446744073709551615
  | .scale choices => ∀ choice ∈ choices, choice.Writable
  | .contactForm fields => ∀ field ∈ fields, isBlankText field.id = false
  | .demographics fields => ∀ field ∈ fields, isBlankText field.id = false
  | _ => True

/-- **A block that keeps its meaning when it is written**: its id can be seen, its variable has no
blanks around it, and its kind and its transition keep their meaning. -/
structure Block.Writable (block : Block) : Prop where
  id : isBlankText block.id = false
  kind : block.kind.Writable
  variableName : ∀ name ∈ block.variableName, trim name = name ∧ name ≠ ""
  next : ∀ transition ∈ block.next, transition.Writable

/-- A kind, where one that is not known goes by the name that documents have for it. -/
def Kind.forgetName : Kind → Kind
  | .unrecognized _ => .unrecognized "unrecognized"
  | kind => kind

theorem Kind.forgetName_of_known {kind : Kind} (h : kind.kindName? ≠ none) :
    kind.forgetName = kind := by
  cases kind with
  | unrecognized name => exact absurd rfl h
  | _ => rfl

/-- A block, where a kind that is not known goes by the name that documents have for it. -/
def Block.forgetName (block : Block) : Block := { block with kind := block.kind.forgetName }

theorem Block.forgetName_of_known {block : Block} (h : block.kind.kindName? ≠ none) :
    block.forgetName = block := by
  rw [Block.forgetName, Kind.forgetName_of_known h]

/-! ### The members of a block -/

theorem get?_optionalMember (k : String) (content : Option Json) (key : String) :
    Keyed.get? (optionalMember k content) key = if k = key then content else none := by
  cases content with
  | none => simp [optionalMember]
  | some content => simp [optionalMember, Keyed.get?_cons]

theorem keys_optionalMember_sublist (key : String) (content : Option Json) :
    ((optionalMember key content).map Prod.fst).Sublist [key] := by
  cases content with
  | none => exact List.nil_sublist _
  | some content => exact List.Sublist.refl _

/-- The keys of all attributes. -/
def Kind.attributeKeys : List String :=
  ["maxLength", "min", "max", "options", "maxSelections", "url", "fields", "name"]

theorem Kind.keys_attributes_sublist (kind : Kind) :
    (kind.attributes.map Prod.fst).Sublist Kind.attributeKeys := by
  cases kind with
  | textInput limit => exact (keys_optionalMember_sublist _ _).trans (by decide)
  | numberInput min max =>
      rw [attributes, List.map_append]
      exact ((keys_optionalMember_sublist _ _).append (keys_optionalMember_sublist _ _)).trans
        (by decide)
  | multiChoice choices limit =>
      exact ((keys_optionalMember_sublist _ _).cons_cons "options").trans (by decide)
  | video url => exact (keys_optionalMember_sublist _ _).trans (by decide)
  | message => exact List.nil_sublist _
  | yesNo => exact List.nil_sublist _
  | final => exact List.nil_sublist _
  | singleChoice choices => exact List.singleton_sublist.2 (by simp [attributeKeys])
  | scale choices => exact List.singleton_sublist.2 (by simp [attributeKeys])
  | contactForm fields => exact List.singleton_sublist.2 (by simp [attributeKeys])
  | demographics fields => exact List.singleton_sublist.2 (by simp [attributeKeys])
  | unrecognized name => exact List.singleton_sublist.2 (by simp [attributeKeys])

/-- Nothing else is found among attributes. -/
theorem Kind.get?_attributes_eq_none {kind : Kind} {key : String} (h : key ∉ attributeKeys) :
    Keyed.get? kind.attributes key = none :=
  Keyed.get?_eq_none_of_notMem fun hmem => h (kind.keys_attributes_sublist.subset hmem)

theorem Kind.get?_options {kind : Kind} {choices : List Choice}
    (h : kind.choices? = some choices) :
    Keyed.get? kind.attributes "options" = some (.array (choices.map choiceToJson)) := by
  cases kind <;> cases h <;> simp [attributes, Keyed.get?_cons]

theorem Kind.get?_fields {kind : Kind} {fields : List FormField}
    (h : kind.fields? = some fields) :
    Keyed.get? kind.attributes "fields" = some (.array (fields.map fieldToJson)) := by
  cases kind <;> cases h <;> simp [attributes, Keyed.get?_cons]

namespace Block

variable {block : Block} {key : String}

/-- The members of a block's document. -/
def members (block : Block) : List (String × Json) :=
  [("id", .string block.id), ("kind", .string block.kind.documentName)] ++
    block.kind.attributes ++
    optionalMember "prompt" (block.prompt.map Json.string) ++
    optionalMember "variable" (block.variableName.map Json.string) ++
    optionalMember "next" (block.next.map Transition.toJson)

theorem toJson_eq (block : Block) : block.toJson = .object block.members := rfl

/-- The keys that all blocks share. -/
def sharedKeys : List String := ["id", "kind", "prompt", "variable", "next"]

/-- **No key is written twice.** -/
theorem nodup_keys_members (block : Block) : (block.members.map Prod.fst).Nodup := by
  have hsublist : (block.members.map Prod.fst).Sublist
      (["id", "kind"] ++ Kind.attributeKeys ++ ["prompt"] ++ ["variable"] ++ ["next"]) := by
    simp only [members, List.map_append]
    exact ((((List.Sublist.refl _).append block.kind.keys_attributes_sublist).append
      (keys_optionalMember_sublist _ _)).append (keys_optionalMember_sublist _ _)).append
      (keys_optionalMember_sublist _ _)
  exact hsublist.nodup (by decide)

/-- **Under a key that blocks do not share stands an attribute of the kind.** -/
theorem get?_members (h : key ∉ sharedKeys) :
    Keyed.get? block.members key = Keyed.get? block.kind.attributes key := by
  simp only [sharedKeys, List.mem_cons, List.not_mem_nil, or_false, not_or] at h
  obtain ⟨hid, hkind, hprompt, hvariable, hnext⟩ := h
  simp [members, Keyed.get?_append, Keyed.get?_cons, get?_optionalMember, Ne.symm hid,
    Ne.symm hkind, Ne.symm hprompt, Ne.symm hvariable, Ne.symm hnext]

theorem get?_members_id : Keyed.get? block.members "id" = some (.string block.id) := rfl

theorem get?_members_kind :
    Keyed.get? block.members "kind" = some (.string block.kind.documentName) := rfl

theorem get?_members_prompt :
    Keyed.get? block.members "prompt" = block.prompt.map Json.string := by
  have hattribute : Keyed.get? block.kind.attributes "prompt" = none :=
    Kind.get?_attributes_eq_none (by decide)
  simp [members, Keyed.get?_append, Keyed.get?_cons, get?_optionalMember, hattribute]

theorem get?_members_variable :
    Keyed.get? block.members "variable" = block.variableName.map Json.string := by
  have hattribute : Keyed.get? block.kind.attributes "variable" = none :=
    Kind.get?_attributes_eq_none (by decide)
  simp [members, Keyed.get?_append, Keyed.get?_cons, get?_optionalMember, hattribute]

theorem get?_members_next :
    Keyed.get? block.members "next" = block.next.map Transition.toJson := by
  have hattribute : Keyed.get? block.kind.attributes "next" = none :=
    Kind.get?_attributes_eq_none (by decide)
  simp [members, Keyed.get?_append, Keyed.get?_cons, get?_optionalMember, hattribute]

end Block

namespace Document

/-! ### Attributes -/

section Attributes

variable {members : List (String × Json)} {key : String}

theorem readNumber_eq {bound : Option Number}
    (hget : Keyed.get? members key = (bound.map Json.ofNumber).map Json.arranged)
    (hfinite : ∀ x ∈ bound, x.isFinite = true) : readNumber members key = ⟨bound, []⟩ := by
  cases bound with
  | none => simp [readNumber, hget]
  | some x =>
      rw [Option.map_some, Json.ofNumber_eq (hfinite x rfl)] at hget
      simp [readNumber, hget, JsonNumber.toNumber]

theorem readCount_eq {otherKey : String} {limit : Option Nat}
    (hget : Keyed.get? members key = (limit.map Json.ofNat).map Json.arranged)
    (hother : Keyed.get? members otherKey = none)
    (hfits : ∀ n ∈ limit, n ≤ 18446744073709551615) :
    readCount members key otherKey = ⟨limit, []⟩ := by
  cases limit with
  | none => simp [readCount, hget, hother]
  | some n =>
      rw [Option.map_some, Json.ofNat_eq (hfits n rfl)] at hget
      simp [readCount, hget, hother, Json.number?, JsonNumber.toNat?]

/-- An option is read back, wherever it stands. -/
theorem readChoice_toJson (position : Nat) {choice : Choice} (h : choice.Writable) :
    readChoice position (Kind.choiceToJson choice).arranged = .ok choice := by
  have hget := Json.get?_arranged
    [("id", .string choice.id), ("label", .string choice.label), ("value", choice.value.toJson)]
    (by simp)
  simp [Kind.choiceToJson, readChoice, id?, idOf?, text?, hget, Keyed.get?_cons, Json.string?,
    h.id, Value.arranged_toJson _ h.ordered, Value.ofJson_toJson _ h.finite]

/-- A field is read back, wherever it stands. -/
theorem readField_toJson (position : Nat) {field : FormField}
    (h : isBlankText field.id = false) :
    readField position (Kind.fieldToJson field).arranged = .ok field := by
  have hget := Json.get?_arranged
    [("id", .string field.id), ("label", .string field.label), ("required", .bool field.required)]
    (by simp)
  simp [Kind.fieldToJson, readField, id?, idOf?, text?, hget, Keyed.get?_cons, Json.string?,
    Json.bool?, h]

/-- Parts are read back, if each of them is wherever it stands. -/
theorem readParts_map {α : Type} {read : Nat → Json → Except Problem α} {write : α → Json}
    {parts : List α} (h : ∀ part ∈ parts, ∀ position, read position (write part) = .ok part) :
    readParts read (parts.map write) = ⟨parts, []⟩ := by
  have hread : ∀ position, ((parts.map write).zipIdx position).map
      (fun entry => read entry.2 entry.1) = parts.map Except.ok := by
    induction parts with
    | nil => exact fun _ => rfl
    | cons part parts ih =>
        intro position
        obtain ⟨hpart, hparts⟩ := List.forall_mem_cons.1 h
        rw [List.map_cons, List.zipIdx_cons, List.map_cons, ih hparts, hpart, List.map_cons]
  calc readParts read (parts.map write)
      = Checked.ofList (((parts.map write).zipIdx).map fun entry => read entry.2 entry.1) := rfl
    _ = Checked.ofList (parts.map Except.ok) := by rw [hread 0]
    _ = ⟨parts, []⟩ := by simp [Checked.ofList, Except.toOption]

theorem readChoices_eq {choices : List Choice}
    (hget : Keyed.get? members "options" =
      some (Json.array (choices.map Kind.choiceToJson)).arranged)
    (h : ∀ choice ∈ choices, choice.Writable) : readChoices members = ⟨choices, []⟩ := by
  rw [Json.arranged_array, List.map_map] at hget
  simp only [readChoices, hget]
  exact readParts_map fun choice hmem position => readChoice_toJson position (h choice hmem)

theorem readFields_eq {fields : List FormField}
    (hget : Keyed.get? members "fields" =
      some (Json.array (fields.map Kind.fieldToJson)).arranged)
    (h : ∀ field ∈ fields, isBlankText field.id = false) : readFields members = ⟨fields, []⟩ := by
  rw [Json.arranged_array, List.map_map] at hget
  simp only [readFields, hget]
  exact readParts_map fun field hmem position => readField_toJson position (h field hmem)

/-- Members with the attributes of a kind have nothing under the keys that are never written. -/
theorem get?_eq_none_of_attributes {kind : Kind}
    (hget : ∀ key, key ∉ Block.sharedKeys →
      Keyed.get? members key = (Keyed.get? kind.attributes key).map Json.arranged)
    (hshared : key ∉ Block.sharedKeys) (hattribute : key ∉ Kind.attributeKeys) :
    Keyed.get? members key = none := by
  rw [hget key hshared, Kind.get?_attributes_eq_none hattribute, Option.map_none]

/-- **The attributes of a kind are read back** from members that have them. -/
theorem readKind_attributes {kind : Kind} {name : KindName} (h : kind.Writable)
    (hname : kind.kindName? = some name)
    (hget : ∀ key, key ∉ Block.sharedKeys →
      Keyed.get? members key = (Keyed.get? kind.attributes key).map Json.arranged) :
    readKind members name = ⟨kind, []⟩ := by
  have hoptions : ∀ choices, kind.choices? = some choices →
      (∀ choice ∈ choices, choice.Writable) → readChoices members = ⟨choices, []⟩ := by
    intro choices hchoices hwritable
    have hfound := hget "options" (by decide)
    rw [Kind.get?_options hchoices, Option.map_some] at hfound
    exact readChoices_eq hfound hwritable
  have hfields : ∀ fields, kind.fields? = some fields →
      (∀ field ∈ fields, isBlankText field.id = false) → readFields members = ⟨fields, []⟩ := by
    intro fields hfields hvisible
    have hfound := hget "fields" (by decide)
    rw [Kind.get?_fields hfields, Option.map_some] at hfound
    exact readFields_eq hfound hvisible
  cases kind with
  | message => cases hname; rfl
  | yesNo => cases hname; rfl
  | final => cases hname; rfl
  | unrecognized name => cases hname
  | textInput limit =>
      cases hname
      have hlimit := hget "maxLength" (by decide)
      rw [Kind.attributes, get?_optionalMember, if_pos rfl] at hlimit
      have hother : Keyed.get? members "max_length" = none :=
        get?_eq_none_of_attributes hget (by decide) (by decide)
      rw [readKind, readCount_eq hlimit hother h]
      rfl
  | numberInput min max =>
      cases hname
      have hmin := hget "min" (by decide)
      have hmax := hget "max" (by decide)
      simp only [Kind.attributes, Keyed.get?_append, get?_optionalMember, String.reduceEq, if_true,
        if_false, Option.or_none, Option.none_or] at hmin hmax
      rw [readKind, readNumber_eq hmin h.1, readNumber_eq hmax h.2]
      rfl
  | singleChoice choices =>
      cases hname
      rw [readKind, hoptions choices rfl h]
      rfl
  | multiChoice choices limit =>
      cases hname
      have hlimit := hget "maxSelections" (by decide)
      simp only [Kind.attributes, Keyed.get?_cons, get?_optionalMember, String.reduceEq, if_true,
        if_false] at hlimit
      have hother : Keyed.get? members "max_selections" = none :=
        get?_eq_none_of_attributes hget (by decide) (by decide)
      rw [readKind, hoptions choices rfl h.1, readCount_eq hlimit hother h.2]
      rfl
  | scale choices =>
      cases hname
      rw [readKind, hoptions choices rfl h]
      rfl
  | video url =>
      cases hname
      have hurl := hget "url" (by decide)
      rw [Kind.attributes, get?_optionalMember, if_pos rfl] at hurl
      have hother : Keyed.get? members "videoUrl" = none :=
        get?_eq_none_of_attributes hget (by decide) (by decide)
      rw [readKind, hurl, hother]
      cases url <;> rfl
  | contactForm fields =>
      cases hname
      rw [readKind, hfields fields rfl h]
      rfl
  | demographics fields =>
      cases hname
      rw [readKind, hfields fields rfl h]
      rfl

end Attributes

/-! ### Blocks -/

/-- No spelling of the standard vocabulary is given twice. -/
theorem nodup_standard :
    ((KindName.all.map (fun kind => (kind.text, kind)) ++ Vocabulary.commonSpellings).map
      Prod.fst).Nodup := by
  decide +kernel

/-- The name of every kind stands for it. -/
theorem kind?_text (name : KindName) : Vocabulary.standard.kind? name.text = some name := by
  rw [Vocabulary.kind?, Vocabulary.standard, Keyed.get?_ofList nodup_standard]
  cases name <;> decide +kernel

/-- The name that documents have for a kind that is not known stands for none. -/
theorem kind?_unrecognized : Vocabulary.standard.kind? "unrecognized" = none := by
  rw [Vocabulary.kind?, Vocabulary.standard, Keyed.get?_ofList nodup_standard,
    Keyed.get?_ofList nodup_standard]
  decide +kernel

variable {block : Block} {members : List (String × Json)}

/-- A kind is read back by its name, one that is not known apart from its own name. -/
theorem readNamedKind_documentName (h : block.kind.Writable)
    (hget : ∀ key, key ∉ Block.sharedKeys →
      Keyed.get? members key = (Keyed.get? block.kind.attributes key).map Json.arranged) :
    readNamedKind .standard members (some block.kind.documentName) =
      ⟨some block.kind.forgetName, []⟩ := by
  cases hname : block.kind.kindName? with
  | none =>
      cases hkind : block.kind with
      | unrecognized name =>
          simp [readNamedKind, Kind.documentName, Kind.kindName?, kind?_unrecognized,
            Kind.forgetName]
      | _ => simp [hkind, Kind.kindName?] at hname
  | some name =>
      have hread : readKind members name = ⟨block.kind, []⟩ :=
        readKind_attributes h hname hget
      have hknown : block.kind.kindName? ≠ none := by simp [hname]
      simp [readNamedKind, Kind.documentName, hname, kind?_text, hread, Checked.map,
        Kind.forgetName_of_known hknown]

/-- The transition of a block is read back. -/
theorem readNext_members (blockVariable : Option String)
    (h : ∀ transition ∈ block.next, transition.Writable)
    (hget : Keyed.get? members "next" = (block.next.map Transition.toJson).map Json.arranged) :
    readNext members blockVariable = ⟨block.next, []⟩ := by
  cases hnext : block.next with
  | none => simp [readNext, hget, hnext]
  | some transition =>
      have hread := readTransition_toJson blockVariable (h transition hnext)
      rw [hnext, Option.map_some, Option.map_some] at hget
      -- a transition is never written as null, which would be taken for none at all
      cases transition with
      | direct target =>
          rw [Transition.toJson, Json.arranged_string] at hget hread
          simp only [readNext, hget, hread]
      | conditional rules otherwise =>
          rw [Transition.toJson, Json.arranged_object] at hget hread
          simp only [readNext, hget, hread]

/-- The variable of a block is read back, if there are no blanks around it. -/
theorem blockVariable?_eq {variableName : Option String}
    (h : ∀ name ∈ variableName, trim name = name ∧ name ≠ "")
    (hget : Keyed.get? members "variable" = (variableName.map Json.string).map Json.arranged) :
    blockVariable? members = variableName := by
  cases variableName with
  | none => simp [blockVariable?, text?, hget]
  | some name =>
      obtain ⟨htrim, hne⟩ := h name rfl
      simp [blockVariable?, text?, hget, Json.string?, htrim, hne]

/-- **A block is read back from its document**, a kind that is not known apart from its name. -/
theorem readBlock_toJson (h : block.Writable) :
    readBlock .standard block.toJson.arranged = ⟨some block.id, .ok block.forgetName⟩ := by
  have hget := Json.get?_arranged _ block.nodup_keys_members
  have hattributes : ∀ key, key ∉ Block.sharedKeys →
      (Keyed.ofList (Json.arrangedMembers block.members)).get? key =
        (Keyed.get? block.kind.attributes key).map Json.arranged := by
    intro key hkey
    rw [hget, Block.get?_members hkey]
  have hid : id? (Keyed.ofList (Json.arrangedMembers block.members)) = some block.id := by
    simp [id?, hget, Block.get?_members_id, idOf?, h.id]
  have hname : kindName? (Keyed.ofList (Json.arrangedMembers block.members)) =
      some block.kind.documentName := by
    simp [kindName?, hget, Block.get?_members_kind, Json.string?]
  have hvariable : blockVariable? (Keyed.ofList (Json.arrangedMembers block.members)) =
      block.variableName :=
    blockVariable?_eq h.variableName (by rw [hget, Block.get?_members_variable])
  have hprompt : prompt? (Keyed.ofList (Json.arrangedMembers block.members)) = block.prompt := by
    -- nothing stands under the other spellings of the prompt
    cases hprompt : block.prompt <;>
      simp [prompt?, text?, hget "prompt", Block.get?_members_prompt, hprompt, Json.string?,
        get?_eq_none_of_attributes hattributes, Block.sharedKeys, Kind.attributeKeys]
  have hnext := readNext_members block.variableName h.next
    (by rw [hget, Block.get?_members_next])
  have hkind := readNamedKind_documentName h.kind hattributes
  rw [Block.toJson_eq, Json.arranged_object]
  simp [readBlock, hid, hname, hvariable, hprompt, hnext, hkind, Block.forgetName]

end Document

end Questionnaire
