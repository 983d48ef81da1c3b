/-
**Spellings are looked up by their folded forms.**

A vocabulary looks a spelling up as it stands, and only if this finds nothing, in its folded form.
That the two never disagree rests on an invariant: all spellings of a vocabulary are folded
themselves.  Adding a spelling keeps it so since folding twice is folding once, and this in turn
since folding leaves no character that it would change, and no blank at either end.

Main definitions:

* `Questionnaire.Trimmed` — texts without blanks at their two ends;
* `Questionnaire.Document.Kept` — the characters that folding keeps;
* `Questionnaire.Document.FoldsTo` — **what folding makes of a character**;
* `Questionnaire.Document.Vocabulary.Folded` — **the invariant of a vocabulary**.

Main results:

* `Questionnaire.trimChars_eq_self_iff` — trimming keeps what has no blanks at its ends;
* `Questionnaire.Document.fold_fold` — **folding twice is folding once**;
* `Questionnaire.Document.Vocabulary.Folded.kind?_eq` — a spelling is looked up by its folded form;
* `Questionnaire.Document.Vocabulary.Folded.kind?_withSpellings` — of several spellings with one
  folded form, the one that was added last counts;
* `Questionnaire.Document.Vocabulary.lookup_goes_by_fold` — **what a spelling stands for depends on
  its folded form only**, and adding a spelling changes the spellings with its folded form only.
-/

import Questionnaire.Document.Vocabulary
import Questionnaire.Proofs.Value.Ordered

set_option autoImplicit false

namespace Questionnaire

/-! ### Texts without blanks at their ends -/

/-- **Texts without blanks at their two ends.** -/
structure Trimmed (cs : List Char) : Prop where
  first : ∀ c ∈ cs.head?, isBlank c = false
  last : ∀ c ∈ cs.getLast?, isBlank c = false

theorem dropWhile_isBlank_eq_self_iff {cs : List Char} :
    cs.dropWhile isBlank = cs ↔ ∀ c ∈ cs.head?, isBlank c = false := by
  constructor
  · intro h c hc
    have hhead := List.head?_dropWhile_not isBlank cs
    rw [h, Option.mem_def.1 hc] at hhead
    exact hhead
  · intro h
    cases cs with
    | nil => rfl
    | cons c cs => exact List.dropWhile_cons_of_neg (by simp [h c rfl])

/-- **Trimming keeps exactly the texts without blanks at their ends.** -/
theorem trimChars_eq_self_iff {cs : List Char} : trimChars cs = cs ↔ Trimmed cs := by
  constructor
  · intro h
    -- what is left has as many characters as there were, so nothing is dropped at the front
    have hlength : ((cs.dropWhile isBlank).reverse.dropWhile isBlank).length = cs.length := by
      rw [← List.length_reverse, ← trimChars, h]
    have hsuffix := List.dropWhile_suffix (l := cs) isBlank
    have hinner := (List.dropWhile_suffix (l := (cs.dropWhile isBlank).reverse) isBlank).length_le
    rw [hlength, List.length_reverse] at hinner
    have hfront := hsuffix.eq_of_length (Nat.le_antisymm hsuffix.length_le hinner)
    rw [trimChars, hfront, List.reverse_eq_iff] at h
    refine ⟨dropWhile_isBlank_eq_self_iff.1 hfront, ?_⟩
    rw [← List.head?_reverse]
    exact dropWhile_isBlank_eq_self_iff.1 h
  · intro h
    have hback : cs.reverse.dropWhile isBlank = cs.reverse := by
      rw [dropWhile_isBlank_eq_self_iff, List.head?_reverse]
      exact h.last
    rw [trimChars, dropWhile_isBlank_eq_self_iff.2 h.first, hback, List.reverse_reverse]

theorem trimmed_trimChars (cs : List Char) : Trimmed (trimChars cs) :=
  trimChars_eq_self_iff.1 (trimChars_trimChars cs)

namespace Document

/-! ### Characters -/

/-- **The characters that folding keeps**: all but low lines, blanks and capital letters. -/
structure Kept (c : Char) : Prop where
  ne_lowLine : c ≠ '_'
  ne_space : c ≠ ' '
  isCapital_eq_false : isCapital c = false

theorem kept_hyphen : Kept '-' := ⟨by decide, by decide, by decide⟩

theorem isCapital_iff {c : Char} : isCapital c = true ↔ 65 ≤ c.toNat ∧ c.toNat ≤ 90 := by
  simp only [isCapital, Bool.and_eq_true, decide_eq_true_eq]
  exact Iff.rfl

/-- A capital letter is lowered by thirty-two places. -/
theorem toNat_toLower {c : Char} (h : isCapital c = true) : c.toLower.toNat = c.toNat + 32 := by
  obtain ⟨hge, hle⟩ := isCapital_iff.1 h
  have hval : c.toLower.val = c.val + 32 := congrArg Char.val (dif_pos (And.intro hge hle))
  have hadd : c.toLower.toNat = (c.toNat + 32) % UInt32.size :=
    (congrArg UInt32.toNat hval).trans (UInt32.toNat_add _ _)
  rw [hadd, Nat.mod_eq_of_lt]
  exact lt_of_le_of_lt (Nat.add_le_add_right hle 32) (by decide)

/-- Folding keeps a lowered letter. -/
theorem kept_toLower {c : Char} (h : isCapital c = true) : Kept c.toLower := by
  obtain ⟨hge, hle⟩ := isCapital_iff.1 h
  have hlower := toNat_toLower h
  refine ⟨?_, ?_, Bool.eq_false_iff.2 fun hcapital => ?_⟩
  · rintro heq
    rw [heq] at hlower
    exact absurd hlower (by rw [show '_'.toNat = 95 from rfl]; omega)
  · rintro heq
    rw [heq] at hlower
    exact absurd hlower (by rw [show ' '.toNat = 32 from rfl]; omega)
  · have hrange := isCapital_iff.1 hcapital
    omega

/-- A lowered letter can be seen. -/
theorem isBlank_toLower {c : Char} (h : isCapital c = true) : isBlank c.toLower = false := by
  obtain ⟨hge, hle⟩ := isCapital_iff.1 h
  simp only [isBlank, toNat_toLower h, Bool.or_eq_false_iff, Bool.and_eq_false_iff,
    decide_eq_false_iff_not, beq_eq_false_iff_ne]
  omega

/-! ### Folding -/

/-- **What folding makes of a character** behind a folded `previous` one, if there is any: some
letter, with a hyphen before it if the character starts a word behind another one. -/
inductive FoldsTo (previous : Option Char) (c : Char) : List Char → Char → Prop where
  | joined (hjoins : c = '_' ∨ c = ' ') : FoldsTo previous c [] '-'
  | lowered (hcapital : isCapital c = true) : FoldsTo previous c [] c.toLower
  | started (hcapital : isCapital c = true) (hbehind : previous ≠ none) :
      FoldsTo previous c ['-'] c.toLower
  | kept (hkept : Kept c) : FoldsTo previous c [] c

section Folding

variable {previous : Option Char} {c letter : Char} {cs front : List Char}

/-- **Folding goes character by character.** -/
theorem foldFrom_cons (previous : Option Char) (c : Char) (cs : List Char) :
    ∃ front letter, FoldsTo previous c front letter ∧
      foldFrom previous (c :: cs) = front ++ letter :: foldFrom (some letter) cs := by
  rw [foldFrom]
  by_cases hjoins : c = '_' ∨ c = ' '
  · exact ⟨[], '-', .joined hjoins, if_pos hjoins⟩
  · rw [if_neg hjoins]
    cases hcapital : isCapital c with
    | false =>
        obtain ⟨hlowLine, hspace⟩ := not_or.1 hjoins
        exact ⟨[], c, .kept ⟨hlowLine, hspace, hcapital⟩, rfl⟩
    | true =>
        by_cases hfirst : previous = none ∨ previous = some '-'
        · exact ⟨[], c.toLower, .lowered hcapital, if_pos hfirst⟩
        · exact ⟨['-'], c.toLower, .started hcapital (not_or.1 hfirst).1, if_neg hfirst⟩

theorem FoldsTo.kept_of_mem (h : FoldsTo previous c front letter) {d : Char}
    (hmem : d ∈ front ++ [letter]) : Kept d := by
  cases h with
  | joined =>
      rw [List.mem_singleton.1 hmem]
      exact kept_hyphen
  | lowered hcapital =>
      rw [List.mem_singleton.1 hmem]
      exact kept_toLower hcapital
  | started hcapital =>
      rcases List.mem_cons.1 hmem with rfl | hmem
      · exact kept_hyphen
      · rw [List.mem_singleton.1 hmem]
        exact kept_toLower hcapital
  | kept hkept =>
      rw [List.mem_singleton.1 hmem]
      exact hkept

/-- No character becomes a blank. -/
theorem FoldsTo.isBlank_eq_false (h : FoldsTo previous c front letter) (hc : isBlank c = false) :
    isBlank letter = false := by
  cases h with
  | joined => decide
  | lowered hcapital => exact isBlank_toLower hcapital
  | started hcapital => exact isBlank_toLower hcapital
  | kept => exact hc

/-- **Folding leaves only characters that it keeps.** -/
theorem kept_of_mem_foldFrom (h : c ∈ foldFrom previous cs) : Kept c := by
  induction cs generalizing previous with
  | nil => cases h
  | cons first rest ih =>
      obtain ⟨front, letter, hfolds, heq⟩ := foldFrom_cons previous first rest
      rw [heq, List.append_cons] at h
      exact (List.mem_append.1 h).elim hfolds.kept_of_mem ih

/-- **Folding keeps a text of such characters.** -/
theorem foldFrom_of_kept (h : ∀ c ∈ cs, Kept c) : foldFrom previous cs = cs := by
  induction cs generalizing previous with
  | nil => rfl
  | cons first rest ih =>
      obtain ⟨hfirst, hrest⟩ := List.forall_mem_cons.1 h
      rw [foldFrom, if_neg (not_or.2 ⟨hfirst.ne_lowLine, hfirst.ne_space⟩),
        hfirst.isCapital_eq_false, if_neg Bool.false_ne_true, ih hrest]

/-- Folding puts no blank at the front. -/
theorem isBlank_head_foldFrom (h : ∀ c ∈ cs.head?, isBlank c = false) :
    ∀ c ∈ (foldFrom none cs).head?, isBlank c = false := by
  cases cs with
  | nil => exact h
  | cons first rest =>
      intro c hc
      obtain ⟨front, letter, hfolds, heq⟩ := foldFrom_cons none first rest
      have hletter := hfolds.isBlank_eq_false (h first rfl)
      rw [heq] at hc
      cases hfolds with
      | started _ hbehind => exact absurd rfl hbehind
      | _ =>
          cases hc
          exact hletter

theorem foldFrom_ne_nil (previous : Option Char) (c : Char) (cs : List Char) :
    foldFrom previous (c :: cs) ≠ [] := by
  obtain ⟨front, letter, -, heq⟩ := foldFrom_cons previous c cs
  rw [heq]
  exact List.append_ne_nil_of_right_ne_nil _ (List.cons_ne_nil _ _)

/-- Nor does it put one at the end. -/
theorem isBlank_getLast_foldFrom (h : ∀ c ∈ cs.getLast?, isBlank c = false) :
    ∀ c ∈ (foldFrom previous cs).getLast?, isBlank c = false := by
  induction cs generalizing previous with
  | nil => exact h
  | cons first rest ih =>
      obtain ⟨front, letter, hfolds, heq⟩ := foldFrom_cons previous first rest
      rw [heq, List.getLast?_append_cons]
      cases rest with
      | nil =>
          -- the last character comes from the only one there was
          intro c hc
          cases hc
          exact hfolds.isBlank_eq_false (h first rfl)
      | cons second rest =>
          rw [List.getLast?_cons_cons] at h
          rw [List.getLast?_cons_of_ne_nil (foldFrom_ne_nil _ _ _)]
          exact ih h

end Folding

/-- **Folding twice is folding once.** -/
@[simp] theorem fold_fold (s : String) : fold (fold s) = fold s := by
  have htrimmed := trimmed_trimChars s.toList
  have hfolded : Trimmed (foldFrom none (trimChars s.toList)) :=
    ⟨isBlank_head_foldFrom htrimmed.first, isBlank_getLast_foldFrom htrimmed.last⟩
  rw [fold, fold, String.toList_ofList, trimChars_eq_self_iff.2 hfolded,
    foldFrom_of_kept fun c hc => kept_of_mem_foldFrom hc]

/-! ### Looking spellings up -/

namespace Vocabulary

variable {vocabulary : Vocabulary}

/-- **A vocabulary whose spellings are all folded.** -/
def Folded (vocabulary : Vocabulary) : Prop :=
  ∀ key ∈ vocabulary.spellings.keys, fold key = key

theorem folded_standard : standard.Folded := by
  unfold Folded
  decide +kernel

/-- A name that is not known adds nothing. -/
theorem withSpelling_of_unknown {name : String} (h : KindName.ofText? name = none)
    (vocabulary : Vocabulary) (spelling : String) :
    vocabulary.withSpelling spelling name = vocabulary := by
  simp only [withSpelling, h]

namespace Folded

/-- **Adding a spelling keeps all of them folded.** -/
theorem withSpelling (h : vocabulary.Folded) (spelling name : String) :
    (vocabulary.withSpelling spelling name).Folded := by
  unfold Vocabulary.withSpelling
  split
  · intro key hkey
    obtain ⟨entry, hentry, rfl⟩ := List.mem_map.1 hkey
    rcases Keyed.eq_or_mem_of_mem_insert hentry with rfl | hentry
    · exact fold_fold spelling
    · exact h _ (List.mem_map_of_mem hentry)
  · exact h

/-- **So does adding several.** -/
theorem withSpellings (h : vocabulary.Folded) (entries : List (String × String)) :
    (vocabulary.withSpellings entries).Folded := by
  induction entries generalizing vocabulary with
  | nil => exact h
  | cons entry entries ih => exact ih (h.withSpelling entry.1 entry.2)

/-- **A spelling is looked up by its folded form**: if it is found as it stands, it is folded. -/
theorem kind?_eq (h : vocabulary.Folded) (s : String) :
    vocabulary.kind? s = vocabulary.spellings.get? (fold s) := by
  unfold kind?
  cases hget : vocabulary.spellings.get? s with
  | none => rfl
  | some kind =>
      have hkey : s ∈ vocabulary.spellings.keys := List.mem_map_of_mem (Keyed.mem_of_get? hget)
      rw [h s hkey, hget, Option.some_or]

/-- **What a spelling stands for once another one was added**: what this stands for, if both have
one folded form and the name is known, and else what it stood for before. -/
theorem kind?_withSpelling (h : vocabulary.Folded) (spelling name s : String) :
    (vocabulary.withSpelling spelling name).kind? s =
      (if fold s = fold spelling then KindName.ofText? name else none).or (vocabulary.kind? s) := by
  rw [(h.withSpelling spelling name).kind?_eq, h.kind?_eq]
  cases hname : KindName.ofText? name with
  | none =>
      rw [withSpelling_of_unknown hname, ite_self, Option.none_or]
  | some kind =>
      simp only [Vocabulary.withSpelling, hname, Keyed.get?_insert, eq_comm (a := fold spelling)]
      split <;> rfl

/-- **Of several spellings with one folded form, the one that was added last counts**, among those
that were added for a known name. -/
theorem kind?_withSpellings (h : vocabulary.Folded) (entries : List (String × String))
    (s : String) : (vocabulary.withSpellings entries).kind? s =
      (entries.reverse.findSome? fun entry =>
        if fold s = fold entry.1 then KindName.ofText? entry.2 else none).or
        (vocabulary.kind? s) := by
  induction entries generalizing vocabulary with
  | nil => rfl
  | cons entry entries ih =>
      have hrest := ih (h.withSpelling entry.1 entry.2)
      rw [h.kind?_withSpelling] at hrest
      rw [List.reverse_cons, List.findSome?_append, Option.or_assoc, List.findSome?_singleton]
      exact hrest

end Folded

/-- **What a spelling stands for depends on its folded form only.**  Folding twice is folding once.
In every vocabulary to which any spellings were added, all spellings are folded, and two spellings
with one folded form stand for the same kind or both for none.  Adding one more spelling for the
name of a kind makes exactly the spellings with its folded form stand for this kind, and leaves all
others as they were; for a name that is not known it changes nothing. -/
theorem lookup_goes_by_fold (entries : List (String × String)) :
    (∀ s, fold (fold s) = fold s) ∧
    (∀ key ∈ (standard.withSpellings entries).spellings.keys, fold key = key) ∧
    (∀ s t, fold s = fold t →
      (standard.withSpellings entries).kind? s = (standard.withSpellings entries).kind? t) ∧
    (∀ spelling name kind, KindName.ofText? name = some kind → ∀ s,
      ((standard.withSpellings entries).withSpelling spelling name).kind? s =
        if fold s = fold spelling then some kind else (standard.withSpellings entries).kind? s) ∧
    ∀ spelling name, KindName.ofText? name = none →
      (standard.withSpellings entries).withSpelling spelling name =
        standard.withSpellings entries := by
  have hfolded := folded_standard.withSpellings entries
  refine ⟨fold_fold, hfolded, ?_, ?_, ?_⟩
  · intro s t hst
    rw [hfolded.kind?_eq, hfolded.kind?_eq, hst]
  · intro spelling name kind hname s
    rw [hfolded.kind?_withSpelling, hname]
    split <;> rfl
  · intro spelling name hname
    exact withSpelling_of_unknown hname _ spelling

/-- A vocabulary with a spelling "open_question" for questions that are answered by a text. -/
theorem lookup_goes_by_fold_openQuestion :
    (standard.withSpelling "open_question" "text-input").kind? " Open question" =
      some .textInput ∧
    (standard.withSpelling "open_question" "text-input").kind? "openQuestion" =
      (standard.withSpelling "open_question" "text-input").kind? "open-question" ∧
    (standard.withSpelling "open_question" "text-input").kind? "Rating" = standard.kind? "Rating" ∧
    standard.withSpelling "ignored" "no-such-kind" = standard := by
  obtain ⟨-, -, -, hknown, hunknown⟩ := lookup_goes_by_fold []
  obtain ⟨-, -, hsame, -, -⟩ := lookup_goes_by_fold [("open_question", "text-input")]
  refine ⟨?_, hsame _ _ (by decide +kernel), ?_, hunknown _ _ (by decide +kernel)⟩
  · exact (hknown _ _ .textInput (by decide +kernel) _).trans (if_pos (by decide +kernel))
  · exact (hknown _ _ .textInput (by decide +kernel) _).trans (if_neg (by decide +kernel))

end Vocabulary

end Document

end Questionnaire
