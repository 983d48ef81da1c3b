/-
**What a review finds.**

The review of a survey runs through its blocks and puts each of them to six checks.  This module
says, apart from the checks, which faults a block has, and shows that the review reports these and
no others, each once.  A survey is then without faults exactly when it is well formed.

Main definitions:

* `Questionnaire.Block.HasFault` — **the faults that a block has**, said without the checks;
* `Questionnaire.Block.WellFormed`, `Questionnaire.Graph.WellFormed` — blocks and surveys that have
  none;
* `Questionnaire.Finding.place` — where the block of a finding stands in a survey.

Main results:

* `Questionnaire.Block.mem_faults_iff`, `Questionnaire.Block.nodup_faults` — the checks find what a
  block has, and nothing twice;
* `Questionnaire.Block.wellFormed_iff` — a block is well formed when it has no fault;
* `Questionnaire.Graph.count_faults`, `Questionnaire.Graph.faults_pairwise_place` — how often a fault
  is reported, and in which order;
* `Questionnaire.Graph.isValid_review_iff_wellFormed` — **a review is passed exactly by the well
  formed surveys**, and otherwise reports every fault once and in the order of the blocks.
-/

import Mathlib.Data.List.Nodup
import Questionnaire.Proofs.Closed

set_option autoImplicit false

namespace Questionnaire

deriving instance DecidableEq for Finding

/-- Each text of a list is kept once. -/
theorem nodup_eraseDups (texts : List String) : texts.eraseDups.Nodup := by
  cases texts with
  | nil => exact List.nodup_nil
  | cons s rest =>
      rw [List.eraseDups_cons, List.nodup_cons]
      refine ⟨by simp [List.mem_eraseDups], nodup_eraseDups _⟩
termination_by texts.length
decreasing_by
  -- what is kept behind the first text comes from a shorter list, without that text
  have hfilter := List.length_filter_le (fun t => !t == s) rest
  rw [List.length_cons]
  omega

namespace Kind

/-- The ids of the options or of the fields that a kind lists. -/
def partIds (kind : Kind) : Part → List String
  | .option => (kind.choices?.map fun choices => choices.map Choice.id).getD []
  | .field => (kind.fields?.map fun fields => fields.map FormField.id).getD []

end Kind

namespace Block

variable {graph : Graph} {block : Block} {fault : Fault}

/-! ### The faults of a block -/

/-- **The faults that a block has.** -/
inductive HasFault (graph : Graph) (block : Block) : Fault → Prop where
  | unrecognizedKind {name : String} (hkind : block.kind = .unrecognized name) :
      HasFault graph block (.unrecognizedKind name)
  | noVariable (hquestion : block.kind.isQuestion = true)
      (hname : ∀ name ∈ block.variableName, name = "") :
      HasFault graph block (.noVariable block.kind.name)
  | noOptions (hchoices : block.kind.choices? = some []) :
      HasFault graph block (.noOptions block.kind.name)
  | repeatedPart {part : Part} {id : String} (hcount : 2 ≤ (block.kind.partIds part).count id) :
      HasFault graph block (.repeatedPart part id)
  | invertedRange {min max : Number} (hkind : block.kind = .numberInput (some min) (some max))
      (hless : max.less min = true) : HasFault graph block (.invertedRange min max)
  | unusableLimit {choices : List Choice} {limit : Nat}
      (hkind : block.kind = .multiChoice choices (some limit))
      (hlimit : limit = 0 ∨ choices.length < limit) :
      HasFault graph block (.unusableLimit limit choices.length)
  | noNext (hknown : block.kind.kindName? ≠ none) (hopen : block.isFinal = false)
      (hnext : block.next = none) : HasFault graph block (.noNext block.kind.name)
  | unknownTarget {id : String} (hmem : id ∈ block.targets) (hhas : graph.has id = false) :
      HasFault graph block (.unknownTarget id)

theorem mem_kindFaults_iff : fault ∈ block.kindFaults ↔
    ∃ name, block.kind = .unrecognized name ∧ fault = .unrecognizedKind name := by
  unfold kindFaults
  cases block.kind <;> simp

theorem mem_variableFaults_iff : fault ∈ block.variableFaults ↔
    block.kind.isQuestion = true ∧ (∀ name ∈ block.variableName, name = "") ∧
      fault = .noVariable block.kind.name := by
  unfold variableFaults
  cases block.kind.isQuestion <;> cases block.variableName <;> simp

theorem mem_optionFaults_iff : fault ∈ block.optionFaults ↔
    block.kind.choices? = some [] ∧ fault = .noOptions block.kind.name ∨
      ∃ id, 2 ≤ (block.kind.partIds .option).count id ∧ .repeatedPart .option id = fault := by
  unfold optionFaults Kind.partIds
  cases block.kind.choices? with
  | none => simp
  | some choices => cases choices <;> simp [mem_repeated_iff]

theorem mem_attributeFaults_iff : fault ∈ block.attributeFaults ↔
    (∃ min max, block.kind = .numberInput (some min) (some max) ∧ max.less min = true ∧
      fault = .invertedRange min max) ∨
    (∃ choices limit, block.kind = .multiChoice choices (some limit) ∧
      (limit = 0 ∨ choices.length < limit) ∧ fault = .unusableLimit limit choices.length) ∨
    ∃ id, 2 ≤ (block.kind.partIds .field).count id ∧ .repeatedPart .field id = fault := by
  unfold attributeFaults Kind.partIds
  cases block.kind with
  | numberInput min max => cases min <;> cases max <;> simp [Kind.fields?]
  | multiChoice choices limit => cases limit <;> simp [Kind.fields?]
  | contactForm fields => simp [Kind.fields?, mem_repeated_iff]
  | demographics fields => simp [Kind.fields?, mem_repeated_iff]
  | _ => simp [Kind.fields?]

theorem mem_nextFaults_iff : fault ∈ block.nextFaults ↔
    block.kind.kindName? ≠ none ∧ block.isFinal = false ∧ block.next = none ∧
      fault = .noNext block.kind.name := by
  unfold nextFaults isFinal
  cases block.kind <;> simp [Kind.kindName?, Kind.isFinal]

theorem mem_targetFaults_iff : fault ∈ block.targetFaults graph ↔
    ∃ id ∈ block.targets, graph.has id = false ∧ .unknownTarget id = fault := by
  simp [targetFaults, List.mem_eraseDups, and_assoc]

/-- **The checks of a block find exactly the faults that it has.** -/
theorem mem_faults_iff : fault ∈ block.faults graph ↔ HasFault graph block fault := by
  simp only [faults, List.mem_append, mem_kindFaults_iff, mem_variableFaults_iff,
    mem_optionFaults_iff, mem_attributeFaults_iff, mem_nextFaults_iff, mem_targetFaults_iff]
  constructor
  · rintro (((((⟨name, hkind, rfl⟩ | ⟨hquestion, hname, rfl⟩) |
      (⟨hchoices, rfl⟩ | ⟨id, hcount, rfl⟩)) |
      (⟨min, max, hkind, hless, rfl⟩ | ⟨choices, limit, hkind, hlimit, rfl⟩ | ⟨id, hcount, rfl⟩)) |
      ⟨hknown, hopen, hnext, rfl⟩) | ⟨id, hmem, hhas, rfl⟩)
    · exact .unrecognizedKind hkind
    · exact .noVariable hquestion hname
    · exact .noOptions hchoices
    · exact .repeatedPart hcount
    · exact .invertedRange hkind hless
    · exact .unusableLimit hkind hlimit
    · exact .repeatedPart hcount
    · exact .noNext hknown hopen hnext
    · exact .unknownTarget hmem hhas
  · intro h
    cases h with
    | unrecognizedKind hkind => exact .inl (.inl (.inl (.inl (.inl ⟨_, hkind, rfl⟩))))
    | noVariable hquestion hname => exact .inl (.inl (.inl (.inl (.inr ⟨hquestion, hname, rfl⟩))))
    | noOptions hchoices => exact .inl (.inl (.inl (.inr (.inl ⟨hchoices, rfl⟩))))
    | @repeatedPart part id hcount =>
        cases part with
        | option => exact .inl (.inl (.inl (.inr (.inr ⟨id, hcount, rfl⟩))))
        | field => exact .inl (.inl (.inr (.inr (.inr ⟨id, hcount, rfl⟩))))
    | invertedRange hkind hless => exact .inl (.inl (.inr (.inl ⟨_, _, hkind, hless, rfl⟩)))
    | unusableLimit hkind hlimit =>
        exact .inl (.inl (.inr (.inr (.inl ⟨_, _, hkind, hlimit, rfl⟩))))
    | noNext hknown hopen hnext => exact .inl (.inr ⟨hknown, hopen, hnext, rfl⟩)
    | unknownTarget hmem hhas => exact .inr ⟨_, hmem, hhas, rfl⟩

/-- **The checks of a block find no fault twice.**  Different checks find different faults, and each
check by itself goes through texts that all differ. -/
theorem nodup_faults (graph : Graph) (block : Block) : (block.faults graph).Nodup := by
  have hkind : block.kindFaults.Nodup := by
    unfold kindFaults
    split <;> simp
  have hvariable : block.variableFaults.Nodup := by
    unfold variableFaults
    dsimp only
    split <;> simp
  have hoption : block.optionFaults.Nodup := by
    unfold optionFaults
    split
    · exact List.nodup_nil
    · refine List.nodup_append.2 ⟨by split <;> simp, ?_, by split <;> simp⟩
      exact (nodup_repeated _).map fun _ _ h => (Fault.repeatedPart.inj h).2
  have hattribute : block.attributeFaults.Nodup := by
    unfold attributeFaults
    split
    · split <;> simp
    · split <;> simp
    · exact (nodup_repeated _).map fun _ _ h => (Fault.repeatedPart.inj h).2
    · exact (nodup_repeated _).map fun _ _ h => (Fault.repeatedPart.inj h).2
    · exact List.nodup_nil
  have hnext : block.nextFaults.Nodup := by
    unfold nextFaults
    split
    · exact List.nodup_nil
    · exact List.nodup_nil
    · split <;> simp
  have htarget : (block.targetFaults graph).Nodup :=
    ((nodup_eraseDups _).filter _).map fun _ _ h => Fault.unknownTarget.inj h
  simp only [faults, List.nodup_append, List.mem_append, mem_kindFaults_iff,
    mem_variableFaults_iff, mem_optionFaults_iff, mem_attributeFaults_iff, mem_nextFaults_iff,
    mem_targetFaults_iff]
  refine ⟨⟨⟨⟨⟨hkind, hvariable, ?_⟩, hoption, ?_⟩, hattribute, ?_⟩, hnext, ?_⟩, htarget, ?_⟩
  all_goals grind

/-! ### Well formed blocks -/

/-- **A well formed block**: its kind is known, a question has a variable with a name, a choice or
scale has options with different ids, a range is not inverted, a limit leaves something to select
and does not exceed the options, the fields of a form have different ids, every block but a final
one leads on, and it leads to existing blocks only. -/
structure WellFormed (graph : Graph) (block : Block) : Prop where
  known : block.kind.kindName? ≠ none
  named : block.kind.isQuestion = true → ∃ name, block.variableName = some name ∧ name ≠ ""
  options : ∀ choices, block.kind.choices? = some choices →
    choices ≠ [] ∧ (choices.map Choice.id).Nodup
  range : ∀ min max, block.kind = .numberInput (some min) (some max) → max.less min = false
  limit : ∀ choices limit, block.kind = .multiChoice choices (some limit) →
    1 ≤ limit ∧ limit ≤ choices.length
  fields : ∀ fields, block.kind.fields? = some fields → (fields.map FormField.id).Nodup
  leadsOn : block.isFinal = false → block.next ≠ none
  has_target : ∀ id ∈ block.targets, graph.has id = true

/-- The ids of the parts of a well formed block all differ. -/
theorem WellFormed.nodup_partIds (h : WellFormed graph block) (part : Part) :
    (block.kind.partIds part).Nodup := by
  unfold Kind.partIds
  cases part with
  | option =>
      cases hchoices : block.kind.choices? with
      | none => exact List.nodup_nil
      | some choices => exact (h.options choices hchoices).2
  | field =>
      cases hfields : block.kind.fields? with
      | none => exact List.nodup_nil
      | some fields => exact h.fields fields hfields

/-- A well formed block has no fault. -/
theorem WellFormed.not_hasFault (h : WellFormed graph block) : ¬ HasFault graph block fault := by
  intro hfault
  cases hfault with
  | unrecognizedKind hkind =>
      apply h.known
      rw [hkind]
      rfl
  | noVariable hquestion hname =>
      obtain ⟨name, hvariable, hne⟩ := h.named hquestion
      exact hne (hname name hvariable)
  | noOptions hchoices => exact (h.options [] hchoices).1 rfl
  | @repeatedPart part id hcount =>
      have hle := List.nodup_iff_count_le_one.1 (h.nodup_partIds part) id
      omega
  | invertedRange hkind hless =>
      rw [h.range _ _ hkind] at hless
      cases hless
  | unusableLimit hkind hlimit =>
      have hbounds := h.limit _ _ hkind
      omega
  | noNext _ hopen hnext => exact h.leadsOn hopen hnext
  | unknownTarget hmem hhas =>
      rw [h.has_target _ hmem] at hhas
      cases hhas

/-- A block without faults is well formed. -/
theorem wellFormed_of_not_hasFault (h : ∀ fault, ¬ HasFault graph block fault) :
    WellFormed graph block := by
  have hknown : block.kind.kindName? ≠ none := by
    intro hnone
    cases hkind : block.kind with
    | unrecognized name => exact h _ (.unrecognizedKind hkind)
    | _ => simp [hkind, Kind.kindName?] at hnone
  have hparts : ∀ part, (block.kind.partIds part).Nodup := by
    intro part
    refine List.nodup_iff_count_le_one.2 fun id => ?_
    have hcount : ¬ 2 ≤ (block.kind.partIds part).count id := fun hcount =>
      h _ (.repeatedPart hcount)
    omega
  refine ⟨hknown, ?_, ?_, ?_, ?_, ?_, ?_, ?_⟩
  · intro hquestion
    by_contra hnone
    refine h _ (.noVariable hquestion fun name hname => ?_)
    by_contra hne
    exact hnone ⟨name, hname, hne⟩
  · intro choices hchoices
    refine ⟨?_, by simpa [Kind.partIds, hchoices] using hparts .option⟩
    rintro rfl
    exact h _ (.noOptions hchoices)
  · intro min max hkind
    exact Bool.eq_false_iff.2 fun hless => h _ (.invertedRange hkind hless)
  · intro choices limit hkind
    have hlimit : ¬ (limit = 0 ∨ choices.length < limit) := fun hlimit =>
      h _ (.unusableLimit hkind hlimit)
    omega
  · intro fields hfields
    simpa [Kind.partIds, hfields] using hparts .field
  · intro hopen hnext
    exact h _ (.noNext hknown hopen hnext)
  · intro id hmem
    exact Bool.of_not_eq_false fun hhas => h _ (.unknownTarget hmem hhas)

/-- **A block is well formed exactly when its checks find nothing.** -/
theorem wellFormed_iff : WellFormed graph block ↔ block.faults graph = [] := by
  rw [List.eq_nil_iff_forall_not_mem]
  simp only [mem_faults_iff]
  exact ⟨fun h _ => h.not_hasFault, wellFormed_of_not_hasFault⟩

end Block

/-- **Where the block of a finding stands** in a survey; what concerns no block comes before. -/
def Finding.place {α : Type} (graph : Graph) (finding : Finding α) : Nat :=
  match finding.block with
  | none => 0
  | some id => graph.ids.idxOf id + 1

namespace Graph

variable {graph : Graph} {block : Block} {fault : Fault}

/-! ### Well formed surveys -/

/-- **A well formed survey**: its start exists and all its blocks are well formed. -/
structure WellFormed (graph : Graph) : Prop where
  has_start : graph.has graph.start = true
  wellFormed : ∀ block ∈ graph.blocks, block.WellFormed graph

/-- A survey is well formed exactly when its review finds no fault. -/
theorem wellFormed_iff : graph.WellFormed ↔ graph.faults = [] := by
  rw [faults_eq_nil_iff]
  constructor
  · rintro ⟨hstart, hblocks⟩
    exact ⟨hstart, fun block hmem => Block.wellFormed_iff.1 (hblocks block hmem)⟩
  · rintro ⟨hstart, hblocks⟩
    exact ⟨hstart, fun block hmem => Block.wellFormed_iff.2 (hblocks block hmem)⟩

/-! ### The findings of a review -/

/-- Two blocks of a survey with one id are the same block. -/
theorem eq_of_id_eq_of_mem {other : Block} (hmem : block ∈ graph.blocks)
    (hother : other ∈ graph.blocks) (hid : block.id = other.id) : block = other := by
  have hfound := block?_eq_some_iff.2 ⟨hmem, hid⟩
  rw [block?_eq_some_iff.2 ⟨hother, rfl⟩] at hfound
  exact (Option.some.inj hfound).symm

/-- A finding is about the start, which then is missing, or about a block that has its fault. -/
theorem mem_faults_iff {finding : Finding Fault} : finding ∈ graph.faults ↔
    (graph.has graph.start = false ∧ finding = ⟨none, .missingStart graph.start⟩) ∨
      ∃ block ∈ graph.blocks, finding.block = some block.id ∧
        block.HasFault graph finding.cause := by
  have habout : ∀ block : Block, finding ∈ about block (block.faults graph) ↔
      finding.block = some block.id ∧ block.HasFault graph finding.cause := by
    intro block
    obtain ⟨id, cause⟩ := finding
    simp [about, Block.mem_faults_iff, and_comm, eq_comm]
  rw [faults, List.mem_append, List.mem_flatMap]
  simp only [habout]
  cases graph.has graph.start <;> simp

/-- The findings about a block are the faults that it has. -/
theorem mk_mem_faults_iff (hmem : block ∈ graph.blocks) :
    (⟨some block.id, fault⟩ : Finding Fault) ∈ graph.faults ↔ block.HasFault graph fault := by
  rw [mem_faults_iff]
  constructor
  · rintro (⟨-, h⟩ | ⟨other, hother, hid, hfault⟩)
    · cases h
    · rwa [eq_of_id_eq_of_mem hmem hother (Option.some.inj hid)]
  · intro hfault
    exact .inr ⟨block, hmem, rfl, hfault⟩

/-- Blocks of which one stands behind the other are different, and so are their ids. -/
theorem pairwise_id_ne (graph : Graph) : graph.blocks.Pairwise fun a b => a.id ≠ b.id :=
  List.pairwise_map.1 graph.nodup_ids

/-- **Nothing is reported twice.** -/
theorem nodup_faults (graph : Graph) : graph.faults.Nodup := by
  refine List.nodup_append.2 ⟨by split <;> simp, List.nodup_flatMap.2 ⟨?_, ?_⟩, ?_⟩
  · intro block _
    exact (block.nodup_faults graph).map fun _ _ h => (Finding.mk.inj h).2
  · refine graph.pairwise_id_ne.imp fun hne finding ha hb => ?_
    obtain ⟨_, -, rfl⟩ := List.mem_map.1 ha
    obtain ⟨_, -, h⟩ := List.mem_map.1 hb
    exact hne (Option.some.inj (Finding.mk.inj h).1).symm
  · intro start hstart finding hfinding
    obtain ⟨block, -, hfinding⟩ := List.mem_flatMap.1 hfinding
    obtain ⟨cause, -, rfl⟩ := List.mem_map.1 hfinding
    split at hstart
    · cases hstart
    · rintro rfl
      simp at hstart

/-- **A fault of a block is reported once, and what is no fault of it never.** -/
theorem count_faults (hmem : block ∈ graph.blocks) {p : Prop} [Decidable p]
    (h : block.HasFault graph fault ↔ p) :
    graph.faults.count ⟨some block.id, fault⟩ = if p then 1 else 0 := by
  rw [graph.nodup_faults.count]
  exact if_congr ((mk_mem_faults_iff hmem).trans h) rfl rfl

theorem hasFault_unknownTarget_iff {id : String} :
    block.HasFault graph (.unknownTarget id) ↔ id ∈ block.targets ∧ graph.has id = false := by
  constructor
  · intro h
    cases h with
    | unknownTarget hmem hhas => exact ⟨hmem, hhas⟩
  · rintro ⟨hmem, hhas⟩
    exact .unknownTarget hmem hhas

theorem hasFault_repeatedPart_iff {part : Part} {id : String} :
    block.HasFault graph (.repeatedPart part id) ↔
      2 ≤ (block.kind.partIds part).count id := by
  constructor
  · intro h
    cases h with
    | repeatedPart hcount => exact hcount
  · exact .repeatedPart

/-- **The findings of a review come in the order of the blocks**, behind a missing start. -/
theorem faults_pairwise_place (graph : Graph) :
    graph.faults.Pairwise fun a b => a.place graph ≤ b.place graph := by
  have habout : ∀ block : Block, ∀ finding ∈ about block (block.faults graph),
      finding.place graph = graph.ids.idxOf block.id + 1 := by
    intro block finding hfinding
    obtain ⟨cause, -, rfl⟩ := List.mem_map.1 hfinding
    rfl
  have hblocks : graph.blocks.Pairwise fun a b => graph.ids.idxOf a.id ≤ graph.ids.idxOf b.id := by
    rw [List.pairwise_iff_getElem]
    intro i j hi hj hij
    have hplace : ∀ k (hk : k < graph.blocks.length),
        graph.ids.idxOf (graph.blocks[k]).id = k := by
      intro k hk
      have := graph.nodup_ids.idxOf_getElem k (by simpa using hk)
      simpa [ids] using this
    rw [hplace i hi, hplace j hj]
    exact Nat.le_of_lt hij
  refine List.pairwise_append.2 ⟨by split <;> simp, List.pairwise_flatMap.2 ⟨?_, ?_⟩, ?_⟩
  · intro block _
    refine List.pairwise_of_forall_mem_list fun a ha b hb => ?_
    exact Nat.le_of_eq ((habout block a ha).trans (habout block b hb).symm)
  · refine hblocks.imp fun hle a ha b hb => ?_
    rw [habout _ a ha, habout _ b hb]
    omega
  · intro start hstart finding _
    split at hstart
    · cases hstart
    · rw [List.mem_singleton.1 hstart]
      exact Nat.zero_le _

/-- **A review is passed exactly by the well formed surveys**, and otherwise reports what is wrong
with them: a missing start and every fault of every block, nothing else, and nothing twice.  Of a
block there is one finding for each missing target, however many rules name it, and one for each
repeated id of an option or a field.  The findings come in the order of the blocks, behind a missing
start, and are the same under all settings. -/
theorem isValid_review_iff_wellFormed (graph : Graph) (settings : ReviewSettings) :
    ((graph.review settings).isValid = true ↔ graph.WellFormed) ∧
    (∀ finding, finding ∈ (graph.review settings).faults ↔
      (graph.has graph.start = false ∧ finding = ⟨none, .missingStart graph.start⟩) ∨
        ∃ block ∈ graph.blocks, finding.block = some block.id ∧
          block.HasFault graph finding.cause) ∧
    (graph.review settings).faults.Nodup ∧
    (∀ block ∈ graph.blocks, ∀ id,
      (graph.review settings).faults.count ⟨some block.id, .unknownTarget id⟩ =
        if id ∈ block.targets ∧ graph.has id = false then 1 else 0) ∧
    (∀ block ∈ graph.blocks, ∀ part id,
      (graph.review settings).faults.count ⟨some block.id, .repeatedPart part id⟩ =
        if 2 ≤ (block.kind.partIds part).count id then 1 else 0) ∧
    (graph.review settings).faults.Pairwise (fun a b => a.place graph ≤ b.place graph) ∧
    ∀ other, (graph.review other).faults = (graph.review settings).faults := by
  refine ⟨isValid_review_iff.trans wellFormed_iff.symm, fun _ => mem_faults_iff,
    graph.nodup_faults, ?_, ?_, graph.faults_pairwise_place, fun _ => rfl⟩
  · intro block hmem id
    exact count_faults hmem hasFault_unknownTarget_iff
  · intro block hmem part id
    exact count_faults hmem hasFault_repeatedPart_iff

/-- A survey with a block at fault: two of its options have one id, and both its rules and its last
target name a block that does not exist. -/
def astray : Graph where
  start := "pick"
  title := none
  expectedMinutes := none
  blocks := [
    { id := "pick"
      kind := .singleChoice [⟨"a", "A", .text "a"⟩, ⟨"a", "B", .text "b"⟩]
      prompt := none
      variableName := some "picked"
      next := some (.conditional
        [⟨⟨"picked", .equals (.text "a")⟩, "lost"⟩, ⟨⟨"picked", .equals (.text "b")⟩, "lost"⟩]
        "lost") }]
  blocks_ne_nil := List.cons_ne_nil _ _
  nodup_ids := by decide +kernel

/-- Of the survey `Graph.astray` the missing target and the repeated id are reported once. -/
theorem isValid_review_iff_wellFormed_astray :
    (∃ block ∈ astray.blocks, block.id = "pick") ∧
    (astray.review .standard).faults.count ⟨some "pick", .unknownTarget "lost"⟩ = 1 ∧
    (astray.review .standard).faults.count ⟨some "pick", .repeatedPart .option "a"⟩ = 1 ∧
    ¬ astray.WellFormed := by
  obtain ⟨hvalid, -, -, htargets, hparts, -⟩ := isValid_review_iff_wellFormed astray .standard
  have hmem : ∃ block ∈ astray.blocks, block.id = "pick" := ⟨_, List.mem_cons_self, rfl⟩
  refine ⟨hmem, ?_, ?_, ?_⟩
  · exact (htargets _ List.mem_cons_self "lost").trans (if_pos (by decide +kernel))
  · exact (hparts _ List.mem_cons_self .option "a").trans (if_pos (by decide +kernel))
  · rw [← hvalid]
    decide +kernel

end Graph

end Questionnaire
