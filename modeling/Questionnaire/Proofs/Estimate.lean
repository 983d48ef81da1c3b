/-
**The estimate of how long a survey takes.**

The estimate goes through two words of limited size.  The seconds of the blocks are added up in one
of 64 bits, which stops at its largest number at every step; the sum is divided by sixty and rounded
up, and what comes out is cut down to 32 bits.  Neither cut makes it inexact below its own limit: a
sum that never falls is cut off once and for all, and where the seconds are cut off, the minutes are
far beyond their limit already, so they do not show it.

Main definition:

* `Questionnaire.Graph.totalSeconds` — **the seconds of all blocks**, added up without a limit.

Main results:

* `Questionnaire.Graph.estimatedSeconds_eq`, `Questionnaire.Graph.estimatedMinutes_eq` — both figures
  are read off the sum, which is cut off once;
* `Questionnaire.Graph.totalSeconds_le` — more blocks and a slower pace do not make the sum smaller;
* `Questionnaire.Graph.estimate_is_clipped_sum` — **the estimate is the exact sum up to its limits,
  and it never falls**.
-/

import Mathlib.Algebra.Order.BigOperators.Group.List
import Mathlib.Data.List.Perm.Subperm
import Mathlib.Data.Rat.Floor
import Questionnaire.Duration
import Questionnaire.Proofs.Closed

set_option autoImplicit false

namespace Questionnaire

/-- A pace that takes longer for one kind is slower. -/
theorem Pace.le_set {pace : Pace} {kind : Option KindName} {seconds : UInt32}
    (h : pace kind ≤ seconds) (other : Option KindName) :
    pace other ≤ pace.set kind seconds other := by
  unfold set
  split
  · rename_i heq
    exact heq ▸ h
  · exact UInt32.le_refl _

namespace Graph

variable {graph other : Graph} {pace slower : Pace}

/-- **The seconds of all blocks**, whether they can be visited or not, each as long as the pace says
for its kind. -/
def totalSeconds (graph : Graph) (pace : Pace) : ℕ :=
  (graph.blocks.map fun block => (pace block.kind.kindName?).toNat).sum

/-- The seconds are added up as they are, and cut off once. -/
theorem estimatedSeconds_eq (graph : Graph) (pace : Pace) :
    graph.estimatedSeconds pace = min maxSeconds (graph.totalSeconds pace) := by
  rw [estimatedSeconds, addSaturating_foldl _ _ (Nat.zero_le _), ← List.sum_eq_foldl_nat]
  rfl

/-- A minute that has begun counts as a whole one. -/
theorem ceil_div_sixty (seconds : ℕ) : ⌈(seconds : ℚ) / 60⌉₊ = (seconds + 59) / 60 := by
  refine eq_of_forall_ge_iff fun minutes => ?_
  have hsixty : (0 : ℚ) < 60 := by norm_num
  rw [Nat.ceil_le, div_le_iff₀ hsixty]
  norm_cast
  omega

/-- **That the seconds were cut off does not show in the minutes**, which are cut off long before. -/
theorem min_minutes_of_min_seconds (seconds : ℕ) :
    min maxMinutes ((min maxSeconds seconds + 59) / 60) =
      min maxMinutes ((seconds + 59) / 60) := by
  rcases Nat.le_total seconds maxSeconds with hle | hle
  · rw [Nat.min_eq_right hle]
  · rw [Nat.min_eq_left hle]
    have hlimit : maxMinutes ≤ (maxSeconds + 59) / 60 := by decide
    have hbeyond : (maxSeconds + 59) / 60 ≤ (seconds + 59) / 60 :=
      Nat.div_le_div_right (Nat.add_le_add_right hle 59)
    rw [Nat.min_eq_left hlimit, Nat.min_eq_left (hlimit.trans hbeyond)]

/-- The minutes are the exact quotient, rounded up and cut off once. -/
theorem estimatedMinutes_eq (graph : Graph) (pace : Pace) :
    graph.estimatedMinutes pace = min maxMinutes ⌈(graph.totalSeconds pace : ℚ) / 60⌉₊ := by
  rw [estimatedMinutes, estimatedSeconds_eq, min_minutes_of_min_seconds, ceil_div_sixty]

/-- **More blocks and a slower pace do not make the sum smaller**, wherever the blocks were added. -/
theorem totalSeconds_le (hblocks : graph.blocks.Subperm other.blocks)
    (hpace : ∀ kind, pace kind ≤ slower kind) :
    graph.totalSeconds pace ≤ other.totalSeconds slower := by
  obtain ⟨part, hperm, hpart⟩ := hblocks
  calc graph.totalSeconds pace
      = (part.map fun block => (pace block.kind.kindName?).toNat).sum :=
        (hperm.map _).sum_eq.symm
    _ ≤ other.totalSeconds pace :=
        (hpart.map _).sum_le_sum fun _ _ => Nat.zero_le _
    _ ≤ other.totalSeconds slower :=
        List.sum_le_sum fun _ _ => UInt32.le_iff_toNat_le.1 (hpace _)

/-- **The estimate is the exact sum up to its limits, and it never falls.**  The seconds are those of
all blocks, cut off at the largest number of 64 bits; the minutes are a sixtieth of all seconds,
whether these were cut off or not, rounded up and cut off at the largest number of 32 bits; and
neither is smaller for a survey with more blocks, or at a pace that is slower for some kinds. -/
theorem estimate_is_clipped_sum (graph : Graph) (pace : Pace) :
    graph.estimatedSeconds pace = min (2 ^ 64 - 1) (graph.totalSeconds pace) ∧
    graph.estimatedMinutes pace = min (2 ^ 32 - 1) ⌈(graph.totalSeconds pace : ℚ) / 60⌉₊ ∧
    ∀ (other : Graph) (slower : Pace), graph.blocks.Subperm other.blocks →
      (∀ kind, pace kind ≤ slower kind) →
      graph.estimatedSeconds pace ≤ other.estimatedSeconds slower ∧
        graph.estimatedMinutes pace ≤ other.estimatedMinutes slower := by
  refine ⟨graph.estimatedSeconds_eq pace, graph.estimatedMinutes_eq pace, ?_⟩
  intro other slower hblocks hpace
  have hle := totalSeconds_le hblocks hpace
  simp only [estimatedSeconds_eq, estimatedMinutes_eq]
  constructor
  · gcongr
  · gcongr

/-- The survey `Graph.retry` with a message in front that cannot be visited. -/
def greeted : Graph where
  start := "ask"
  title := none
  expectedMinutes := none
  blocks := ⟨"hello", .message, none, none, some (.direct "ask")⟩ :: retry.blocks
  blocks_ne_nil := List.cons_ne_nil _ _
  nodup_ids := by decide +kernel

/-- The survey `Graph.greeted` takes no less time than `Graph.retry`, at a pace that gives the longest
time there is to its question. -/
theorem estimate_is_clipped_sum_greeted :
    retry.blocks.Subperm greeted.blocks ∧
    (∀ kind, Pace.standard kind ≤ Pace.standard.set (some .textInput) 4294967295 kind) ∧
    retry.estimatedSeconds .standard ≤
      greeted.estimatedSeconds (Pace.standard.set (some .textInput) 4294967295) ∧
    retry.estimatedMinutes .standard ≤
      greeted.estimatedMinutes (Pace.standard.set (some .textInput) 4294967295) := by
  have hblocks : retry.blocks.Subperm greeted.blocks := (List.sublist_cons_self _ _).subperm
  have hpace : ∀ kind, Pace.standard kind ≤ Pace.standard.set (some .textInput) 4294967295 kind :=
    Pace.le_set (by decide)
  exact ⟨hblocks, hpace, (estimate_is_clipped_sum retry .standard).2.2 _ _ hblocks hpace⟩

example : greeted.estimatedMinutes (Pace.standard.set (some .textInput) 4294967295) = 71582789 := by
  decide

end Graph

end Questionnaire
