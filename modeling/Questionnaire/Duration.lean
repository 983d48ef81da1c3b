/-
**How long a survey takes.**

A pace says how many seconds a block of each kind takes.  The estimate adds them up over all
blocks, reachable or not; both the seconds and the minutes stop growing at the largest count that
their words hold.

Main definitions:

* `Questionnaire.Pace` — seconds by kind;
* `Questionnaire.Graph.estimatedSeconds`, `Questionnaire.Graph.estimatedMinutes` — the estimate.

Main result:

* `Questionnaire.addSaturating_foldl` — adding with a limit at every step is adding up and then
  cutting off.
-/

import Questionnaire.Graph

set_option autoImplicit false

namespace Questionnaire

/-- Seconds that a block takes, by kind; kinds that are not known have a pace of their own. -/
abbrev Pace := Option KindName → UInt32

namespace Pace

/-- The pace that is used unless another is set. -/
def standard : Pace
  | some .message => 5
  | some .textInput => 30
  | some .numberInput => 15
  | some .singleChoice => 10
  | some .multiChoice => 20
  | some .scale => 15
  | some .yesNo => 10
  | some .video => 60
  | some .contactForm => 45
  | some .demographics => 30
  | some .final => 5
  | none => 15

/-- Sets the pace of one kind. -/
def set (pace : Pace) (kind : Option KindName) (seconds : UInt32) : Pace :=
  fun other => if other = kind then seconds else pace other

/-- The kind whose pace goes by a name, one name standing for all kinds that are not known. -/
def kind? (name : String) : Option (Option KindName) :=
  if name = "unrecognized" then some none else (KindName.ofText? name).map some

/-- Sets the pace that goes by a name; a name that is not known sets nothing. -/
def setNamed (pace : Pace) (name : String) (seconds : UInt32) : Pace :=
  match kind? name with
  | some kind => pace.set kind seconds
  | none => pace

/-- The names of all paces, in the order in which they are listed. -/
def names : List String := KindName.all.map KindName.text ++ ["unrecognized"]

/-- The seconds that a kind takes. -/
def secondsFor (pace : Pace) (kind : Kind) : Nat := (pace kind.kindName?).toNat

end Pace

/-- The largest number of seconds, a word of 64 bits. -/
def maxSeconds : Nat := 18446744073709551615

/-- The largest number of minutes, a word of 32 bits. -/
def maxMinutes : Nat := 4294967295

/-- Adds seconds, stopping at the largest number. -/
def addSaturating (total seconds : Nat) : Nat := min maxSeconds (total + seconds)

/-- What is added up comes on top of what was there before. -/
theorem foldl_add_from (counts : List Nat) (total : Nat) :
    counts.foldl (· + ·) total = total + counts.foldl (· + ·) 0 := by
  induction counts generalizing total with
  | nil => simp
  | cons count counts ih =>
      rw [List.foldl_cons, List.foldl_cons, ih, ih (0 + count)]
      omega

/-- **Adding with a limit at every step is adding up and then cutting off.** -/
theorem addSaturating_foldl (counts : List Nat) (total : Nat) (h : total ≤ maxSeconds) :
    counts.foldl addSaturating total = min maxSeconds (counts.foldl (· + ·) total) := by
  induction counts generalizing total with
  | nil => simp [Nat.min_eq_right h]
  | cons count counts ih =>
      rw [List.foldl_cons, List.foldl_cons, addSaturating, ih _ (Nat.min_le_left _ _)]
      rw [foldl_add_from, foldl_add_from _ (total + count)]
      omega

namespace Graph

/-- The seconds that a survey takes over all its blocks. -/
def estimatedSeconds (graph : Graph) (pace : Pace) : Nat :=
  (graph.blocks.map fun block => pace.secondsFor block.kind).foldl addSaturating 0

/-- The minutes that a survey takes, a minute begun counting as a whole one. -/
def estimatedMinutes (graph : Graph) (pace : Pace) : Nat :=
  min maxMinutes ((graph.estimatedSeconds pace + 59) / 60)

end Graph

end Questionnaire
