/-
**Snapshots of sessions.**

A snapshot is a session without its survey, as a store keeps it.  Its document holds the values of
the variables in tagged form, so that reading it back gives the snapshot that was written.

Main definitions:

* `Questionnaire.Snapshot` — a session without its survey;
* `Questionnaire.Session.snapshot`, `Questionnaire.Snapshot.restore` — taking one and resuming it;
* `Questionnaire.Snapshot.toJson`, `Questionnaire.Snapshot.ofJson?` — its document.

Main result:

* `Questionnaire.Session.restore_snapshot` — a session resumed from its snapshot is the same.
-/

import Questionnaire.Session

set_option autoImplicit false

namespace Questionnaire

/-- A session without its survey. -/
structure Snapshot where
  session : String
  current : String
  bindings : Variables
  history : List String
  selfLoops : UInt32
  reachableBlocks : Nat

/-- The snapshot of a session. -/
def Session.snapshot (session : Session) : Snapshot where
  session := session.id
  current := session.current
  bindings := session.bindings
  history := session.history
  selfLoops := session.selfLoops
  reachableBlocks := session.reachableBlocks

namespace Snapshot

/-- Resumes a session on its survey. -/
def restore (snapshot : Snapshot) (graph : Graph) : Session where
  id := snapshot.session
  graph := graph
  current := snapshot.current
  bindings := snapshot.bindings
  history := snapshot.history
  selfLoops := snapshot.selfLoops
  reachableBlocks := snapshot.reachableBlocks

/-- The document of a snapshot. -/
def toJson (snapshot : Snapshot) : Json :=
  .object [
    ("session_id", .string snapshot.session),
    ("current_block_id", .string snapshot.current),
    ("variables", .object (Value.toTaggedMembers snapshot.bindings)),
    ("history", .ofStrings snapshot.history),
    ("self_loops", .ofNat snapshot.selfLoops.toNat),
    ("reachable_blocks", .ofNat snapshot.reachableBlocks)]

/-- The texts of an array of texts. -/
def texts? : Json → Option (List String)
  | .array items => items.mapM Json.string?
  | _ => none

/-- The variables of an object of tagged values. -/
def bindings? : Json → Option Variables
  | .object members => Value.ofTaggedMembers? members
  | _ => none

/-- The natural that is written as an integer. -/
def count? (j : Json) : Option Nat := j.number?.bind JsonNumber.toNat?

/-- The word of 32 bits that is written as an integer. -/
def word? (j : Json) : Option UInt32 :=
  (count? j).bind fun n => if n < UInt32.size then some (UInt32.ofNat n) else none

/-- The snapshot of its six parts. -/
def ofParts? (session current bindings history selfLoops reachableBlocks : Json) :
    Option Snapshot := do
  let session ← session.string?
  let current ← current.string?
  let bindings ← bindings? bindings
  let history ← texts? history
  let selfLoops ← word? selfLoops
  let reachableBlocks ← count? reachableBlocks
  return { session, current, bindings, history, selfLoops, reachableBlocks }

/-- The snapshot of a document: an object with all six members, or a list of the six parts in
their order.  Other members are passed over. -/
def ofJson? (j : Json) : Option Snapshot :=
  match j with
  | .object members => do
    let session ← Keyed.get? members "session_id"
    let current ← Keyed.get? members "current_block_id"
    let bindings ← Keyed.get? members "variables"
    let history ← Keyed.get? members "history"
    let selfLoops ← Keyed.get? members "self_loops"
    let reachableBlocks ← Keyed.get? members "reachable_blocks"
    ofParts? session current bindings history selfLoops reachableBlocks
  | .array [session, current, bindings, history, selfLoops, reachableBlocks] =>
    ofParts? session current bindings history selfLoops reachableBlocks
  | _ => none

end Snapshot

/-- **A session resumed from its snapshot is the same.** -/
theorem Session.restore_snapshot (session : Session) :
    session.snapshot.restore session.graph = session := rfl

end Questionnaire
