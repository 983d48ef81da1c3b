/-
**Sessions in a store.**

A store keeps a session as the document of its snapshot.  Six members hold its parts, each in a
form of its own: two texts, tagged values, a list of texts and two counts, one of which is a word.
The reader gives back the snapshot that was written, from the document as it was written and from
one in which the members of every object were put in the order of their keys; and with it the
session, so that whoever goes on with it cannot tell that it was put away.

Main definition:

* `Questionnaire.Snapshot.InOrder` — the variables of a snapshot stand in the order of their names,
  and every record among their values has its keys in order.

Main results:

* `Questionnaire.Snapshot.ofParts?_parts` — a snapshot is read back from its parts;
* `Questionnaire.Snapshot.ofJson?_toJson`, `Questionnaire.Snapshot.ofJson?_arranged` — a snapshot is
  read back from its document, and also when the members were put in order;
* `Questionnaire.Session.stored_session_comes_back` — **a stored session comes back unchanged**.
-/

import Questionnaire.Proofs.Session.Run
import Questionnaire.Proofs.Value.TaggedForm
import Questionnaire.Snapshot

set_option autoImplicit false

namespace Questionnaire

namespace Snapshot

variable {snapshot : Snapshot}

/-! ### The parts -/

theorem texts?_ofStrings (texts : List String) : texts? (.ofStrings texts) = some texts := by
  have hmap : (texts.map Json.string).mapM Json.string? = some texts := by
    induction texts with
    | nil => rfl
    | cons text texts ih => simp [Json.string?, ih]
  exact hmap

theorem count?_ofNat {n : Nat} (h : n ≤ 18446744073709551615) : count? (.ofNat n) = some n := by
  rw [Json.ofNat_eq h]
  simp [count?, Json.number?, JsonNumber.toNat?]

theorem word?_ofNat (word : UInt32) : word? (.ofNat word.toNat) = some word := by
  have hlt : word.toNat < UInt32.size := word.toNat_lt
  have hword : UInt32.ofNat word.toNat = word := UInt32.ofNat_toNat
  rw [word?, count?_ofNat (by rw [UInt32.size] at hlt; omega), Option.bind_some, if_pos hlt, hword]

/-- **A snapshot is read back from its parts**, if its numbers are finite and its count of blocks is
one of 64 bits. -/
theorem ofParts?_parts (hfinite : Value.FiniteEntries snapshot.bindings)
    (hcount : snapshot.reachableBlocks ≤ 18446744073709551615) :
    ofParts? (.string snapshot.session) (.string snapshot.current)
      (.object (Value.toTaggedMembers snapshot.bindings)) (.ofStrings snapshot.history)
      (.ofNat snapshot.selfLoops.toNat) (.ofNat snapshot.reachableBlocks) = some snapshot := by
  have hbindings : bindings? (.object (Value.toTaggedMembers snapshot.bindings)) =
      some snapshot.bindings := (Value.ofTaggedMembers?_toTaggedMembers_iff _).2 hfinite
  simp [ofParts?, Json.string?, hbindings, texts?_ofStrings, word?_ofNat, count?_ofNat hcount]

/-! ### The document -/

/-- What an object comes to in which all six parts are found. -/
theorem ofJson?_object {members : List (String × Json)}
    {session current bindings history selfLoops reachableBlocks : Json}
    (hsession : Keyed.get? members "session_id" = some session)
    (hcurrent : Keyed.get? members "current_block_id" = some current)
    (hbindings : Keyed.get? members "variables" = some bindings)
    (hhistory : Keyed.get? members "history" = some history)
    (hselfLoops : Keyed.get? members "self_loops" = some selfLoops)
    (hreachable : Keyed.get? members "reachable_blocks" = some reachableBlocks) :
    ofJson? (.object members) =
      ofParts? session current bindings history selfLoops reachableBlocks := by
  simp [ofJson?, hsession, hcurrent, hbindings, hhistory, hselfLoops, hreachable]

/-- **A snapshot is read back from its document.** -/
theorem ofJson?_toJson (hfinite : Value.FiniteEntries snapshot.bindings)
    (hcount : snapshot.reachableBlocks ≤ 18446744073709551615) :
    ofJson? snapshot.toJson = some snapshot := by
  rw [toJson, ofJson?_object rfl rfl rfl rfl rfl rfl]
  exact ofParts?_parts hfinite hcount

/-- **The variables stand in the order of their names**, and every record among their values has its
keys in order. -/
structure InOrder (snapshot : Snapshot) : Prop where
  names : Keyed.Increasing snapshot.bindings
  records : Value.OrderedEntries snapshot.bindings

theorem arranged_ofStrings (texts : List String) :
    (Json.ofStrings texts).arranged = .ofStrings texts := by
  rw [Json.ofStrings, Json.arranged_array, List.map_map]
  rfl

theorem arranged_ofNat {n : Nat} (h : n ≤ 18446744073709551615) :
    (Json.ofNat n).arranged = .ofNat n := by
  rw [Json.ofNat_eq h]
  rfl

theorem InOrder.arranged_bindings (h : snapshot.InOrder) :
    (Json.object (Value.toTaggedMembers snapshot.bindings)).arranged =
      .object (Value.toTaggedMembers snapshot.bindings) := by
  rw [Json.arranged_object, Value.arrangedMembers_toTaggedMembers _ h.records,
    (Value.increasing_toTaggedMembers h.names).ofList_eq]

/-- **A snapshot is read back from its document when the members were put in order**, as a document
has them that was held in memory. -/
theorem ofJson?_arranged (hfinite : Value.FiniteEntries snapshot.bindings)
    (hcount : snapshot.reachableBlocks ≤ 18446744073709551615) (horder : snapshot.InOrder) :
    ofJson? snapshot.toJson.arranged = some snapshot := by
  have hloops : snapshot.selfLoops.toNat ≤ 18446744073709551615 := by
    have hlt : snapshot.selfLoops.toNat < UInt32.size := snapshot.selfLoops.toNat_lt
    rw [UInt32.size] at hlt
    omega
  have hget := Json.get?_arranged [
    ("session_id", .string snapshot.session),
    ("current_block_id", .string snapshot.current),
    ("variables", .object (Value.toTaggedMembers snapshot.bindings)),
    ("history", .ofStrings snapshot.history),
    ("self_loops", .ofNat snapshot.selfLoops.toNat),
    ("reachable_blocks", .ofNat snapshot.reachableBlocks)] (by simp)
  rw [toJson, Json.arranged_object, ofJson?_object (hget _) (hget _) (hget _) (hget _) (hget _)
    (hget _)]
  rw [horder.arranged_bindings, arranged_ofStrings, arranged_ofNat hloops, arranged_ofNat hcount]
  exact ofParts?_parts hfinite hcount

end Snapshot

namespace Session

variable {session : Session}

/-- **A stored session comes back unchanged**, if every number in its variables is finite, at any
depth: its snapshot is read back from its document, also when the members of the document were put
in order; what is resumed from it on the same survey is the session that was stored; and after any
moves, each further move comes to the same for both. -/
theorem stored_session_comes_back (hfinite : Value.FiniteEntries session.bindings)
    (hcount : session.reachableBlocks ≤ 18446744073709551615) :
    Snapshot.ofJson? session.snapshot.toJson = some session.snapshot ∧
    (session.snapshot.InOrder →
      Snapshot.ofJson? session.snapshot.toJson.arranged = some session.snapshot) ∧
    session.snapshot.restore session.graph = session ∧
    ∀ (limit : UInt32) (moves : List Move) (move : Move),
      ((session.snapshot.restore session.graph).run limit moves).make limit move =
        (session.run limit moves).make limit move := by
  refine ⟨Snapshot.ofJson?_toJson hfinite hcount, Snapshot.ofJson?_arranged hfinite hcount,
    session.restore_snapshot, ?_⟩
  intro limit moves move
  rw [restore_snapshot]

end Session

/-- A session on the survey `Graph.retry` whose one variable holds a record with keys that are called
like tags. -/
def Session.tagged : Session where
  id := "s"
  graph := Graph.retry
  current := "ask"
  bindings := [("reply", .record [("List", .list [.null, .text "Null", .number (.ofNat 4)]),
    ("Null", .bool true)])]
  history := ["ask"]
  selfLoops := 1
  reachableBlocks := 2

/-- The session `Session.tagged` comes back unchanged. -/
theorem Session.stored_session_comes_back_tagged :
    (Value.FiniteEntries Session.tagged.bindings ∧
      Session.tagged.reachableBlocks ≤ 18446744073709551615 ∧
      Session.tagged.snapshot.InOrder) ∧
    Snapshot.ofJson? Session.tagged.snapshot.toJson = some Session.tagged.snapshot ∧
    Snapshot.ofJson? Session.tagged.snapshot.toJson.arranged = some Session.tagged.snapshot ∧
    Session.tagged.snapshot.restore Graph.retry = Session.tagged ∧
    ∀ (limit : UInt32) (moves : List Move) (move : Move),
      ((Session.tagged.snapshot.restore Graph.retry).run limit moves).make limit move =
        (Session.tagged.run limit moves).make limit move := by
  have hfour : (Number.ofNat 4).isFinite = true := by decide +kernel
  have hfinite : Value.FiniteEntries Session.tagged.bindings :=
    ⟨⟨⟨trivial, trivial, hfour, trivial⟩, trivial, trivial⟩, trivial⟩
  have hcount : Session.tagged.reachableBlocks ≤ 18446744073709551615 := by decide
  have hkeys : Keyed.Increasing [("List", Value.list [.null, .text "Null", .number (.ofNat 4)]),
      ("Null", .bool true)] := List.pairwise_pair.2 (by decide +kernel)
  have horder : Session.tagged.snapshot.InOrder :=
    ⟨List.pairwise_singleton _ _, ⟨hkeys, ⟨trivial, trivial, trivial, trivial⟩, trivial, trivial⟩,
      trivial⟩
  obtain ⟨hwritten, harranged, hrestored, hmoves⟩ :=
    Session.stored_session_comes_back hfinite hcount
  exact ⟨⟨hfinite, hcount, horder⟩, hwritten, harranged horder, hrestored, hmoves⟩

end Questionnaire
