import Questionnaire.Main
import Questionnaire.Proofs.Basic
import Questionnaire.Proofs.Closed
import Questionnaire.Proofs.Reach
import Questionnaire.Proofs.Service.Failure
import Questionnaire.Proofs.Service.Invariant
import Questionnaire.Proofs.Service.Refinement
import Questionnaire.Proofs.Service.Request
import Questionnaire.Proofs.Session.Run
import Questionnaire.Proofs.Session.Standing
import Questionnaire.Service
import Questionnaire.Proofs.Session.Path
import Questionnaire.Proofs.WellFormed
import Questionnaire.Proofs.Answerable
import Questionnaire.Proofs.Value.PlainForm
import Questionnaire.Proofs.Document.Transition
import Questionnaire.Proofs.Document.Block
import Questionnaire.Proofs.Document.RoundTrip
import Questionnaire.Proofs.Document.WellFormed
import Questionnaire.Proofs.Session.Bindings
import Questionnaire.Proofs.Session.Shape
import Questionnaire.Proofs.Session.Mirror
import Questionnaire.Proofs.Session.DeadRules
import Questionnaire.Proofs.Session.SelfLoops
import Questionnaire.Proofs.Session.Repeats
import Questionnaire.Proofs.Session.Progress
import Questionnaire.Proofs.Service.Completion
import Questionnaire.Proofs.Traversal
import Questionnaire.Proofs.Reachability
import Questionnaire.Proofs.Session.Trapped
import Questionnaire.Proofs.IgnoredNext
import Questionnaire.Proofs.Session.Pruned
import Questionnaire.Proofs.Membership
import Questionnaire.Proofs.Value.TaggedForm
import Questionnaire.Proofs.Session.Stored
import Questionnaire.Proofs.Walk.Course
import Questionnaire.Proofs.Walk.Scripts
import Questionnaire.Proofs.Walk.Confined
import Questionnaire.Proofs.Walk.Endless
import Questionnaire.Proofs.Value.Agreement
import Questionnaire.Proofs.Document.Origin
import Questionnaire.Proofs.Session.Chosen
import Questionnaire.Proofs.Session.Redone
import Questionnaire.Proofs.Contact
import Questionnaire.Proofs.Selection
import Questionnaire.Proofs.Document.Grammar
import Questionnaire.Proofs.Document.Variables
import Questionnaire.Proofs.Document.Ids
import Questionnaire.Proofs.Document.SharedIds
import Questionnaire.Proofs.Document.Spellings
import Questionnaire.Proofs.FirstMatch
import Questionnaire.Proofs.Session.Reordered
import Questionnaire.Proofs.Estimate
import Questionnaire.Proofs.Number.Scaled
import Questionnaire.Proofs.Value.Converted
import Questionnaire.Proofs.Session.Restored
import Questionnaire.Proofs.Index
