import Parametric.Dialect.Load
import Parametric.Edit.Guard
import Parametric.Graph.Basic
import Parametric.Graph.Chain
import Parametric.Proofs.Occurrence
import Parametric.Proofs.Mention
import Parametric.Proofs.Sweep
import Parametric.Proofs.LongestMatch
import Parametric.Proofs.Literal
import Parametric.Proofs.DepthFirst
import Parametric.Proofs.ReferenceRelation
import Parametric.Proofs.ElementaryCycle
import Parametric.Proofs.CycleCheck
import Parametric.Proofs.EditRun
import Parametric.Proofs.HostCall
import Parametric.Proofs.EditFailure
import Parametric.Proofs.WellReferenced
import Parametric.Proofs.Navigation
import Parametric.Proofs.RecursiveSearch
import Parametric.Proofs.SharedVisits
import Parametric.Proofs.Utf8
import Parametric.Proofs.EditReview
import Parametric.Proofs.Replacement
import Parametric.Proofs.OwnFormula
import Parametric.Proofs.Clearing
import Parametric.Proofs.MaskingOrder
import Parametric.Proofs.SingleWord
import Parametric.Proofs.AbsentName
import Parametric.Proofs.UnknownToken
import Parametric.Proofs.ReferenceChain
import Parametric.Proofs.SoleName
import Parametric.Proofs.SnapshotRun
import Parametric.Proofs.Reachability
import Parametric.Proofs.ListedCycle
import Parametric.Proofs.DependencyOrder
import Parametric.Proofs.ShownLoop
import Parametric.Proofs.RejectionGrounds
import Parametric.Proofs.InPlace
import Parametric.Proofs.LiteralSegments
import Parametric.Proofs.MessageTemplate
import Parametric.Dialect.Standard
import Parametric.Proofs.DialectFields
import Parametric.Proofs.DialectFile
import Parametric.Proofs.DialectMapping
import Parametric.Proofs.FailureReport
import Parametric.Proofs.FunctionName
