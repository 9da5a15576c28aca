import VoodooOne.Change.Outcomes
import VoodooOne.Change.Reviews
import VoodooOne.Checkpoint.Exclusion
import VoodooOne.Checkpoint.FinalManifests
import VoodooOne.Checkpoint.RuntimeEvidence
import VoodooOne.ControlRoom.PlanSummary
import VoodooOne.Dependency.Verification
import VoodooOne.Dispatch.Spending
import VoodooOne.Evidence.ApprovalOrder
import VoodooOne.Evidence.CanonicalForm
import VoodooOne.Evidence.OperationForms
import VoodooOne.FailureDriven.EvalSets
import VoodooOne.Governance.Verdicts
import VoodooOne.Grant.Validity
import VoodooOne.Identity.Governance
import VoodooOne.Identity.Lockouts
import VoodooOne.Identity.SessionRuns
import VoodooOne.Identity.TokenRoundTrip
import VoodooOne.Lease.Retries
import VoodooOne.Migration.ReceiptSequence
import VoodooOne.Operation.Independence
import VoodooOne.Pipeline.Controls
import VoodooOne.Policy.GraphProjection
import VoodooOne.Precondition.Agreement
import VoodooOne.Publication.EvidencePairs
import VoodooOne.Publication.Soundness
import VoodooOne.ReadRuntime.Independence
import VoodooOne.ReadTerminal.LongLifetime
import VoodooOne.Registry.Availability
import VoodooOne.Registry.Lookup
import VoodooOne.Requirements.Drift
import VoodooOne.Resume.Alterations
import VoodooOne.Resume.Timestamps
import VoodooOne.Runtime.ApprovedRuntime
import VoodooOne.Sandbox.Containment
import VoodooOne.SecurityIntelligence.Permutations
import VoodooOne.Workspace.Members
import VoodooOne.Write.CreateRefOutcomes
