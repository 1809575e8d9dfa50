import GreenticDw.Bridge.Answers
import GreenticDw.Bridge.Interleavings
import GreenticDw.Bridge.LateRefusals
import GreenticDw.Bridge.Wire
import GreenticDw.Catalog.Containment
import GreenticDw.Catalog.References
import GreenticDw.Composition.Inclusions
import GreenticDw.Composition.LostPacks
import GreenticDw.Composition.Pinning
import GreenticDw.Composition.Reordering
import GreenticDw.Composition.SupplierChains
import GreenticDw.DeepLoop.Authority
import GreenticDw.DeepLoop.Cancellation
import GreenticDw.DeepLoop.Candidates
import GreenticDw.DeepLoop.Delegating
import GreenticDw.DeepLoop.Handoffs
import GreenticDw.DeepLoop.IterationCap
import GreenticDw.DeepLoop.KnowledgeBlocks
import GreenticDw.DeepLoop.Liveness
import GreenticDw.DeepLoop.Outputs
import GreenticDw.DeepLoop.ReadySteps
import GreenticDw.DeepLoop.Revisions
import GreenticDw.DeepLoop.SharedWorkspace
import GreenticDw.DeepLoop.Subtasks
import GreenticDw.DeepLoop.Verdicts
import GreenticDw.Invoker.ArtifactBodies
import GreenticDw.Invoker.CanonicalKeys
import GreenticDw.Invoker.Completing
import GreenticDw.Invoker.EarnedCompletion
import GreenticDw.Invoker.ToolCalls
import GreenticDw.Invoker.ToolMemory
import GreenticDw.Invoker.Transcript
import GreenticDw.Invoker.Truncation
import GreenticDw.Invoker.Undelegated
import GreenticDw.Llm.Condensing
import GreenticDw.Llm.Extraction
import GreenticDw.Llm.Rendering
import GreenticDw.Llm.SharedArtifacts
import GreenticDw.Manifest.EmittedFiles
import GreenticDw.Manifest.TaskEnvelopes
import GreenticDw.Orders.StableSort
import GreenticDw.Planning.Scheduling
import GreenticDw.Runtime.Accounting
import GreenticDw.Runtime.Coherence
import GreenticDw.Runtime.Failures
import GreenticDw.Runtime.LateFaults
import GreenticDw.Runtime.MemoryTiers
import GreenticDw.Runtime.RepeatedTools
import GreenticDw.Runtime.ResponseSources
import GreenticDw.Runtime.Resumption
import GreenticDw.Wizard.Isolation
import GreenticDw.Wizard.Replays
import GreenticDw.Wizard.RequirementIds
import GreenticDw.Wizard.Responses
import GreenticDw.Wizard.SetupBlocks
import GreenticDw.Wizard.ShownProviders
import GreenticDw.Wizard.Suitability
import GreenticDw.Worker.OutPaths
import GreenticDw.Workspace.Scopes
