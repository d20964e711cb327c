import Testbed.Arguments.Basic
import Testbed.Campaign.Basic
import Testbed.Output.Action
import Testbed.Seed.Program
import Testbed.Simulation.Script
import Testbed.Proofs.Testset.Calls
import Testbed.Proofs.Testset.Course
import Testbed.Proofs.Testset.Accounting
import Testbed.Proofs.Reconciler.View
import Testbed.Proofs.Reconciler.Custody
import Testbed.Proofs.Reconciler.Ledger
import Testbed.Proofs.Reconciler.Cleanup
import Testbed.Proofs.Campaign.View
import Testbed.Proofs.Testset.Upkeep
import Testbed.Proofs.Campaign.Watch
import Testbed.Proofs.Campaign.SoundCluster
import Testbed.Proofs.Campaign.Leaks
import Testbed.Proofs.Reconciler.Generations
import Testbed.Proofs.Testset.Replay
import Testbed.Proofs.Campaign.Totals
import Testbed.Proofs.Testset.Alike
import Testbed.Proofs.Testset.Transcript
import Testbed.Proofs.Campaign.Registration
import Testbed.Proofs.Campaign.Alike
import Testbed.Proofs.Campaign.Presentation
import Testbed.Proofs.Output.Colour
import Testbed.Proofs.Reconciler.Colour
import Testbed.Proofs.Testset.Colour
import Testbed.Proofs.Campaign.Colour
import Testbed.Proofs.Reconciler.Acts
import Testbed.Proofs.Reconciler.Effects
import Testbed.Proofs.Reconciler.Effective
import Testbed.Proofs.Reconciler.Unordered
import Testbed.Proofs.Testset.DryRun
import Testbed.Proofs.Seed.Spelling
import Testbed.Proofs.Seed.Transparency
import Testbed.Proofs.Output.Interception
import Testbed.Proofs.Poll.Outcome
import Testbed.Proofs.Poll.Deadline
import Testbed.Proofs.Json.Order
import Testbed.Proofs.Http.Traffic
import Testbed.Proofs.Http.Buckets
import Testbed.Proofs.Http.NodeNames
import Testbed.Proofs.Http.Targets
import Testbed.Proofs.Campaign.Naming
import Testbed.Proofs.Output.Alignment
