import BtrfsStore.Main
import BtrfsStore.Rehearsal
import BtrfsStore.Sandbox
import BtrfsStore.Proofs.Text
import BtrfsStore.Proofs.Encoding
import BtrfsStore.Proofs.Components
import BtrfsStore.Proofs.Planning
import BtrfsStore.Proofs.Arguments
import BtrfsStore.Proofs.ScriptLiteral
import BtrfsStore.Proofs.Distros
import BtrfsStore.Proofs.Listing
import BtrfsStore.Proofs.Listing.Grammar
import BtrfsStore.Proofs.Selection
import BtrfsStore.Proofs.Warnings
import BtrfsStore.Proofs.UnitFile
import BtrfsStore.Proofs.Json.RoundTrip
import BtrfsStore.Proofs.Json.Outcome
import BtrfsStore.Proofs.Config.Keys
import BtrfsStore.Proofs.Config.Entries
import BtrfsStore.Proofs.Config.Edits
import BtrfsStore.Proofs.Config.Loading
import BtrfsStore.Proofs.Config.Recording
import BtrfsStore.Proofs.History
import BtrfsStore.Proofs.InStep
import BtrfsStore.Proofs.Scripting
import BtrfsStore.Proofs.Polling
import BtrfsStore.Proofs.Polling.Calls
import BtrfsStore.Proofs.Steps
import BtrfsStore.Proofs.Steps.Native
import BtrfsStore.Proofs.Steps.Wsl
import BtrfsStore.Proofs.Steps.Docker
import BtrfsStore.Proofs.Stages
import BtrfsStore.Proofs.Filesystem
import BtrfsStore.Proofs.Formatting
import BtrfsStore.Proofs.Verification
import BtrfsStore.Proofs.Unmounting
import BtrfsStore.Proofs.Looks
import BtrfsStore.Proofs.Walking
import BtrfsStore.Proofs.NearestAncestor
import BtrfsStore.Proofs.Activation
import BtrfsStore.Proofs.Installation
import BtrfsStore.Proofs.SystemdWait
import BtrfsStore.Proofs.Creation
import BtrfsStore.Proofs.Discovery
import BtrfsStore.Proofs.Course
import BtrfsStore.Proofs.Course.Native
import BtrfsStore.Proofs.Course.Wsl
import BtrfsStore.Proofs.Milestones
import BtrfsStore.Proofs.Milestones.Wsl
import BtrfsStore.Proofs.Gates
import BtrfsStore.Proofs.Conclusion
import BtrfsStore.Proofs.Requirement
import BtrfsStore.Proofs.NonDestructive
import BtrfsStore.Proofs.Reinit
import BtrfsStore.Proofs.Recreation
import BtrfsStore.Proofs.DeviceReinit
import BtrfsStore.Proofs.Prerequisites
import BtrfsStore.Proofs.FreshStore
import BtrfsStore.Proofs.NativeShapes
import BtrfsStore.Proofs.ReportedStore
import BtrfsStore.Proofs.Verbosity
import BtrfsStore.Proofs.ContainerRuntime
import BtrfsStore.Proofs.Targets
import BtrfsStore.Proofs.Resolution
import BtrfsStore.Proofs.Config.Unusable
