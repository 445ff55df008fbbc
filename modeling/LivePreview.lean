import LivePreview.Main
import LivePreview.Proofs.Cycle.Steps
import LivePreview.Proofs.Cycle.Course
import LivePreview.Proofs.Debounce.Turns
import LivePreview.Proofs.Preview.Settling
import LivePreview.Proofs.Preview.Runs
import LivePreview.Proofs.Preview.Deeds
import LivePreview.Proofs.Cycle.Orderly
import LivePreview.Proofs.Preview.Conduct
import LivePreview.Proofs.Preview.Requests
import LivePreview.Proofs.Cycle.Alike
import LivePreview.Proofs.Debounce.Alike
import LivePreview.Proofs.Preview.Afresh
import LivePreview.Proofs.Cycle.FirstLoad
import LivePreview.Proofs.Preview.FirstLoad
import LivePreview.Proofs.Cycle.Activation
import LivePreview.Proofs.Cycle.Rounds
import LivePreview.Proofs.Debounce.History
import LivePreview.Proofs.Debounce.Delivery
import LivePreview.Proofs.Preview.Progress
import LivePreview.Proofs.Cycle.Idling
import LivePreview.Proofs.Preview.Service
import LivePreview.Proofs.Session.Past
import LivePreview.Proofs.Cycle.Past
import LivePreview.Proofs.Debounce.Dated
import LivePreview.Proofs.Preview.Timely
import LivePreview.Proofs.Preview.Paired
import LivePreview.Proofs.Preview.Coalescing
import LivePreview.Proofs.Preset.Registration
import LivePreview.Proofs.Message.Inbound
import LivePreview.Proofs.Channel
import LivePreview.Proofs.Preset.Dispatch
import LivePreview.Proofs.Preset.Joining
import LivePreview.Proofs.Cycle.Calls
import LivePreview.Proofs.Preview.Runtime
import LivePreview.Proofs.Plan.Making
import LivePreview.Proofs.Plan.Instances
import LivePreview.Proofs.Plan.Packages
import LivePreview.Proofs.Markup
import LivePreview.Proofs.Preview.Heights
import LivePreview.Proofs.Preset.Rules
import LivePreview.Proofs.Message.Report
import LivePreview.Proofs.CommandLine.Chains
import LivePreview.Proofs.CommandLine.Packages
import LivePreview.Proofs.Transformer
import LivePreview.Proofs.Manifest
