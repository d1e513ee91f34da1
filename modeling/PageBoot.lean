import PageBoot.Text.EditDistance
import PageBoot.Value.Template
import PageBoot.Binding.Rehearsed
import PageBoot.Html.Doctype
import PageBoot.Command.Completion
import PageBoot.Command.DevHost
import PageBoot.Command.Run
import PageBoot.Main
import PageBoot.Proofs.Bridge.Coherence
import PageBoot.Proofs.Bridge.FiniteMap
import PageBoot.Proofs.Session.Lifecycle
import PageBoot.Proofs.Binding.Answers
import PageBoot.Proofs.World.Discovery
import PageBoot.Proofs.Command.Screen
import PageBoot.Proofs.Wasm.Validation
import PageBoot.Proofs.Wasm.Leb128
import PageBoot.Proofs.Wasm.Drafts
import PageBoot.Proofs.Wasm.Crashes
import PageBoot.Proofs.World.Wiring
import PageBoot.Proofs.World.Probing
import PageBoot.Proofs.World.Moves
import PageBoot.Proofs.World.Listeners
import PageBoot.Proofs.World.Tables
import PageBoot.Proofs.Loader.Reading
import PageBoot.Proofs.Loader.Overriding
import PageBoot.Proofs.Loader.Injecting
import PageBoot.Proofs.Loader.Starting
import PageBoot.Proofs.World.Siblings
import PageBoot.Proofs.World.Draining
import PageBoot.Proofs.Bridge.References
import PageBoot.Proofs.Page.Adding
import PageBoot.Proofs.World.Resources
import PageBoot.Proofs.World.Leaving
import PageBoot.Proofs.Binding.Asking
import PageBoot.Proofs.Command.Runs
import PageBoot.Proofs.World.Overlays
import PageBoot.Proofs.Loader.Launching
import PageBoot.Proofs.Loader.Marking
import PageBoot.Proofs.Loader.Basing
import PageBoot.Proofs.Wasm.Handshake
import PageBoot.Proofs.Wasm.Echo
import PageBoot.Proofs.Loader.Declining
import PageBoot.Proofs.Loader.Reporting
import PageBoot.Proofs.Url.Travelling
import PageBoot.Proofs.Loader.Validating
import PageBoot.Proofs.Wasm.Bounds
import PageBoot.Proofs.Page.Punctuality
import PageBoot.Proofs.Failure.Questions
import PageBoot.Proofs.Command.Loaders
import PageBoot.Proofs.Loader.Sharing
import PageBoot.Proofs.World.Notices
import PageBoot.Proofs.World.Hooks
import PageBoot.Proofs.World.Plugins
import PageBoot.Proofs.Page.Restyling
import PageBoot.Proofs.Loader.Settings
import PageBoot.Proofs.Loader.Suggesting
import PageBoot.Proofs.Bridge.Reuse
import PageBoot.Proofs.Bridge.Calling
import PageBoot.Proofs.Session.Identities
import PageBoot.Proofs.Wasm.Shortest
