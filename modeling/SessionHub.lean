import SessionHub.Client.Feed
import SessionHub.Client.Keyboard
import SessionHub.Http.Feed
import SessionHub.Http.Server
import SessionHub.Main
import SessionHub.Shell.Host
import SessionHub.Terminal.Console
import SessionHub.Proofs.Broadcast.Registry
import SessionHub.Proofs.Broadcast.Delivery
import SessionHub.Proofs.Broadcast.Interleaving
import SessionHub.Proofs.Broadcast.Operation
import SessionHub.Proofs.Broadcast.History
import SessionHub.Proofs.Client.Attachment
import SessionHub.Proofs.Client.Generation
import SessionHub.Proofs.Client.Delay
import SessionHub.Proofs.Client.Viewport
import SessionHub.Proofs.Client.Request
import SessionHub.Proofs.Client.Address
import SessionHub.Proofs.Client.Query
import SessionHub.Proofs.Client.Reset
import SessionHub.Proofs.Client.Keystrokes
import SessionHub.Proofs.Client.Feed
import SessionHub.Proofs.Http.Authorization
import SessionHub.Proofs.Http.Call
import SessionHub.Proofs.Http.Refinement
import SessionHub.Proofs.Json.Lexical
import SessionHub.Proofs.Json.RoundTrip
import SessionHub.Proofs.Json.Canonical
import SessionHub.Proofs.Json.Nesting
import SessionHub.Proofs.Json.Record
import SessionHub.Proofs.Json.Grammar
import SessionHub.Proofs.Json.Spelling
import SessionHub.Proofs.Json.Derivation
import SessionHub.Proofs.Json.Member
import SessionHub.Proofs.Json.Visible
import SessionHub.Proofs.Session.Subscriber
import SessionHub.Proofs.Session.Observer
import SessionHub.Proofs.Session.Failure
import SessionHub.Proofs.Session.Stage
import SessionHub.Proofs.Session.Crowd
import SessionHub.Proofs.Session.Report
import SessionHub.Proofs.Session.Stray
import SessionHub.Proofs.Session.Atomicity
import SessionHub.Proofs.Session.Ending
import SessionHub.Proofs.Session.Listing
import SessionHub.Proofs.Session.Naming
import SessionHub.Proofs.Status.History
import SessionHub.Proofs.Text.Form
import SessionHub.Proofs.Terminal.Input
import SessionHub.Proofs.Terminal.Output
import SessionHub.Proofs.Terminal.Reading
import SessionHub.Proofs.Terminal.Runs
import SessionHub.Proofs.Terminal.Slots
import SessionHub.Proofs.Terminal.Transcript
import SessionHub.Proofs.Url.Escape
import SessionHub.Proofs.Url.Path
import SessionHub.Proofs.Url.Names
import SessionHub.Proofs.Url.Server
import SessionHub.Proofs.Utf8.Chunks
import SessionHub.Proofs.Wire.Record
import SessionHub.Proofs.Wire.Event
import SessionHub.Proofs.Wire.Exchange
