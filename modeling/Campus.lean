import Campus.Breaker
import Campus.Breaker.Run
import Campus.Bucket
import Campus.Calendar.Date
import Campus.Calendar.Moment
import Campus.Cancellation
import Campus.Clock
import Campus.CommandLine
import Campus.Config
import Campus.Decimal
import Campus.Desk
import Campus.Drain
import Campus.Drain.Watch
import Campus.Exposition
import Campus.FanOut
import Campus.FanOut.Script
import Campus.Fault
import Campus.Health
import Campus.Http.Intent
import Campus.Http.MediaType
import Campus.Http.Message
import Campus.Http.Place
import Campus.Http.Query
import Campus.Http.Status
import Campus.Http.Stream
import Campus.Identifier
import Campus.Intake
import Campus.Journal
import Campus.Journal.Line
import Campus.Json.Reader
import Campus.Json.Schema
import Campus.Json.Text
import Campus.Launch
import Campus.Main
import Campus.Node
import Campus.Operation
import Campus.Peer.Address
import Campus.Peer.Client
import Campus.Peer.Exchange
import Campus.Pipeline.Chain
import Campus.Pipeline.Run
import Campus.Proofs.Breaker.History
import Campus.Proofs.Breaker.Permits
import Campus.Proofs.Bucket.Admission
import Campus.Proofs.Bucket.Level
import Campus.Proofs.Bucket.Looks
import Campus.Proofs.Cancellation.Family
import Campus.Proofs.Cancellation.Tree
import Campus.Proofs.Desk.Admission
import Campus.Proofs.Desk.Advance
import Campus.Proofs.Desk.Asking
import Campus.Proofs.Desk.Breakdown
import Campus.Proofs.Desk.Courses
import Campus.Proofs.Desk.Gather
import Campus.Proofs.Desk.Known
import Campus.Proofs.Desk.Office
import Campus.Proofs.Desk.Records
import Campus.Proofs.Desk.Recovery
import Campus.Proofs.Desk.Returned
import Campus.Proofs.Desk.Sent
import Campus.Proofs.Drain.Health
import Campus.Proofs.Drain.Punctual
import Campus.Proofs.Drain.Vigil
import Campus.Proofs.FanOut.Bookkeeping
import Campus.Proofs.FanOut.Books
import Campus.Proofs.FanOut.Bound
import Campus.Proofs.FanOut.Plan
import Campus.Proofs.FanOut.Resolve
import Campus.Proofs.FanOut.Run
import Campus.Proofs.FanOut.Stopped
import Campus.Proofs.FanOut.Units
import Campus.Proofs.Http.Routes
import Campus.Proofs.Identifier.Grammar
import Campus.Proofs.Node.Blame
import Campus.Proofs.Node.Contract
import Campus.Proofs.Node.Session
import Campus.Proofs.Node.Sibling
import Campus.Proofs.Peer.Address
import Campus.Proofs.Peer.Asked
import Campus.Proofs.Peer.Completion
import Campus.Proofs.Peer.Link
import Campus.Proofs.Peer.Outcome
import Campus.Proofs.Peer.Unsent
import Campus.Proofs.Pipeline.Blame
import Campus.Proofs.Pipeline.Counted
import Campus.Proofs.Pipeline.Driven
import Campus.Proofs.Pipeline.Transparent
import Campus.Proofs.Service.Faults
import Campus.Proofs.Service.Overlap
import Campus.Proofs.Service.Wanted
import Campus.Proofs.Store.Pages
import Campus.Proofs.Store.Roster
import Campus.Record
import Campus.Server
import Campus.Service
import Campus.Service.Check
import Campus.SocketAddress
import Campus.Store
import Campus.Store.Backend
import Campus.Store.Table
import Campus.Text.Blank
import Campus.Text.Compose
import Campus.Text.Compose.Pairs
import Campus.Text.Cut
import Campus.Text.Digits
import Campus.Text.Mark
import Campus.Text.Percent
import Campus.Text.Quoted
import Campus.Text.Table
import Campus.Text.Unprintable
import Campus.Text.Utf8
import Campus.Url
import Campus.Url.Host
import Campus.Url.Label
import Campus.Url.Name
import Campus.Url.Name.Direction
import Campus.Url.Name.Folded
import Campus.Url.Name.Joiner
import Campus.Url.Name.Letter
import Campus.Url.Name.Refused
import Campus.Url.Path
import Campus.Url.Scheme
import Campus.Url.V4
import Campus.Url.V6
import Campus.Wire
