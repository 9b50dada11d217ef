import Tftp.Backend
import Tftp.Bytes
import Tftp.Calendar
import Tftp.Channel
import Tftp.CommandLine
import Tftp.Config
import Tftp.Config.Layers
import Tftp.Config.Load
import Tftp.Connection
import Tftp.Dispatcher
import Tftp.Event
import Tftp.Exchange
import Tftp.Fault
import Tftp.File
import Tftp.FileSystem
import Tftp.Main
import Tftp.Negotiation
import Tftp.Notice
import Tftp.Number.Binary64
import Tftp.Number.Decimal
import Tftp.Number.Numeral
import Tftp.Number.Shortest
import Tftp.Packet.Basic
import Tftp.Packet.Decode
import Tftp.Packet.Encode
import Tftp.Path
import Tftp.Path.Codes
import Tftp.Proofs.Backend.Containment
import Tftp.Proofs.Backend.Requests
import Tftp.Proofs.Config.Failures
import Tftp.Proofs.Config.Keys
import Tftp.Proofs.Config.Layering
import Tftp.Proofs.Config.Merging
import Tftp.Proofs.Config.Options
import Tftp.Proofs.Config.Reading
import Tftp.Proofs.Config.Sources
import Tftp.Proofs.Connection.Reader
import Tftp.Proofs.Dispatcher.Acknowledgements
import Tftp.Proofs.Dispatcher.Conditions
import Tftp.Proofs.Dispatcher.History
import Tftp.Proofs.Dispatcher.Invariant
import Tftp.Proofs.Dispatcher.Isolation
import Tftp.Proofs.Dispatcher.Locality
import Tftp.Proofs.Dispatcher.Timeline
import Tftp.Proofs.Dispatcher.Verdict
import Tftp.Proofs.Exchange.Reliability
import Tftp.Proofs.Exchange.Run
import Tftp.Proofs.Exchange.Trail
import Tftp.Proofs.Negotiation.Agreement
import Tftp.Proofs.Negotiation.Exactness
import Tftp.Proofs.Packet.Fields
import Tftp.Proofs.Packet.Grammar
import Tftp.Proofs.Packet.LetterCase
import Tftp.Proofs.Packet.Outgoing
import Tftp.Proofs.Packet.RoundTrip
import Tftp.Proofs.Path.Absolute
import Tftp.Proofs.Path.Normal
import Tftp.Proofs.Path.Walk
import Tftp.Proofs.Rehearsal.Budget
import Tftp.Proofs.Rehearsal.Clock
import Tftp.Proofs.Rehearsal.Deeds
import Tftp.Proofs.Rehearsal.Discards
import Tftp.Proofs.Rehearsal.Loss
import Tftp.Proofs.Rehearsal.Run
import Tftp.Proofs.Session.Accounts
import Tftp.Proofs.Session.Acts
import Tftp.Proofs.Session.Announcement
import Tftp.Proofs.Session.Answers
import Tftp.Proofs.Session.Blocks
import Tftp.Proofs.Session.Budget
import Tftp.Proofs.Session.Closing
import Tftp.Proofs.Session.Copies
import Tftp.Proofs.Session.Datagrams
import Tftp.Proofs.Session.Delivery
import Tftp.Proofs.Session.FailedWrites
import Tftp.Proofs.Session.Run
import Tftp.Proofs.Session.Trail
import Tftp.Proofs.Transfer.Acts
import Tftp.Proofs.Transfer.Live
import Tftp.Proofs.Transfer.Rest
import Tftp.Proofs.Transfer.Run
import Tftp.Proofs.Transfer.Strangers
import Tftp.Rank
import Tftp.Rehearsal
import Tftp.Service
import Tftp.Session
import Tftp.Text.Base64
import Tftp.Text.Codes
import Tftp.Text.Digit
import Tftp.Text.Lower
import Tftp.Text.Printable
import Tftp.Text.Quoted
import Tftp.Transfer
import Tftp.Value
import Tftp.Value.SetOrder
import Tftp.Yaml.Cursor
import Tftp.Yaml.Document
import Tftp.Yaml.Layout
import Tftp.Yaml.Meaning
import Tftp.Yaml.Merge
import Tftp.Yaml.Node
import Tftp.Yaml.Number
import Tftp.Yaml.Problem
import Tftp.Yaml.Scalar
import Tftp.Yaml.Tag
import Tftp.Yaml.Tag.Value
import Tftp.Yaml.Timestamp
import Tftp.Yaml.Token
