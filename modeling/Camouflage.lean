import Camouflage.Arguments.Item
import Camouflage.ClientHello.Reader
import Camouflage.Directory
import Camouflage.Listener.Peers
import Camouflage.Main
import Camouflage.Options.Inline.Segment
import Camouflage.Options.Written
import Camouflage.Record.Stream
import Camouflage.Session.Run
import Camouflage.Proofs.Bytes
import Camouflage.Proofs.Record.Reader
import Camouflage.Proofs.Connection
import Camouflage.Proofs.Relay.Turn
import Camouflage.Proofs.Relay.Teardown
import Camouflage.Proofs.Relay.Accounts
import Camouflage.Proofs.Relay.Delivery
import Camouflage.Proofs.Session.Turn
import Camouflage.Proofs.Session.Outbound
import Camouflage.Proofs.Session.Inbound
import Camouflage.Proofs.ClientHello.RoundTrip
import Camouflage.Proofs.Record.Frame
import Camouflage.Proofs.ClientHello.Length
import Camouflage.Proofs.Setup
import Camouflage.Proofs.ClientHello.Extensions
import Camouflage.Proofs.Greeting.Decoding
import Camouflage.Proofs.Session.Ending
import Camouflage.Proofs.Session.Gating
import Camouflage.Proofs.Session.Failure
import Camouflage.Proofs.Relay.Closing
import Camouflage.Proofs.Relay.BackToBack
import Camouflage.Proofs.Session.Reading
import Camouflage.Proofs.Greeting.Reading
import Camouflage.Proofs.Instant
import Camouflage.Proofs.Token
import Camouflage.Proofs.Greeting.Freshness
import Camouflage.Proofs.Greeting.Tickets
import Camouflage.Proofs.Relay.Counters
import Camouflage.Proofs.Session.FastOpen
import Camouflage.Proofs.Greeting.Draws
import Camouflage.Proofs.Settings
import Camouflage.Proofs.Setup.Build
import Camouflage.Proofs.Relay.CleanClose
import Camouflage.Proofs.Decimal
import Camouflage.Proofs.Json
import Camouflage.Proofs.Text
import Camouflage.Proofs.Options
import Camouflage.Proofs.Options.Inline
import Camouflage.Proofs.Options.Json
import Camouflage.Proofs.Options.RoundTrip
import Camouflage.Proofs.Record.Parse
import Camouflage.Proofs.Record.Messages
import Camouflage.Proofs.Options.Grammar
import Camouflage.Proofs.Options.Value
import Camouflage.Proofs.Utf8
import Camouflage.Proofs.Options.Chosen
import Camouflage.Proofs.Arguments.Append
import Camouflage.Proofs.ClientHello.Size
import Camouflage.Proofs.Greeting.Size
import Camouflage.Proofs.Settings.Port
import Camouflage.Proofs.ClientHello.Types
import Camouflage.Proofs.Relay.Room
import Camouflage.Proofs.EarlyData
import Camouflage.Proofs.Listener
