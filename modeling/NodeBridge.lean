import NodeBridge.Adaptive.Document
import NodeBridge.Cbor.Display
import NodeBridge.Cbor.Field
import NodeBridge.Cbor.Item
import NodeBridge.Cbor.Key
import NodeBridge.Cbor.Reader
import NodeBridge.Cbor.Scalar
import NodeBridge.Cbor.Tag
import NodeBridge.Cbor.Variant
import NodeBridge.Cbor.Writer
import NodeBridge.Chain.OutputReference
import NodeBridge.Chain.Point
import NodeBridge.CommandLine.Arguments
import NodeBridge.CommandLine.Following
import NodeBridge.CommandLine.Invocation
import NodeBridge.CommandLine.Listing
import NodeBridge.CommandLine.Program
import NodeBridge.Current.Block
import NodeBridge.Current.Issuer
import NodeBridge.Current.Response
import NodeBridge.Current.Transaction
import NodeBridge.Decode.Error
import NodeBridge.Decode.Field
import NodeBridge.Json.Basic
import NodeBridge.Json.Display
import NodeBridge.Json.Printer
import NodeBridge.Json.Reader
import NodeBridge.Ledger.Arena
import NodeBridge.Ledger.Asset
import NodeBridge.Ledger.Datums
import NodeBridge.Ledger.Utxo
import NodeBridge.Ledger.Value
import NodeBridge.Legacy.Auxiliary
import NodeBridge.Legacy.Block
import NodeBridge.Legacy.Point
import NodeBridge.Legacy.Response
import NodeBridge.Legacy.Result
import NodeBridge.Legacy.Transaction
import NodeBridge.Legacy.Value
import NodeBridge.Main
import NodeBridge.Metadata.Auxiliary
import NodeBridge.Metadata.ChunkedDatums
import NodeBridge.Metadata.Metadatum
import NodeBridge.Network.Address
import NodeBridge.Number.Binary64
import NodeBridge.Number.Exact
import NodeBridge.Number.Notation
import NodeBridge.Number.Scaled
import NodeBridge.Number.Shortest
import NodeBridge.OrderedMap
import NodeBridge.Pattern.Match
import NodeBridge.Pattern.Reader
import NodeBridge.Pattern.Syntax
import NodeBridge.Proofs.Adaptive.Complaints
import NodeBridge.Proofs.Adaptive.Envelope
import NodeBridge.Proofs.Adaptive.MempoolTransaction
import NodeBridge.Proofs.Adaptive.Output
import NodeBridge.Proofs.Adaptive.Reading
import NodeBridge.Proofs.Adaptive.Refusals
import NodeBridge.Proofs.Adaptive.Response
import NodeBridge.Proofs.Adaptive.Retelling
import NodeBridge.Proofs.Adaptive.Transaction
import NodeBridge.Proofs.Adaptive.Writing
import NodeBridge.Proofs.Cbor.Containers
import NodeBridge.Proofs.Cbor.Document
import NodeBridge.Proofs.Cbor.Head
import NodeBridge.Proofs.Chain.Point
import NodeBridge.Proofs.Chain.PointOrder
import NodeBridge.Proofs.Chain.PointText
import NodeBridge.Proofs.CommandLine.BlockLimit
import NodeBridge.Proofs.CommandLine.Following
import NodeBridge.Proofs.Connection.Closing
import NodeBridge.Proofs.Connection.Conservation
import NodeBridge.Proofs.Connection.Deliveries
import NodeBridge.Proofs.Connection.Failures
import NodeBridge.Proofs.Connection.Faults
import NodeBridge.Proofs.Connection.Lockstep
import NodeBridge.Proofs.Connection.Reader
import NodeBridge.Proofs.Connection.Requests
import NodeBridge.Proofs.Current.Printed
import NodeBridge.Proofs.Current.Response
import NodeBridge.Proofs.Document.Complaints
import NodeBridge.Proofs.Document.Digits
import NodeBridge.Proofs.Document.Escapes
import NodeBridge.Proofs.Document.Numerals
import NodeBridge.Proofs.Document.Obstacles
import NodeBridge.Proofs.Document.Printed
import NodeBridge.Proofs.Document.Read
import NodeBridge.Proofs.Document.Written
import NodeBridge.Proofs.Follower.Cadence
import NodeBridge.Proofs.Follower.Checkpoint
import NodeBridge.Proofs.Follower.Delivery
import NodeBridge.Proofs.Follower.Farewell
import NodeBridge.Proofs.Follower.Memory
import NodeBridge.Proofs.Follower.Pipeline
import NodeBridge.Proofs.Follower.Reconnecting
import NodeBridge.Proofs.Follower.Retelling
import NodeBridge.Proofs.Follower.Steadfast
import NodeBridge.Proofs.Ledger.Amount
import NodeBridge.Proofs.Ledger.Arena
import NodeBridge.Proofs.Ledger.Asset
import NodeBridge.Proofs.Ledger.Coins
import NodeBridge.Proofs.Ledger.Comparison
import NodeBridge.Proofs.Ledger.Group
import NodeBridge.Proofs.Ledger.Printed
import NodeBridge.Proofs.Ledger.Sum
import NodeBridge.Proofs.Legacy.Amounts
import NodeBridge.Proofs.Legacy.Assets
import NodeBridge.Proofs.Legacy.Body
import NodeBridge.Proofs.Legacy.Conversion
import NodeBridge.Proofs.Legacy.Header
import NodeBridge.Proofs.Legacy.NotFound
import NodeBridge.Proofs.Legacy.Response
import NodeBridge.Proofs.Legacy.Result
import NodeBridge.Proofs.Legacy.Signatures
import NodeBridge.Proofs.Legacy.Transaction
import NodeBridge.Proofs.Legacy.Value
import NodeBridge.Proofs.Metadata.Auxiliary
import NodeBridge.Proofs.Metadata.Datums
import NodeBridge.Proofs.Metadata.Reassembly
import NodeBridge.Proofs.Metadata.Tree
import NodeBridge.Proofs.NormalForm.Block
import NodeBridge.Proofs.NormalForm.Document
import NodeBridge.Proofs.NormalForm.Response
import NodeBridge.Proofs.NormalForm.Transaction
import NodeBridge.Proofs.Query.Elapsed
import NodeBridge.Proofs.Query.Submission
import NodeBridge.Proofs.Session.Connections
import NodeBridge.Proofs.Session.Failures
import NodeBridge.Proofs.Session.Handshake
import NodeBridge.Proofs.Session.Lines
import NodeBridge.Proofs.Session.Refusals
import NodeBridge.Proofs.Session.Run
import NodeBridge.Proofs.Session.Stopping
import NodeBridge.Proofs.Store.Checkpoints
import NodeBridge.Proofs.Store.Retention
import NodeBridge.Proofs.Text.Binary
import NodeBridge.Proofs.Text.Bits
import NodeBridge.Proofs.Text.Integer
import NodeBridge.Proofs.Text.Reencoding
import NodeBridge.Proofs.Text.Strict
import NodeBridge.Proofs.Text.Utf8
import NodeBridge.Proofs.Watcher.Asking
import NodeBridge.Proofs.Watcher.Refusals
import NodeBridge.Proofs.Watcher.Reply
import NodeBridge.Proofs.Watcher.Snapshots
import NodeBridge.Query.Era
import NodeBridge.Query.Failure
import NodeBridge.Query.LedgerState
import NodeBridge.Query.Post
import NodeBridge.Query.Reply
import NodeBridge.Query.RewardAccount
import NodeBridge.Query.Submission
import NodeBridge.Session.ChainFollower
import NodeBridge.Session.Connection
import NodeBridge.Session.Conversation
import NodeBridge.Session.Failure
import NodeBridge.Session.Lifecycle
import NodeBridge.Session.MempoolWatcher
import NodeBridge.Session.Request
import NodeBridge.Session.Simulation
import NodeBridge.Settings
import NodeBridge.Store.Checkpoints
import NodeBridge.Text.Base64
import NodeBridge.Text.Bech32
import NodeBridge.Text.CharClass
import NodeBridge.Text.Hex
import NodeBridge.Text.Integer
import NodeBridge.Text.Printable
import NodeBridge.Text.Quoted
import NodeBridge.Text.Utf8
import NodeBridge.Text.Word
import NodeBridge.Time.Date
import NodeBridge.Time.Moment
import NodeBridge.Transport.Socket
