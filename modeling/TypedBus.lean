import TypedBus.Bytes
import TypedBus.Catalog
import TypedBus.Channel
import TypedBus.Config.Basic
import TypedBus.Config.Environment
import TypedBus.Config.Error
import TypedBus.Config.File
import TypedBus.Descriptor
import TypedBus.Error.Bus
import TypedBus.Error.Node
import TypedBus.Error.Typed
import TypedBus.Frame.Basic
import TypedBus.Frame.Stream
import TypedBus.Guarded
import TypedBus.Message
import TypedBus.Node
import TypedBus.Payload.Basic
import TypedBus.Payload.Bincode
import TypedBus.Payload.Protobuf.Record
import TypedBus.Payload.Protobuf.Wire
import TypedBus.PeerId
import TypedBus.Publisher
import TypedBus.Registry.Basic
import TypedBus.Registry.Request
import TypedBus.Release
import TypedBus.Schema
import TypedBus.Session.Basic
import TypedBus.Session.Command
import TypedBus.Session.Progress
import TypedBus.Session.Run
import TypedBus.Subscriber.Basic
import TypedBus.Subscriber.Dispatcher
import TypedBus.Subscriber.Metrics
import TypedBus.Text.Blank
import TypedBus.Text.Decimal
import TypedBus.Text.Hidden
import TypedBus.Text.Quoted
import TypedBus.Text.Utf8
import TypedBus.TextMap
import TypedBus.Toml.Document
import TypedBus.Toml.Node
import TypedBus.Toml.Scalar
import TypedBus.Transport.Action
import TypedBus.Transport.Domain
import TypedBus.Transport.Endpoints
import TypedBus.Transport.Error
import TypedBus.Transport.Metrics
import TypedBus.TypeName
import TypedBus.Proofs.Frame.Bounds
import TypedBus.Proofs.Frame.Grammar
import TypedBus.Proofs.Frame.RoundTrip
import TypedBus.Proofs.Frame.Stream
import TypedBus.Proofs.Frame.Limits
import TypedBus.Proofs.Frame.Chunks
import TypedBus.Proofs.Frame.Recovery
import TypedBus.Proofs.Transport.Identity
import TypedBus.Proofs.Transport.History
import TypedBus.Proofs.Transport.Visits
import TypedBus.Proofs.Transport.Sealed
import TypedBus.Proofs.Transport.Bookkeeping
import TypedBus.Proofs.Transport.Delivery
import TypedBus.Proofs.Transport.Transparency
import TypedBus.Proofs.Payload.Bincode
import TypedBus.Proofs.Payload.Protobuf
import TypedBus.Proofs.Payload.Schema
import TypedBus.Proofs.Transport.Completion
import TypedBus.Proofs.Typed.Accounting
import TypedBus.Proofs.Typed.Orders
import TypedBus.Proofs.Typed.Delivery
import TypedBus.Proofs.Typed.Tagging
import TypedBus.Proofs.Registry.Resolve
import TypedBus.Proofs.Registry.Caching
import TypedBus.Proofs.Registry.Runs
import TypedBus.Proofs.Registry.Entries
import TypedBus.Proofs.Transport.Greetings
import TypedBus.Proofs.Transport.Traffic
import TypedBus.Proofs.Registry.Precedence
import TypedBus.Proofs.Text.Order
import TypedBus.Proofs.Frame.NormalForm
import TypedBus.Proofs.Registry.Failures
import TypedBus.Proofs.Typed.Verdicts
import TypedBus.Proofs.Transport.Tours
import TypedBus.Proofs.Transport.Fanout
import TypedBus.Proofs.Transport.AnyOrder
import TypedBus.Proofs.Frame.Payloads
import TypedBus.Proofs.Frame.Cuts
import TypedBus.Proofs.Transport.FullFrames
import TypedBus.Proofs.Text.Words
import TypedBus.Proofs.Config.Fields
import TypedBus.Proofs.Config.Override
import TypedBus.Proofs.Config.Nodes
import TypedBus.Proofs.Typed.Course
import TypedBus.Proofs.Typed.LifeCycle
import TypedBus.Proofs.Typed.Failing
import TypedBus.Proofs.Session.Delivering
import TypedBus.Proofs.Session.Settling
import TypedBus.Proofs.Text.Names
import TypedBus.Proofs.Registry.Catalogs
import TypedBus.Proofs.Registry.Naming
