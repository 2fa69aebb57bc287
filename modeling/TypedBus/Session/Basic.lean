import TypedBus.Node
import TypedBus.Publisher
import TypedBus.Session.Schedule
import TypedBus.Subscriber.Basic

namespace TypedBus

/-- The greeters that a session sets. Those of typed publishers fall silent when their publisher is
gone, and may reply to each welcome with a message. -/
inductive SessionGreeter
  | plain (name : String)
  | typed (name : String) (publisher : Nat) (replies : Bool)

/-- What a name stands for. Typed publishers are known by a number, which their clones share. -/
inductive Handle
  | publisher (key : Nat)
  | rawPublisher (id : PeerId)
  | subscriber (s : TypedSubscriber Inbound) (closure : Bool)
  | rawSubscriber (id : PeerId) (channel : String)

def Handle.isPublisher (key : Nat) : Handle → Bool
  | .publisher k => k = key
  | _ => false

def Handle.isRawPublisher (id : PeerId) : Handle → Bool
  | .rawPublisher i => i = id
  | _ => false

/-- The subscription of a subscriber that has not been closed. -/
def Handle.subscription? : Handle → Option PeerId
  | .subscriber s _ => s.raw
  | .rawSubscriber id _ => some id
  | _ => none

/-- A reply to the welcome of a subscriber, which its publisher is still to send. Once it is being
sent it has a ticket and the routes that are left. -/
structure Reply where
  number : Nat
  publisher : Nat
  subscriber : PeerId
  sending : Option (Nat × List PeerId) := none

/-- A task that waits until a publisher has a number of subscribers. -/
structure Wait where
  number : Nat
  name : String
  publisher : Nat
  count : Nat

/-- What a receiver saw of a call. -/
inductive ReceiverEvent
  | object (value : Inbound) (message : Message)
  | noted (value : Inbound) (summary : String)
  | failure (error : TypedError) (summary : String)
  | message (message : Message)
  /-- The receiver failed; only this message is lost. -/
  | failed

/-- What the greeter of a typed publisher finds when it is called. -/
structure PublisherView where
  channel : String
  reaches : Bool
  subscribers : Nat

structure GreeterEvent where
  greeter : String
  encounter : Encounter
  publisher : PeerId
  subscriber : PeerId
  view : Option PublisherView

/-- What has happened, the latest first. -/
structure Report where
  received : List (String × ReceiverEvent) := []
  greetings : List GreeterEvent := []
  waits : List (String × Nat) := []

/-- What has happened, each kind in the order that counts for it: what was received as it came,
greetings by publisher and greeter, finished waits by name. -/
def Report.arranged (r : Report) : Report where
  received := r.received.reverse
  greetings := r.greetings.reverse.mergeSort fun a b =>
    decide (a.publisher.value < b.publisher.value) ||
      (a.publisher = b.publisher && decide (a.greeter ≤ b.greeter))
  waits := r.waits.mergeSort fun a b =>
    decide (a.1 < b.1) || (a.1 = b.1 && decide (a.2 ≤ b.2))

/-- The endpoints of one domain under names, and a report of what happens to them. A publisher stays
in the domain as long as anything holds it: a name, a task that waits for subscribers, or a reply
that is still to be sent. -/
structure Session where
  domain : Domain SessionGreeter
  /-- How the registries of new subscribers are set up that come without one. -/
  registry : RegistryConfig := {}
  publishers : List (Nat × TypedPublisher) := []
  nextKey : Nat := 0
  handles : TextMap Handle := ∅
  replies : List Reply := []
  waits : List Wait := []
  /-- The number of the next reply or wait. -/
  nextTask : Nat := 0
  schedule : Schedule := {}
  /-- The messages on which the receiver of a name fails: those whose metadata `panic` is the
  name, unless a session is made otherwise. -/
  fails : String → Message → Bool := fun name m => m.getMeta "panic" = some name
  report : Report := {}

namespace Session

def ofNode (node : Node SessionGreeter) : Session where
  domain := node.domain
  registry := node.config.registry

/-- A session on a domain without a node, whose configuration nobody has checked. -/
def ofTransport (c : TransportConfig) : Session where
  domain := { config := c }

def publisher? (s : Session) (key : Nat) : Option TypedPublisher :=
  (s.publishers.find? (·.1 = key)).map (·.2)

def publisherId? (s : Session) (name : String) : Option PeerId :=
  match s.handles.get? name with
  | some (.publisher key) => (s.publisher? key).map (·.raw)
  | some (.rawPublisher id) => some id
  | _ => none

def holdsTyped (s : Session) (key : Nat) : Bool :=
  s.handles.entries.any (Handle.isPublisher key ·.2) || s.replies.any (·.publisher = key) ||
    s.waits.any (·.publisher = key)

def holdsRaw (s : Session) (id : PeerId) : Bool :=
  s.handles.entries.any (Handle.isRawPublisher id ·.2) || s.publishers.any (·.2.raw = id)

/-- Lets go of the publishers that nothing holds any more. -/
def release (s : Session) : Session :=
  let s := { s with publishers := s.publishers.filter fun p => s.holdsTyped p.1 }
  let present := s.domain.endpoints.value.publishers.map (·.id)
  { s with domain := (present.filter fun id => !s.holdsRaw id).foldl Domain.withdraw s.domain }

def addPublisher (s : Session) (p : TypedPublisher) : Nat × Session :=
  (s.nextKey, { s with publishers := s.publishers ++ [(s.nextKey, p)], nextKey := s.nextKey + 1 })

def setPublisher (s : Session) (key : Nat) (p : TypedPublisher) : Session :=
  { s with publishers := s.publishers.map fun e => if e.1 = key then (key, p) else e }

def setHandle (s : Session) (name : String) (handle : Handle) : Session :=
  { s with handles := s.handles.insert name handle }

/-- A reply to a welcome, to be sent when the session goes on. -/
def addReply (s : Session) (publisher : Nat) (subscriber : PeerId) : Session :=
  { s with
    replies := s.replies ++ [{ number := s.nextTask, publisher, subscriber }]
    schedule := s.schedule.start (.reply s.nextTask)
    nextTask := s.nextTask + 1 }

def addWait (s : Session) (name : String) (publisher count : Nat) : Session :=
  { s with
    waits := s.waits ++ [{ number := s.nextTask, name, publisher, count }]
    schedule := s.schedule.start (.wait s.nextTask)
    nextTask := s.nextTask + 1 }

/-- The waits look again, because subscribers have come or gone. -/
def rouse (s : Session) : Session :=
  { s with schedule := s.waits.foldl (fun t w => t.start (.wait w.number)) s.schedule }

def noteReceived (s : Session) (name : String) (event : ReceiverEvent) : Session :=
  { s with report := { s.report with received := (name, event) :: s.report.received } }

def noteGreeting (s : Session) (event : GreeterEvent) : Session :=
  { s with report := { s.report with greetings := event :: s.report.greetings } }

def noteWait (s : Session) (wait : Wait) (count : Nat) : Session :=
  { s with report := { s.report with waits := (wait.name, count) :: s.report.waits } }

end Session

end TypedBus
