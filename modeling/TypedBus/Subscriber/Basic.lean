import TypedBus.Subscriber.Dispatcher
import TypedBus.Transport.Domain

namespace TypedBus

structure TypedSubscriber (M : Type) where
  /-- The subscription, until it is closed. -/
  raw : Option PeerId
  channel : String
  dispatcher : Dispatcher M := {}

namespace TypedSubscriber

variable {M G : Type}

def join (d : Domain G) (channel : String) (registry : Registry M) (running : Bool) :
    Except TypedError (TypedSubscriber M × List (Greeting G)) × Domain G :=
  match d.subscribe channel running with
  | (.error e, d) => (.error (.transport e), d)
  | (.ok (id, greetings), d) =>
    (.ok ({ raw := some id, channel, dispatcher := { registry } }, greetings), d)

def isBound (s : TypedSubscriber M) (d : Domain G) : Bool :=
  match s.raw with
  | none => false
  | some id => d.isActive id

/-- Gives the subscription up; a second time nothing happens. -/
def close (s : TypedSubscriber M) (d : Domain G) :
    TypedSubscriber M × List (Greeting G) × Domain G :=
  match s.raw with
  | none => (s, [], d)
  | some id => ({ s with raw := none }, d.unsubscribe id)

def receive (s : TypedSubscriber M) (receiver : Receiver M) (m : Message) :
    ReceiverCall M × TypedSubscriber M :=
  let (call, dispatcher) := s.dispatcher.receive receiver m
  (call, { s with dispatcher })

end TypedSubscriber

end TypedBus
