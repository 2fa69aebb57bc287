import TypedBus.Registry.Basic
import TypedBus.Subscriber.Metrics

namespace TypedBus

/-- The calls in which a receiver fails. -/
structure Receiver (M : Type) where
  failsOnObject : M → Message → Bool := fun _ _ => false
  failsOnError : TypedError → Message → Bool := fun _ _ => false

/-- A call to a receiver; every call comes with the message. -/
inductive ReceiverCall (M : Type)
  | object (value : M)
  | failure (error : TypedError)

def Receiver.fails {M : Type} (receiver : Receiver M) (m : Message) : ReceiverCall M → Bool
  | .object value => receiver.failsOnObject value m
  | .failure e => receiver.failsOnError e m

structure Dispatcher (M : Type) where
  registry : Registry M := {}
  metrics : SubscriberMetrics := {}

namespace Dispatcher

variable {M : Type}

/-- The object in a message, and the registry after its type was looked up. -/
def dispatch (registry : Registry M) (m : Message) : Except TypedError M × Registry M :=
  match m.typeTag with
  | none | some "" => (.error .missingTypeTag, registry)
  | some tag =>
    match registry.resolve tag with
    | (.error e, registry) => (.error e, registry)
    | (.ok descriptor, registry) => ((descriptor.decode m.data).mapError (.decode tag), registry)

/-- The call that a message leads to, and the dispatcher after it. An error is counted before the
receiver is called, an object afterwards and only if the receiver has not failed. -/
def receive (d : Dispatcher M) (receiver : Receiver M) (m : Message) :
    ReceiverCall M × Dispatcher M :=
  match dispatch d.registry m with
  | (.error e, registry) => (.failure e, ⟨registry, d.metrics.recordFailure e⟩)
  | (.ok value, registry) =>
    (.object value,
      ⟨registry, if receiver.failsOnObject value m then d.metrics else d.metrics.recordDelivered⟩)

end Dispatcher

end TypedBus
