import TypedBus.Config.Basic
import TypedBus.Guarded
import TypedBus.Transport.Endpoints
import TypedBus.Transport.Error
import TypedBus.Transport.Metrics

namespace TypedBus

/-- A message on its way, with the publisher that it comes from and the ticket of its publication. -/
structure Letter where
  ticket : Nat
  publisher : PeerId
  message : Message
deriving DecidableEq

/-- The queue of an active subscription, the oldest letter first. -/
structure Inbox where
  owner : PeerId
  queue : List Letter := []

/-- A letter with the routes that it has not been passed on to yet. -/
structure Publication where
  letter : Letter
  routes : List PeerId

def Publication.ticket (p : Publication) : Nat := p.letter.ticket

inductive Encounter
  | welcome
  | farewell
deriving DecidableEq, Repr

structure Greeting (G : Type) where
  greeter : G
  encounter : Encounter
  publisher : PeerId
  subscriber : PeerId

/-- What becomes of a publication at one of its routes. -/
inductive Passage
  | queued
  | dropped
  | waiting
deriving DecidableEq, Repr

/-- A publication takes its routes when it starts and is then passed on to one route after the
other, in any order; it waits at a route while the queue there is full. -/
structure Domain (G : Type) where
  config : TransportConfig := {}
  nextId : PeerId := .first
  endpoints : Guarded (Endpoints G) := ⟨{}, false⟩
  inboxes : List Inbox := []
  publications : List Publication := []
  nextTicket : Nat := 0
  metrics : TransportMetrics := {}

namespace Domain

variable {G : Type}

def capacity (d : Domain G) : Nat := max d.config.queueCapacity.toNat 1

def inbox? (d : Domain G) (id : PeerId) : Option Inbox := d.inboxes.find? (·.owner = id)

/-- A subscription is active until it is cancelled. -/
def isActive (d : Domain G) (id : PeerId) : Bool := (d.inbox? id).isSome

def queue (d : Domain G) (id : PeerId) : List Letter := ((d.inbox? id).map (·.queue)).getD []

def setQueue (d : Domain G) (id : PeerId) (queue : List Letter) : Domain G :=
  { d with inboxes := d.inboxes.map fun b => if b.owner = id then { b with queue } else b }

/-- The channel of a publisher, which it keeps also when nobody gets at the endpoints any more. -/
def channelOf? (d : Domain G) (publisher : PeerId) : Option String :=
  (d.endpoints.value.publisher? publisher).map (·.channel)

/-- The number of subscribers last made known to those who wait for them. -/
def watched (d : Domain G) (publisher : PeerId) : Nat :=
  ((d.endpoints.value.publisher? publisher).map (·.watched)).getD 0

/-- The endpoints, or the error of a poisoned lock. -/
def read (d : Domain G) : Except TransportError (Endpoints G) :=
  d.endpoints.read.mapError .poisoned

def write (d : Domain G) : Except TransportError (Endpoints G) :=
  d.endpoints.write.mapError .poisoned

def store (d : Domain G) (e : Endpoints G) : Domain G :=
  { d with endpoints := d.endpoints.store e }

def publisherCount (d : Domain G) : Except TransportError Nat := d.read.map (·.publishers.length)

def subscriberCount (d : Domain G) : Except TransportError Nat :=
  d.read.map (·.subscriptions.length)

/-- The subscribers of a publisher, ascending; none when nobody gets at the endpoints. -/
def subscribersOf (d : Domain G) (publisher : PeerId) : List PeerId :=
  match d.channelOf? publisher, d.read with
  | some channel, .ok e => e.subscribersOf channel
  | _, _ => []

/-- A new publisher. Its identity is used up even when it cannot join. -/
def advertise (d : Domain G) (channel : String) : Except TransportError PeerId × Domain G :=
  let id := d.nextId
  let d := { d with nextId := id.next }
  match d.write with
  | .error e => (.error e, d)
  | .ok e =>
    (.ok id, { d.store (e.advertise id channel) with metrics := d.metrics.addPublisher })

def withdraw (d : Domain G) (id : PeerId) : Domain G :=
  match d.write with
  | .error _ => d
  | .ok e =>
    match e.publisher? id with
    | none => d
    | some _ => { d.store (e.withdraw id) with metrics := d.metrics.removePublisher }

def setGreeter (d : Domain G) (id : PeerId) (greeter : Option G) : Domain G :=
  match d.write with
  | .error _ => d
  | .ok e => d.store (e.setGreeter id greeter)

/-- The calls to the greeters that hear of a subscription to a channel. -/
def greetings (e : Endpoints G) (encounter : Encounter) (s : Subscription) : List (Greeting G) :=
  (e.greeters s.channel).map fun (publisher, greeter) =>
    { greeter, encounter, publisher, subscriber := s.id }

/-- A new subscription and the welcomes for it. Without something to run its deliveries there is no
subscription and no identity is used up. -/
def subscribe (d : Domain G) (channel : String) (running : Bool) :
    Except TransportError (PeerId × List (Greeting G)) × Domain G :=
  if !running then (.error .noRuntime, d)
  else
    let id := d.nextId
    let d := { d with nextId := id.next }
    match d.write with
    | .error e => (.error e, d)
    | .ok e =>
      let e := e.subscribe id channel
      (.ok (id, greetings e .welcome ⟨id, channel⟩),
        { d.store e with
          inboxes := d.inboxes ++ [{ owner := id }], metrics := d.metrics.addSubscriber })

/-- Cancels a subscription: its queue is discarded and the greeters say farewell. Cancelling again
does nothing. -/
def unsubscribe (d : Domain G) (id : PeerId) : List (Greeting G) × Domain G :=
  if !d.isActive id then ([], d)
  else
    let d := { d with inboxes := d.inboxes.filter (·.owner ≠ id) }
    match d.write with
    | .error _ => ([], d)
    | .ok e =>
      match e.subscription? id with
      | none => ([], d)
      | some s =>
        let e := e.unsubscribe s
        (greetings e .farewell s, { d.store e with metrics := d.metrics.removeSubscriber })

/-- The message that arrives when a message is written as a frame and read again. -/
def reframe (m : Message) : Except TransportError Message :=
  match Frame.encode m with
  | .error e => .error (.encoding e.message)
  | .ok frame =>
    match (Frame.decode frame).1 with
    | .error e => .error (.encoding e.message)
    | .ok none => .error (.encoding "帧不完整")
    | .ok (some m) => .ok m

/-- The message that a publication carries: within the payload limit, and through a frame if the
domain is set to that. -/
def accept (config : TransportConfig) (m : Message) : Except TransportError Message :=
  let limit := config.maxPayloadSize.toNat
  if m.size > limit then .error (.payloadTooLarge m.size limit)
  else if config.wireEncoding then reframe m
  else .ok m

/-- Starts a publication to all that match now, and returns its ticket. -/
def publish (d : Domain G) (publisher : PeerId) (m : Message) :
    Except TransportError Nat × Domain G :=
  match d.channelOf? publisher with
  | none => (.error (.closed publisher.text), d)
  | some channel =>
    match accept d.config m with
    | .error e => (.error e, d)
    | .ok m =>
      match d.read with
      | .error e => (.error e, d)
      | .ok e =>
        let started : List Publication := match e.routes channel with
          | [] => []
          | routes => [⟨⟨d.nextTicket, publisher, m⟩, routes⟩]
        (.ok d.nextTicket,
          { d with
            nextTicket := d.nextTicket + 1
            publications := d.publications ++ started
            metrics := d.metrics.recordPublished m.size })

def publication? (d : Domain G) (ticket : Nat) : Option Publication :=
  d.publications.find? (·.ticket = ticket)

/-- Takes a route off a publication; with the last one the publication is done. -/
def clearRoute (publications : List Publication) (ticket : Nat) (route : PeerId) :
    List Publication :=
  publications.filterMap fun p =>
    if p.ticket = ticket then
      match p.routes.erase route with
      | [] => none
      | routes => some { p with routes }
    else some p

/-- Passes a publication on to one of its routes. -/
def pass (d : Domain G) (ticket : Nat) (route : PeerId) : Option (Passage × Domain G) :=
  match d.publication? ticket with
  | none => none
  | some p =>
    if route ∉ p.routes then none
    else
      let cleared := { d with publications := clearRoute d.publications ticket route }
      match d.inbox? route with
      | none => some (.dropped, { cleared with metrics := d.metrics.recordDropped })
      | some inbox =>
        if inbox.queue.length < d.capacity then
          some (.queued,
            { cleared.setQueue route (inbox.queue ++ [p.letter]) with
              metrics := d.metrics.recordDelivery })
        else some (.waiting, d)

def deliver (d : Domain G) (id : PeerId) : Option (Letter × Domain G) :=
  match d.queue id with
  | [] => none
  | letter :: rest => some (letter, d.setQueue id rest)

/-- A task fails while it holds the lock on the endpoints. -/
def failInside (d : Domain G) : Domain G := { d with endpoints := d.endpoints.poison }

/-- No queue holds more than its capacity. -/
def Bounded (d : Domain G) : Prop := ∀ b ∈ d.inboxes, b.queue.length ≤ d.capacity

theorem bounded_setQueue {d : Domain G} (h : d.Bounded) (id : PeerId) {queue : List Letter}
    (hq : queue.length ≤ d.capacity) : (d.setQueue id queue).Bounded := by
  intro b hb
  obtain ⟨c, hc, rfl⟩ := List.mem_map.mp hb
  split
  · exact hq
  · exact h c hc

end Domain

end TypedBus
