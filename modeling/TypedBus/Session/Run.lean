import TypedBus.Session.Command
import TypedBus.Session.Progress

namespace TypedBus

namespace Session

/-- What follows when a subscription has ended. -/
def leave (s : Session) (id : PeerId) (greetings : List (Greeting SessionGreeter)) : Session :=
  greet (rouse { s with schedule := s.schedule.finish id }) greetings

/-- Cancels a subscription, for whose end the greeters are called. -/
def cancel (s : Session) (id : PeerId) : Session :=
  let (greetings, d) := s.domain.unsubscribe id
  leave { s with domain := d } id greetings

/-- What follows when a subscription has begun. -/
def enter (s : Session) (id : PeerId) (greetings : List (Greeting SessionGreeter)) : Session :=
  greet (rouse { s with schedule := s.schedule.start (.delivery id) }) greetings

/-- Lets go of what a name stood for. -/
def discard (s : Session) : Handle → Session
  | .publisher _ | .rawPublisher _ => s.release
  | h@(.subscriber _ _) | h@(.rawSubscriber _ _) =>
    match h.subscription? with
    | some id => s.cancel id
    | none => s

/-- Gives an endpoint a name. The endpoint that had the name goes after the new one has come. -/
def assign (s : Session) (name : String) (handle : Handle) : Session :=
  let old := s.handles.get? name
  let s := s.setHandle name handle
  match old with
  | some old => s.discard old
  | none => s

def forget (s : Session) (name : String) : Session :=
  match s.handles.get? name with
  | some handle => discard { s with handles := s.handles.erase name } handle
  | none => s

/-- The typed publisher that a name stands for, with its number. -/
def typed? (s : Session) (name : String) : Option (Nat × TypedPublisher) :=
  match s.handles.get? name with
  | some (.publisher key) => (s.publisher? key).map (key, ·)
  | _ => none

def joinTyped (s : Session) (name : String) (p : TypedPublisher) : Answer × Session :=
  let (key, s) := s.addPublisher p
  (.joined p.raw, s.assign name (.publisher key))

def joinPublisher (s : Session) (name channel : String) : Answer × Session :=
  match TypedPublisher.join s.domain channel with
  | (.error e, d) => (.refused (.typed e), { s with domain := d })
  | (.ok p, d) => joinTyped { s with domain := d } name p

def joinRawPublisher (s : Session) (name channel : String) : Answer × Session :=
  match s.domain.advertise channel with
  | (.error e, d) => (.refused (.transport e), { s with domain := d })
  | (.ok id, d) => (.joined id, Session.assign { s with domain := d } name (.rawPublisher id))

def joinSubscriber (s : Session) (name channel : String) (registry : Registry Inbound)
    (running closure : Bool) : Answer × Session :=
  match TypedSubscriber.join s.domain channel registry running with
  | (.error e, d) => (.refused (.typed e), { s with domain := d })
  | (.ok (sub, greetings), d) =>
    let s := { s with domain := d }
    match sub.raw with
    | some id => (.joined id, (s.enter id greetings).assign name (.subscriber sub closure))
    | none => (.nothing, s)

def joinRawSubscriber (s : Session) (name channel : String) (running : Bool) : Answer × Session :=
  match s.domain.subscribe channel running with
  | (.error e, d) => (.refused (.transport e), { s with domain := d })
  | (.ok (id, greetings), d) =>
    let s := enter { s with domain := d } id greetings
    (.joined id, s.assign name (.rawSubscriber id channel))

def closeNamed (s : Session) (name : String) : Answer × Session :=
  match s.handles.get? name with
  | some (.subscriber sub closure) =>
    let raw := sub.raw
    let (sub, greetings, d) := sub.close s.domain
    let s := { s with domain := d }
    let s := match raw with
      | some id => s.leave id greetings
      | none => s
    (.state (sub.isBound s.domain), s.setHandle name (.subscriber sub closure))
  | some (.rawSubscriber id _) =>
    let s := s.cancel id
    (.flag (s.domain.isActive id), s)
  | _ => (.nothing, s)

def infoOf (s : Session) (name : String) : Answer :=
  match s.handles.get? name with
  | some (.subscriber sub _) => .subscriberInfo sub.raw sub.channel (sub.isBound s.domain)
  | some (.rawSubscriber id channel) => .rawSubscriberInfo id channel (s.domain.isActive id)
  | _ =>
    match s.publisherId? name with
    | some id => .publisherInfo id ((s.domain.channelOf? id).getD "")
    | none => .nothing

def askRegistry (s : Session) (name : String) (request : Registry.Request Inbound) :
    Answer × Session :=
  match s.handles.get? name with
  | some (.subscriber sub closure) =>
    let (answer, registry) := sub.dispatcher.registry.perform request
    let sub := { sub with dispatcher := { sub.dispatcher with registry } }
    (.registry answer, s.setHandle name (.subscriber sub closure))
  | _ => (.nothing, s)

/-- Starts a publication while a subscriber leaves, and tells whether it had to wait. If it has to,
the subscriber leaves in the meantime, else afterwards; it leaves too if nothing can be published. -/
def publishAndLeave (s : Session) (publisher : PeerId) (leaver : String) (m : Message) :
    Except TransportError Bool × Session :=
  match s.domain.publish publisher m with
  | (.error e, d) => (.error e, forget { s with domain := d } leaver)
  | (.ok ticket, d) =>
    let s := { s with domain := d }
    let (routes, s) := s.advance .caller ticket share (s.routesOf ticket)
    (.ok !routes.isEmpty, (s.forget leaver).carry ticket routes)

/-- Waits until a publisher has enough subscribers or the time is up. The session goes on while it
waits, unless there is no time at all. -/
def waitFor (s : Session) (publisher : PeerId) (count : Nat) (milliseconds : Option Nat) :
    Nat × Session :=
  let ready := decide (count ≤ s.domain.watched publisher) || milliseconds = some 0
  let s := if ready then s else s.settle (milliseconds.getD 0)
  (s.domain.watched publisher, s)

def withPublisher (s : Session) (name : String) (act : PeerId → Answer × Session) :
    Answer × Session :=
  match s.publisherId? name with
  | some id => act id
  | none => (.nothing, s)

def withTyped (s : Session) (name : String) (act : Nat → TypedPublisher → Answer × Session) :
    Answer × Session :=
  match s.typed? name with
  | some (key, p) => act key p
  | none => (.nothing, s)

def greeterOf (s : Session) (publisher greeter : String) (replies : Bool) : SessionGreeter :=
  match s.typed? publisher with
  | some (key, _) => .typed greeter key replies
  | none => .plain greeter

/-- A command is carried out to its end before anything else goes on. -/
def perform (s : Session) : Command → Answer × Session
  | .publisher name channel => s.joinPublisher name channel
  | .rawPublisher name channel => s.joinRawPublisher name channel
  | .clonePublisher source name => s.withTyped source fun key p =>
    (.joined p.raw, s.assign name (.publisher key))
  | .wrapPublisher raw name => s.withPublisher raw fun id => s.joinTyped name { raw := id }
  | .subscriber name channel source running closure =>
    s.joinSubscriber name channel (source.registry s.registry) running closure
  | .rawSubscriber name channel running => s.joinRawSubscriber name channel running
  | .drop name => (.flag (s.handles.contains name), s.forget name)
  | .close name => s.closeNamed name
  | .info name => (s.infoOf name, s)
  | .registry name request => s.askRegistry name request
  | .sendObject name tag object => s.withTyped name fun _ p =>
    let (result, s) := s.complete (p.sendObject s.domain tag object)
    (.sent result, s)
  | .prepare name tag object => s.withTyped name fun _ p => (.prepared (p.prepare tag object), s)
  | .sendMessage name m => s.withTyped name fun _ p =>
    let (result, s) := s.complete (p.send s.domain m)
    (.sent result, s)
  | .publish name m => s.withPublisher name fun id =>
    let (result, s) := s.complete (s.domain.publish id m)
    (.published result, s)
  | .publishLeave name leaver m => s.withPublisher name fun id =>
    let (result, s) := s.publishAndLeave id leaver m
    (.waited result, s)
  | .putMeta name key value => s.withTyped name fun k p =>
    (.nothing, s.setPublisher k (p.putMeta key value))
  | .eraseMeta name key => s.withTyped name fun k p =>
    (.text (p.fixed.get? key), s.setPublisher k (p.eraseMeta key))
  | .setGreeter name greeter replies => s.withPublisher name fun id =>
    let greeter := s.greeterOf name greeter replies
    (.nothing, { s with domain := s.domain.setGreeter id (some greeter) })
  | .clearGreeter name => s.withPublisher name fun id =>
    (.nothing, { s with domain := s.domain.setGreeter id none })
  | .subscribers name => s.withPublisher name fun id => (.ids (s.domain.subscribersOf id), s)
  | .isPublishingTo name subscriber => s.withPublisher name fun id =>
    (.flag ((s.domain.subscribersOf id).contains subscriber), s)
  | .wait name count milliseconds => s.withPublisher name fun id =>
    let (n, s) := s.waitFor id count milliseconds
    (.count n, s)
  | .startWait name count label => s.withTyped name fun key _ =>
    (.nothing, s.addWait label key count)
  | .metrics => (.metrics s.domain.metrics, s)
  | .subscriberMetrics name =>
    match s.handles.get? name with
    | some (.subscriber sub _) => (.subscriberMetrics sub.dispatcher.metrics, s)
    | _ => (.nothing, s)
  | .counts => (.counts s.domain.publisherCount s.domain.subscriberCount, s)
  | .failInside name => s.withPublisher name fun id =>
    (.poisoned, { s with domain := (s.domain.setGreeter id none).failInside })
  | .goOn => (.nothing, s)

/-- How many milliseconds pass after a command that is not held. -/
def leisure : Nat := 60000

/-- Carries a command out and reports all that has happened since the command before. -/
def step (s : Session) (command : Command) (held : Bool) : Answer × Report × Session :=
  let (answer, s) := s.perform command
  let s := if held then s else s.settle leisure
  (answer, s.report.arranged, { s with report := {} })

def run (s : Session) : List (Command × Bool) → List (Answer × Report) × Session
  | [] => ([], s)
  | (command, held) :: rest =>
    let (answer, report, s) := s.step command held
    let (answers, s) := run s rest
    ((answer, report) :: answers, s)

end Session

end TypedBus
