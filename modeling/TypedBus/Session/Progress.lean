import TypedBus.Session.Basic

namespace TypedBus.Session

/-- How many letters a turn takes or passes on at most. -/
def share : Nat := 128

/-- How many turns are taken at most before the caller of a command is looked at again. -/
def roundLength : Nat := 61

def greetOne (s : Session) (g : Greeting SessionGreeter) : Session :=
  let event (name : String) (view : Option PublisherView) : GreeterEvent :=
    { greeter := name, encounter := g.encounter, publisher := g.publisher,
      subscriber := g.subscriber, view }
  match g.greeter with
  | .plain name => s.noteGreeting (event name none)
  | .typed name key replies =>
    if (s.publisher? key).isNone then s
    else
      let subscribers := s.domain.subscribersOf g.publisher
      let view : PublisherView :=
        { channel := (s.domain.channelOf? g.publisher).getD "",
          reaches := subscribers.contains g.subscriber, subscribers := subscribers.length }
      let s := s.noteGreeting (event name (some view))
      if replies && g.encounter = .welcome then s.addReply key g.subscriber else s

def greet (s : Session) (greetings : List (Greeting SessionGreeter)) : Session :=
  greetings.foldl greetOne s

/-- The receiver of a typed subscriber. One that is a closure does not fail and hears of no errors. -/
def receiver (s : Session) (name : String) (closure : Bool) : Receiver Inbound where
  failsOnObject _ m := !closure && s.fails name m

/-- What the receiver of a typed subscriber saw of a call. -/
def eventOf? (receiver : Receiver Inbound) (closure : Bool) (m : Message)
    (call : ReceiverCall Inbound) : Option ReceiverEvent :=
  if receiver.fails m call then some .failed
  else match call with
    | .object value => some (if closure then .noted value m.summary else .object value m)
    | .failure e => if closure then none else some (.failure e m.summary)

/-- Hands a message to the receiver of a subscription. -/
def receive (s : Session) (id : PeerId) (m : Message) : Session :=
  match s.handles.entries.find? (·.2.subscription? = some id) with
  | some (name, .rawSubscriber _ _) =>
    s.noteReceived name (if s.fails name m then .failed else .message m)
  | some (name, .subscriber sub closure) =>
    let receiver := s.receiver name closure
    let (call, sub) := sub.receive receiver m
    let s := s.setHandle name (.subscriber sub closure)
    match eventOf? receiver closure m call with
    | some event => s.noteReceived name event
    | none => s
  | _ => s

/-- Hands up to `n` letters of a queue to the receiver. The room of each is free at once. -/
def deliverUpTo (s : Session) (id : PeerId) : Nat → Session
  | 0 => { s with schedule := s.schedule.pause (.delivery id) }
  | n + 1 =>
    match s.domain.deliver id with
    | none =>
      { s with
        schedule := if s.domain.isActive id then s.schedule.listen id else s.schedule.letGo id }
    | some (letter, d) =>
      deliverUpTo (receive { s with domain := d, schedule := s.schedule.free id } id letter.message)
        id n

/-- Whether a sender may put a letter into a queue: it must hold what is in it, what is kept for
others and one more. A queue that is gone takes everything. -/
def hasRoom (s : Session) (sender : Sender) (route : PeerId) : Bool :=
  !s.domain.isActive route ||
    decide ((s.domain.queue route).length + s.schedule.keptFromOthers route sender <
      s.domain.capacity)

/-- Passes a publication on to a route at which there is room. -/
def passTo (s : Session) (sender : Sender) (ticket : Nat) (route : PeerId) : Session :=
  match s.domain.pass ticket route with
  | some (.queued, d) =>
    { s with domain := d, schedule := (s.schedule.use route sender).arrive route }
  | some (_, d) => { s with domain := d, schedule := s.schedule.use route sender }
  | none => s

/-- Passes a publication on to up to `n` routes and returns those that are left. A sender that finds
no room stands in line. -/
def advance (s : Session) (sender : Sender) (ticket : Nat) : Nat → List PeerId →
    List PeerId × Session
  | _, [] => ([], s)
  | 0, routes => (routes, s)
  | n + 1, route :: rest =>
    if s.hasRoom sender route then advance (s.passTo sender ticket route) sender ticket n rest
    else (route :: rest, { s with schedule := s.schedule.queueUp route sender })

/-- The routes that a publication has still to be passed on to. -/
def routesOf (s : Session) (ticket : Nat) : List PeerId :=
  ((s.domain.publication? ticket).map (·.routes)).getD []

/-- What a reply has still to send, after it was started. Nothing is left if it cannot be sent. -/
def startReply (s : Session) (r : Reply) : Option (Nat × List PeerId) × Session :=
  match s.publisher? r.publisher with
  | none => (none, s)
  | some p =>
    let object : TypedObject := ⟨.aMessage, (Int32.ofInt r.subscriber.value.toNat, -1)⟩
    match p.sendObject s.domain none object with
    | (.error _, d) => (none, { s with domain := d })
    | (.ok ticket, d) =>
      let s := { s with domain := d }
      (some (ticket, s.routesOf ticket), s)

/-- The turn of a reply: the subscriber's number and minus one are sent. -/
def takeReply (s : Session) (r : Reply) : Session :=
  let (sending, s) := match r.sending with
    | none => s.startReply r
    | some sending => (some sending, s)
  let (ticket, routes) := sending.getD (0, [])
  match s.advance (.reply r.number) ticket share routes with
  | ([], s) => release { s with replies := s.replies.filter (·.number ≠ r.number) }
  | (routes, s) =>
    { s with
      replies := s.replies.map fun q =>
        if q.number = r.number then { q with sending := some (ticket, routes) } else q
      schedule :=
        if s.schedule.isInLine (.reply r.number) then s.schedule
        else s.schedule.pause (.reply r.number) }

def watched (s : Session) (key : Nat) : Nat :=
  match s.publisher? key with
  | some p => s.domain.watched p.raw
  | none => 0

/-- The turn of a wait, which is over if its publisher has enough subscribers. -/
def takeWait (s : Session) (w : Wait) : Session :=
  let count := s.watched w.publisher
  if w.count ≤ count then
    release (noteWait { s with waits := s.waits.filter (·.number ≠ w.number) } w count)
  else s

def take (s : Session) : Turn → Session
  | .delivery id => s.deliverUpTo id share
  | .reply number => ((s.replies.find? (·.number = number)).map s.takeReply).getD s
  | .wait number => ((s.waits.find? (·.number = number)).map s.takeWait).getD s

/-- Up to `n` turns, and whether nobody was ready for one more. -/
def takeTurns : Nat → Session → Bool × Session
  | 0, s => (false, s)
  | n + 1, s =>
    match s.schedule.next with
    | (none, schedule) => (true, { s with schedule })
    | (some turn, schedule) => takeTurns n (take { s with schedule } turn)

/-- A round of turns, and whether the session is at rest after it. -/
def round (s : Session) : Bool × Session :=
  let (isQuiet, s) := takeTurns roundLength s
  if isQuiet && s.schedule.paused.isEmpty then (true, s)
  else (false, { s with schedule := s.schedule.resume })

/-- A bound for the number of turns that are left: every turn that is due, every letter that is
delivered and every step of a reply leads to a few more at most. -/
def work (s : Session) : Nat :=
  let letters := s.domain.inboxes.foldl (fun n b => n + b.queue.length) 0
  let sends := s.replies.foldl (fun n r =>
    n + 1 + (match r.sending with
      | none => s.domain.inboxes.length
      | some (_, routes) => routes.length)) 0
  4 * (s.schedule.size + letters + 2 * sends) + 1

def settleIn : Nat → Session → Session
  | 0, s => s
  | n + 1, s =>
    match s.round with
    | (true, s) => s
    | (false, s) => settleIn n s

/-- Goes on until nothing is left to do, and then lets time pass. -/
def settle (s : Session) (milliseconds : Nat) : Session :=
  let s := settleIn s.work s
  { s with schedule := s.schedule.elapse milliseconds }

def carryIn (ticket : Nat) : Nat → List PeerId → Session → Session
  | _, [], s => s
  | 0, _, s => s
  | n + 1, routes, s =>
    let (routes, s) :=
      if s.schedule.isInLine .caller then (routes, s) else s.advance .caller ticket share routes
    if routes.isEmpty then s
    else if s.schedule.isInLine .caller then carryIn ticket n routes s.round.2
    else
      let s := s.round.2
      carryIn ticket n routes { s with schedule := s.schedule.alert }

/-- Carries a publication of the caller on to its end. While the caller waits, turns are taken. -/
def carry (s : Session) (ticket : Nat) (routes : List PeerId) : Session :=
  carryIn ticket (s.work + 8 * routes.length) routes s

def complete {ε : Type} (s : Session) :
    Except ε Nat × Domain SessionGreeter → Except ε Unit × Session
  | (.error e, d) => (.error e, { s with domain := d })
  | (.ok ticket, d) =>
    let s := { s with domain := d }
    (.ok (), s.carry ticket (s.routesOf ticket))

end TypedBus.Session
