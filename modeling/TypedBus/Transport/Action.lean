import TypedBus.Transport.Domain

namespace TypedBus

/-- One thing that happens in a domain. `pass` moves a publication on to one of its routes and
`deliver` hands the oldest letter of a queue to its receiver, so a list of actions stands for every way
in which publications and deliveries interleave. -/
inductive Action (G : Type)
  | advertise (channel : String)
  | withdraw (publisher : PeerId)
  | setGreeter (publisher : PeerId) (greeter : Option G)
  | subscribe (channel : String) (running : Bool)
  | unsubscribe (subscriber : PeerId)
  | publish (publisher : PeerId) (message : Message)
  | pass (ticket : Nat) (route : PeerId)
  | deliver (subscriber : PeerId)
  | failInside

inductive Outcome (G : Type)
  /-- Nothing to tell: the action always works, or it was not possible. -/
  | silent
  | refused (error : TransportError)
  | joined (id : PeerId) (greetings : List (Greeting G))
  | gone (greetings : List (Greeting G))
  | started (ticket : Nat)
  | passed (letter : Letter) (passage : Passage)
  | delivered (letter : Letter)

namespace Domain

variable {G : Type}

def perform (d : Domain G) : Action G → Outcome G × Domain G
  | .advertise channel =>
    match d.advertise channel with
    | (.ok id, d) => (.joined id [], d)
    | (.error e, d) => (.refused e, d)
  | .withdraw publisher => (.silent, d.withdraw publisher)
  | .setGreeter publisher greeter => (.silent, d.setGreeter publisher greeter)
  | .subscribe channel running =>
    match d.subscribe channel running with
    | (.ok (id, greetings), d) => (.joined id greetings, d)
    | (.error e, d) => (.refused e, d)
  | .unsubscribe subscriber =>
    let (greetings, d) := d.unsubscribe subscriber
    (.gone greetings, d)
  | .publish publisher message =>
    match d.publish publisher message with
    | (.ok ticket, d) => (.started ticket, d)
    | (.error e, d) => (.refused e, d)
  | .pass ticket route =>
    match d.publication? ticket, d.pass ticket route with
    | some p, some (passage, d) => (.passed p.letter passage, d)
    | _, _ => (.silent, d)
  | .deliver subscriber =>
    match d.deliver subscriber with
    | some (letter, d) => (.delivered letter, d)
    | none => (.silent, d)
  | .failInside => (.silent, d.failInside)

/-- What comes of a list of actions, each with its outcome. -/
def run (d : Domain G) : List (Action G) → List (Action G × Outcome G) × Domain G
  | [] => ([], d)
  | action :: rest =>
    let (outcome, d) := d.perform action
    let (outcomes, d) := run d rest
    ((action, outcome) :: outcomes, d)

theorem run_append (d : Domain G) (front rest : List (Action G)) :
    d.run (front ++ rest) =
      ((d.run front).1 ++ ((d.run front).2.run rest).1, ((d.run front).2.run rest).2) := by
  induction front generalizing d with
  | nil => rfl
  | cons action front ih => simp [run, ih]

end Domain

end TypedBus
