import TypedBus.PeerId

namespace TypedBus

/-- Who passes a publication on: the caller of a command, or one of the replies. -/
inductive Sender
  | caller
  | reply (number : Nat)
deriving DecidableEq

inductive Turn
  /-- The letters of a subscription are handed to its receiver. -/
  | delivery (subscription : PeerId)
  | reply (number : Nat)
  | wait (number : Nat)
deriving DecidableEq

/-- At every look whose number it divides, a turn that a command made ready goes first. -/
def fairness : Nat := 31

/-- Whose turn it is while a session goes on. Deliveries, replies and waits take turns in the order
in which they became ready, but those that became ready during a turn go before those that a command
made ready, except at every 31st look: turns that keep waking one another cannot hold up the others
for ever. Who finds no room in a queue stands in line there, and room that comes free is kept for
the first in line. The clock moves only at looks at which nobody is ready, from stop to stop. -/
structure Schedule where
  /-- Made ready by commands. -/
  started : List Turn := []
  /-- Made ready during turns. -/
  woken : List Turn := []
  /-- Stopped in the middle, to go on in the next round. -/
  paused : List Turn := []
  /-- The subscriptions that have nothing to deliver. -/
  listening : List PeerId := []
  /-- Who stands in line at which queue, the first one first. -/
  lines : List (PeerId × Sender) := []
  /-- For whom there is room at which queue. -/
  kept : List (PeerId × Sender) := []
  /-- How often somebody has looked for a turn. -/
  looks : Nat := 0
  /-- The time in milliseconds. -/
  clock : Nat := 0
  /-- Somebody was made ready from outside the turns, or the caller was called, since the last round.
  The clock then stands still at the next look at which nobody is ready. -/
  isAlert : Bool := false

namespace Schedule

/-- The number of turns that are due or stand in line. -/
def size (s : Schedule) : Nat :=
  s.started.length + s.woken.length + s.paused.length + s.lines.length

/-- Looks for the next turn. -/
def next (s : Schedule) : Option Turn × Schedule :=
  let s := { s with looks := s.looks + 1 }
  match s.started, s.woken with
  | [], [] => (none, s)
  | turn :: rest, [] => (some turn, { s with started := rest })
  | [], turn :: rest => (some turn, { s with woken := rest })
  | first :: later, turn :: rest =>
    if fairness ∣ s.looks then (some first, { s with started := later })
    else (some turn, { s with woken := rest })

/-- A command makes a turn ready, if it is not ready yet. -/
def start (s : Schedule) (turn : Turn) : Schedule :=
  if turn ∈ s.started ∨ turn ∈ s.woken then s
  else { s with started := s.started ++ [turn], isAlert := true }

def wake (s : Schedule) (turn : Turn) : Schedule := { s with woken := s.woken ++ [turn] }

/-- Somebody is called who takes no turns. -/
def alert (s : Schedule) : Schedule := { s with isAlert := true }

def wakeSender (s : Schedule) : Sender → Schedule
  | .caller => s.alert
  | .reply number => s.wake (.reply number)

def pause (s : Schedule) (turn : Turn) : Schedule := { s with paused := s.paused ++ [turn] }

/-- A new round: who stopped in the middle is ready again. -/
def resume (s : Schedule) : Schedule :=
  { s with woken := s.woken ++ s.paused, paused := [], isAlert := false }

/-- The number of stops that a clock makes on its way to a later time. It shows digits to the base
64 and sets those that change one at a time, the highest first; a zero needs no stop of its own. -/
def stops (now later : Nat) : Nat :=
  if now / 64 = later / 64 then 1
  else stops (now / 64) (later / 64) + (if later % 64 = 0 then 0 else 1)
termination_by now + later

/-- Lets time pass after a look at which nobody was ready. At its end the caller is called. -/
def elapse (s : Schedule) (milliseconds : Nat) : Schedule :=
  let later := s.clock + milliseconds
  { s with
    looks := s.looks + (if s.isAlert then 1 else 0) + (stops s.clock later - 1)
    clock := later
    isAlert := true }

def listen (s : Schedule) (subscription : PeerId) : Schedule :=
  { s with listening := s.listening ++ [subscription] }

def arrive (s : Schedule) (queue : PeerId) : Schedule :=
  if queue ∈ s.listening then
    wake { s with listening := s.listening.erase queue } (.delivery queue)
  else s

/-- A subscription ends. Its delivery has one more turn, in which the line at its queue is let go. -/
def finish (s : Schedule) (subscription : PeerId) : Schedule :=
  if subscription ∈ s.listening then
    start { s with listening := s.listening.erase subscription } (.delivery subscription)
  else s

def queueUp (s : Schedule) (queue : PeerId) (sender : Sender) : Schedule :=
  { s with lines := s.lines ++ [(queue, sender)] }

def isInLine (s : Schedule) (sender : Sender) : Bool := s.lines.any (·.2 = sender)

/-- A queue has room for one letter more, which is kept for the first in line. -/
def free (s : Schedule) (queue : PeerId) : Schedule :=
  match s.lines.find? (·.1 = queue) with
  | none => s
  | some place =>
    wakeSender { s with lines := s.lines.erase place, kept := s.kept ++ [place] } place.2

/-- Nobody needs to stand in line at a queue any more. -/
def letGo (s : Schedule) (queue : PeerId) : Schedule :=
  let (gone, lines) := s.lines.partition (·.1 = queue)
  gone.foldl (fun s place => s.wakeSender place.2) { s with lines }

/-- How much room at a queue is kept for others than a sender. -/
def keptFromOthers (s : Schedule) (queue : PeerId) (sender : Sender) : Nat :=
  (s.kept.filter fun place => place.1 = queue && place.2 ≠ sender).length

def use (s : Schedule) (queue : PeerId) (sender : Sender) : Schedule :=
  { s with kept := s.kept.erase (queue, sender) }

end Schedule

end TypedBus
