import TypedBus.Channel
import TypedBus.PeerId

namespace TypedBus

/-- A publisher as the domain knows it. `watched` is what those see who wait for subscribers: the
number of matching subscriptions, brought up to date whenever a matching one comes or goes. -/
structure Advertisement (G : Type) where
  id : PeerId
  channel : String
  greeter : Option G := none
  watched : Nat := 0

structure Subscription where
  id : PeerId
  channel : String
deriving DecidableEq

structure Endpoints (G : Type) where
  publishers : List (Advertisement G) := []
  subscriptions : List Subscription := []

namespace Endpoints

variable {G : Type}

/-- The subscriptions that receive what is published on a channel. -/
def matching (e : Endpoints G) (channel : String) : List Subscription :=
  e.subscriptions.filter fun s => Channel.covers s.channel channel

def routes (e : Endpoints G) (channel : String) : List PeerId := (e.matching channel).map (·.id)

def subscribersOf (e : Endpoints G) (channel : String) : List PeerId :=
  PeerId.ascending (e.routes channel)

def publisher? (e : Endpoints G) (id : PeerId) : Option (Advertisement G) :=
  e.publishers.find? (·.id = id)

def subscription? (e : Endpoints G) (id : PeerId) : Option Subscription :=
  e.subscriptions.find? (·.id = id)

def advertise (e : Endpoints G) (id : PeerId) (channel : String) : Endpoints G :=
  let publisher : Advertisement G := { id, channel, watched := (e.matching channel).length }
  { e with publishers := e.publishers ++ [publisher] }

def withdraw (e : Endpoints G) (id : PeerId) : Endpoints G :=
  { e with publishers := e.publishers.filter (·.id ≠ id) }

def setGreeter (e : Endpoints G) (id : PeerId) (greeter : Option G) : Endpoints G :=
  { e with publishers := e.publishers.map fun p => if p.id = id then { p with greeter } else p }

/-- Brings up to date what the publishers see that a subscription to a channel hears. -/
def refresh (e : Endpoints G) (channel : String) : Endpoints G :=
  { e with publishers := e.publishers.map fun p =>
      if Channel.covers channel p.channel then { p with watched := (e.matching p.channel).length }
      else p }

def subscribe (e : Endpoints G) (id : PeerId) (channel : String) : Endpoints G :=
  refresh { e with subscriptions := e.subscriptions ++ [⟨id, channel⟩] } channel

def unsubscribe (e : Endpoints G) (s : Subscription) : Endpoints G :=
  refresh { e with subscriptions := e.subscriptions.filter (·.id ≠ s.id) } s.channel

/-- The greeters of the publishers that a subscription to a channel hears. -/
def greeters (e : Endpoints G) (channel : String) : List (PeerId × G) :=
  e.publishers.filterMap fun p =>
    if Channel.covers channel p.channel then p.greeter.map (p.id, ·) else none

theorem id_of_publisher? {e : Endpoints G} {id : PeerId} {p : Advertisement G}
    (h : e.publisher? id = some p) : p.id = id := by
  simpa using List.find?_some h

theorem id_of_subscription? {e : Endpoints G} {id : PeerId} {s : Subscription}
    (h : e.subscription? id = some s) : s.id = id := by
  simpa using List.find?_some h

theorem matching_subscribe (e : Endpoints G) (id : PeerId) (subscribed channel : String) :
    (e.subscribe id subscribed).matching channel =
      e.matching channel ++ if Channel.covers subscribed channel then [⟨id, subscribed⟩] else [] := by
  cases h : Channel.covers subscribed channel <;> simp [subscribe, matching, refresh, h]

theorem matching_unsubscribe (e : Endpoints G) (s : Subscription) (channel : String) :
    (e.unsubscribe s).matching channel = (e.matching channel).filter (·.id ≠ s.id) := by
  change (e.subscriptions.filter _).filter _ = (e.subscriptions.filter _).filter _
  simp [List.filter_filter, Bool.and_comm]

end Endpoints

end TypedBus
