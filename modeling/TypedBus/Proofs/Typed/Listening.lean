import TypedBus.Proofs.Registry.Resolve
import TypedBus.Proofs.Transport.Queues
import TypedBus.Registry.Request
import TypedBus.Subscriber.Basic

namespace TypedBus

theorem SubscriberMetrics.delivered_recordFailure (s : SubscriberMetrics) (e : TypedError) :
    (s.recordFailure e).delivered = s.delivered := by
  cases e <;> rfl

/-- A letter that a subscriber has handled: the call that it led to, and the dispatcher before it and
after it. -/
structure Handling (M : Type) where
  letter : Letter
  call : ReceiverCall M
  before : Dispatcher M
  after : Dispatcher M

/-- What can happen while a subscriber listens. -/
inductive Event (G M : Type)
  | act (action : Action G)
  | ask (request : Registry.Request M)

structure Listening (G M : Type) where
  domain : Domain G
  subscriber : TypedSubscriber M
  handled : List (Handling M) := []

/-- What the dispatcher of a subscriber says to a letter. -/
def Handling.Faithful {M : Type} (receiver : Receiver M) (h : Handling M) : Prop :=
  h.before.receive receiver h.letter.message = (h.call, h.after)

/-- An object was handed over, and the receiver did not fail on it. -/
def Handling.isDelivered {M : Type} (receiver : Receiver M) (h : Handling M) : Bool :=
  match h.call with
  | .object value => !receiver.failsOnObject value h.letter.message
  | .failure _ => false

namespace Listening

variable {G M : Type}

def hear (receiver : Receiver M) (w : Listening G M) (letter : Letter) : Listening G M :=
  let (call, subscriber) := w.subscriber.receive receiver letter.message
  let handling := ⟨letter, call, w.subscriber.dispatcher, subscriber.dispatcher⟩
  { w with subscriber, handled := w.handled ++ [handling] }

/-- The letters that a subscriber is handed in an event of the domain. -/
def lettersFor (sub : TypedSubscriber M) (e : Action G × Outcome G) : List Letter :=
  match sub.raw with
  | none => []
  | some id => Domain.receivedBy id e

def step (receiver : Receiver M) (w : Listening G M) : Event G M → Listening G M
  | .act a =>
    let (o, domain) := w.domain.perform a
    (lettersFor w.subscriber (a, o)).foldl (hear receiver) { w with domain }
  | .ask request =>
    let (_, registry) := w.subscriber.dispatcher.registry.perform request
    let dispatcher := { w.subscriber.dispatcher with registry }
    { w with subscriber := { w.subscriber with dispatcher } }

def run (receiver : Receiver M) (w : Listening G M) (events : List (Event G M)) : Listening G M :=
  events.foldl (step receiver) w

/-- What comes of some events when a receiver changes: its call number `n` is taken by
`receivers n`. -/
def attend (receivers : Nat → Receiver M) (w : Listening G M) (events : List (Event G M)) :
    Listening G M :=
  events.foldl (fun w event => w.step (receivers w.handled.length) event) w

def actionOf? : Event G M → Option (Action G)
  | .act a => some a
  | .ask _ => none

def actions (events : List (Event G M)) : List (Action G) := events.filterMap actionOf?

variable {receiver : Receiver M} {w : Listening G M} {id : PeerId}

/-- What a subscriber has handled after some letters more. -/
theorem handled_foldl_hear (receiver : Receiver M) (w : Listening G M) (letters : List Letter) :
    (letters.foldl (hear receiver) w).domain = w.domain ∧
    (letters.foldl (hear receiver) w).subscriber.raw = w.subscriber.raw ∧
    (letters.foldl (hear receiver) w).handled.map (·.letter) =
      w.handled.map (·.letter) ++ letters := by
  induction letters generalizing w with
  | nil => simp
  | cons letter letters ih =>
    obtain ⟨hdomain, hraw, hhandled⟩ := ih (w.hear receiver letter)
    rw [List.foldl_cons]
    refine ⟨hdomain, hraw, ?_⟩
    rw [hhandled]
    simp [hear]

/-- The domain goes on as if nobody listened, and the subscriber handles what its queue hands out. -/
theorem handled_attend (receivers : Nat → Receiver M) (h : w.subscriber.raw = some id)
    (events : List (Event G M)) :
    (w.attend receivers events).domain = (w.domain.run (actions events)).2 ∧
    (w.attend receivers events).handled.map (·.letter) =
      w.handled.map (·.letter) ++ Domain.received id (w.domain.run (actions events)).1 := by
  induction events generalizing w with
  | nil => simp [attend, actions, Domain.run, Domain.received]
  | cons event events ih =>
    let receiver := receivers w.handled.length
    change (attend receivers (w.step receiver event) events).domain = _ ∧
      (attend receivers (w.step receiver event) events).handled.map (·.letter) = _
    cases event with
    | ask request =>
      obtain ⟨hdomain, hhandled⟩ := ih (w := w.step receiver (.ask request)) h
      exact ⟨hdomain, hhandled⟩
    | act a =>
      have hletters : lettersFor w.subscriber (a, (w.domain.perform a).1) =
          Domain.receivedBy id (a, (w.domain.perform a).1) := by
        rw [lettersFor, h]
      obtain ⟨hdomain, hraw, hhandled⟩ := handled_foldl_hear receiver
        { w with domain := (w.domain.perform a).2 }
        (lettersFor w.subscriber (a, (w.domain.perform a).1))
      obtain ⟨hrest, hall⟩ := ih (w := w.step receiver (.act a)) (hraw.trans h)
      have hnow : (w.step receiver (.act a)).domain = (w.domain.perform a).2 := hdomain
      have hheard : (w.step receiver (.act a)).handled.map (·.letter) =
          w.handled.map (·.letter) ++ Domain.receivedBy id (a, (w.domain.perform a).1) :=
        hhandled.trans (by rw [hletters])
      rw [hnow] at hrest hall
      refine ⟨hrest, ?_⟩
      rw [hall, hheard, List.append_assoc]
      simp [actions, actionOf?, Domain.run, Domain.received]

/-- So it is with one receiver for all calls. -/
theorem handled_run (receiver : Receiver M) (h : w.subscriber.raw = some id)
    (events : List (Event G M)) :
    (w.run receiver events).domain = (w.domain.run (actions events)).2 ∧
    (w.run receiver events).handled.map (·.letter) =
      w.handled.map (·.letter) ++ Domain.received id (w.domain.run (actions events)).1 :=
  handled_attend (fun _ => receiver) h events

theorem run_append (w : Listening G M) (front back : List (Event G M)) :
    w.run receiver (front ++ back) = (w.run receiver front).run receiver back :=
  List.foldl_append

theorem actions_append (front : List (Event G M)) (back : List (Action G)) :
    actions (front ++ back.map .act) = actions front ++ back := by
  simp [actions, actionOf?, List.filterMap_map, Function.comp_def]

theorem mem_actions {a : Action G} {events : List (Event G M)} (h : a ∈ actions events) :
    .act a ∈ events := by
  obtain ⟨event, hevent, ha⟩ := List.mem_filterMap.mp h
  cases event with
  | act b =>
    cases ha
    exact hevent
  | ask request => cases ha

theorem delivered_receive (d : Dispatcher M) (receiver : Receiver M) (letter : Letter) :
    (d.receive receiver letter.message).2.metrics.delivered = d.metrics.delivered +
      if Handling.isDelivered receiver ⟨letter, (d.receive receiver letter.message).1, d,
        (d.receive receiver letter.message).2⟩ then 1 else 0 := by
  unfold Handling.isDelivered
  cases hd : (Dispatcher.dispatch d.registry letter.message).1 with
  | error e =>
    rw [Dispatcher.receive_of_error hd]
    simp [SubscriberMetrics.delivered_recordFailure]
  | ok value =>
    rw [Dispatcher.receive_of_ok hd]
    cases hf : receiver.failsOnObject value letter.message <;>
      simp [hf, SubscriberMetrics.recordDelivered]

theorem add_count_succ (first : UInt64) (n : Nat) (counted : Bool) :
    first + UInt64.ofNat n + (if counted then 1 else 0) =
      first + UInt64.ofNat (n + if counted then 1 else 0) := by
  rw [UInt64.add_assoc, UInt64.ofNat_add]
  cases counted <;> rfl

/-- What a subscriber has handled is as its dispatcher said, and its counter, which once stood at
`first`, has risen with every object. -/
structure Accounted (receiver : Receiver M) (first : UInt64) (w : Listening G M) : Prop where
  faithful : ∀ h ∈ w.handled, h.Faithful receiver
  delivered : w.subscriber.dispatcher.metrics.delivered =
    first + UInt64.ofNat (w.handled.countP (Handling.isDelivered receiver))

namespace Accounted

variable {first : UInt64}

theorem hear (h : Accounted receiver first w) (letter : Letter) :
    Accounted receiver first (w.hear receiver letter) where
  faithful := by
    intro g hg
    rcases List.mem_append.mp hg with hg | hg
    · exact h.faithful g hg
    · obtain rfl := List.mem_singleton.mp hg
      rfl
  delivered := by
    have hone := delivered_receive w.subscriber.dispatcher receiver letter
    have hold := h.delivered
    simp only [Listening.hear, TypedSubscriber.receive, List.countP_append, List.countP_singleton]
    rw [hone, hold, add_count_succ]

theorem foldl_hear (h : Accounted receiver first w) (letters : List Letter) :
    Accounted receiver first (letters.foldl (Listening.hear receiver) w) := by
  induction letters generalizing w with
  | nil => exact h
  | cons letter letters ih => exact ih (h.hear letter)

theorem step (h : Accounted receiver first w) (event : Event G M) :
    Accounted receiver first (w.step receiver event) := by
  cases event with
  | ask request => exact ⟨h.faithful, h.delivered⟩
  | act a =>
    have hmoved : Accounted receiver first { w with domain := (w.domain.perform a).2 } :=
      ⟨h.faithful, h.delivered⟩
    exact hmoved.foldl_hear _

theorem run (h : Accounted receiver first w) (events : List (Event G M)) :
    Accounted receiver first (w.run receiver events) := by
  induction events generalizing w with
  | nil => exact h
  | cons event events ih => exact ih (h.step event)

end Accounted

end Listening

end TypedBus
