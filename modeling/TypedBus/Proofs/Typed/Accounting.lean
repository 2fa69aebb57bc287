import TypedBus.Proofs.Typed.Listening
import TypedBus.Schema

namespace TypedBus

theorem SubscriberMetrics.failures_recordFailure (s : SubscriberMetrics) (e : TypedError) :
    (s.recordFailure e).failures = s.failures + 1 := by
  cases e <;> simp only [recordFailure, failures] <;> ac_rfl

variable {G M : Type}

/-- An error was reported to the receiver. -/
def Handling.isRefused (h : Handling M) : Bool :=
  match h.call with
  | .object _ => false
  | .failure _ => true

/-- An object was handed over, and the receiver failed on it. -/
def Handling.isLost (receiver : Receiver M) (h : Handling M) : Bool :=
  match h.call with
  | .object value => receiver.failsOnObject value h.letter.message
  | .failure _ => false

/-- A call is of one of three kinds. -/
theorem Handling.one_kind (receiver : Receiver M) (h : Handling M) :
    (if h.isDelivered receiver then 1 else 0) + (if h.isRefused then 1 else 0) +
      (if h.isLost receiver then 1 else 0) = 1 := by
  unfold isDelivered isRefused isLost
  cases h.call with
  | object value => cases hf : receiver.failsOnObject value h.letter.message <;> simp [hf]
  | failure e => rfl

/-- How many calls are of some kind, where the receiver takes its call number `n` as
`receivers n` does. -/
def tally (receivers : Nat → Receiver M) (kind : Receiver M → Handling M → Bool)
    (handled : List (Handling M)) : Nat :=
  handled.zipIdx.countP fun (h, n) => kind (receivers n) h

variable {receivers : Nat → Receiver M} {kind : Receiver M → Handling M → Bool}

theorem tally_concat (handled : List (Handling M)) (h : Handling M) :
    tally receivers kind (handled ++ [h]) =
      tally receivers kind handled + if kind (receivers handled.length) h then 1 else 0 := by
  simp [tally, List.zipIdx_append, List.countP_append, List.countP_singleton]

theorem tally_kinds (receivers : Nat → Receiver M) (handled : List (Handling M)) :
    tally receivers Handling.isDelivered handled + tally receivers (fun _ h => h.isRefused) handled +
      tally receivers Handling.isLost handled = handled.length := by
  -- From the end of the list, where calls are added, so that the numbers of the others stay.
  induction handled using List.reverseRecOn with
  | nil => rfl
  | append_singleton handled h ih =>
    have hlast := h.one_kind (receivers handled.length)
    simp only [tally_concat, List.length_append, List.length_singleton]
    omega

namespace Listening

theorem failures_receive (d : Dispatcher M) (receiver : Receiver M) (letter : Letter) :
    (d.receive receiver letter.message).2.metrics.failures = d.metrics.failures +
      if Handling.isRefused ⟨letter, (d.receive receiver letter.message).1, d,
        (d.receive receiver letter.message).2⟩ then 1 else 0 := by
  unfold Handling.isRefused
  cases hd : (Dispatcher.dispatch d.registry letter.message).1 with
  | error e =>
    rw [Dispatcher.receive_of_error hd]
    simp [SubscriberMetrics.failures_recordFailure]
  | ok value =>
    rw [Dispatcher.receive_of_ok hd]
    cases receiver.failsOnObject value letter.message <;>
      simp [SubscriberMetrics.recordDelivered, SubscriberMetrics.failures]

theorem lettersFor_cases (sub : TypedSubscriber M) (e : Action G × Outcome G) :
    lettersFor sub e = [] ∨ ∃ letter, lettersFor sub e = [letter] := by
  unfold lettersFor Domain.receivedBy
  grind

/-- The counters of a subscriber, which once stood at `first`, say what has become of the messages that
it has handled. -/
structure Counts (receivers : Nat → Receiver M) (first : SubscriberMetrics) (w : Listening G M) :
    Prop where
  faithful : ∀ n (h : Handling M), w.handled[n]? = some h → h.Faithful (receivers n)
  delivered : w.subscriber.dispatcher.metrics.delivered =
    first.delivered + UInt64.ofNat (tally receivers Handling.isDelivered w.handled)
  failures : w.subscriber.dispatcher.metrics.failures =
    first.failures + UInt64.ofNat (tally receivers (fun _ h => h.isRefused) w.handled)

namespace Counts

variable {first : SubscriberMetrics} {w : Listening G M}

theorem hear (h : Counts receivers first w) (letter : Letter) :
    Counts receivers first (w.hear (receivers w.handled.length) letter) where
  faithful := by
    intro n g hg
    change (w.handled ++ [_])[n]? = some g at hg
    rcases Nat.lt_trichotomy n w.handled.length with hlt | rfl | hgt
    · rw [List.getElem?_append_left hlt] at hg
      exact h.faithful n g hg
    · rw [List.getElem?_concat_length] at hg
      obtain rfl := Option.some.inj hg
      rfl
    · rw [List.getElem?_eq_none (by simp; omega)] at hg
      cases hg
  delivered := by
    have hone := delivered_receive w.subscriber.dispatcher (receivers w.handled.length) letter
    have hold := h.delivered
    simp only [Listening.hear, TypedSubscriber.receive, tally_concat]
    rw [hone, hold, add_count_succ]
  failures := by
    have hone := failures_receive w.subscriber.dispatcher (receivers w.handled.length) letter
    have hold := h.failures
    simp only [Listening.hear, TypedSubscriber.receive, tally_concat]
    rw [hone, hold, add_count_succ]

/-- No event hands out more than one letter, so the receiver of an event is that of its call. -/
theorem step (h : Counts receivers first w) (event : Event G M) :
    Counts receivers first (w.step (receivers w.handled.length) event) := by
  cases event with
  | ask request => exact ⟨h.faithful, h.delivered, h.failures⟩
  | act a =>
    have hmoved : Counts receivers first { w with domain := (w.domain.perform a).2 } :=
      ⟨h.faithful, h.delivered, h.failures⟩
    obtain hnone | ⟨letter, hone⟩ :=
      lettersFor_cases w.subscriber (a, (w.domain.perform a).1)
    · simp only [Listening.step, hnone]
      exact hmoved
    · simp only [Listening.step, hone]
      exact hmoved.hear letter

theorem attend (h : Counts receivers first w) (events : List (Event G M)) :
    Counts receivers first (w.attend receivers events) := by
  induction events generalizing w with
  | nil => exact h
  | cons event events ih => exact ih (h.step event)

/-- The counters and what was lost make up what was handled. -/
theorem balance (h : Counts receivers first w) :
    w.subscriber.dispatcher.metrics.delivered + w.subscriber.dispatcher.metrics.failures +
        UInt64.ofNat (tally receivers Handling.isLost w.handled) =
      first.delivered + first.failures + UInt64.ofNat w.handled.length := by
  rw [h.delivered, h.failures, ← tally_kinds receivers w.handled, UInt64.ofNat_add,
    UInt64.ofNat_add]
  ac_rfl

theorem sum_eq_iff (h : Counts receivers first w) (hbound : w.handled.length < 2 ^ 64) :
    w.subscriber.dispatcher.metrics.delivered + w.subscriber.dispatcher.metrics.failures =
        first.delivered + first.failures + UInt64.ofNat w.handled.length ↔
      tally receivers Handling.isLost w.handled = 0 := by
  have hkinds := tally_kinds receivers w.handled
  -- Only as long as the counters do not wrap can nothing lost be told from many lost.
  have hlost : tally receivers Handling.isLost w.handled < 2 ^ 64 := by omega
  rw [← h.balance, UInt64.left_eq_add, UInt64.ofNat_eq_iff_mod_eq_toNat, Nat.mod_eq_of_lt hlost]
  rfl

end Counts

end Listening

/-- Whatever a receiver does in its calls, a subscriber's counters rise by the messages whose objects it
has taken and by the errors that were reported to it. So they account for every message that came off
the queue but those that the receiver was handed as objects and failed on. -/
theorem messages_are_counted_or_lost (receivers : Nat → Receiver M) (d : Domain G)
    {sub : TypedSubscriber M} {id : PeerId} (hraw : sub.raw = some id) (events : List (Event G M)) :
    let w := Listening.attend receivers ⟨d, sub, []⟩ events
    let taken := Domain.received id (d.run (Listening.actions events)).1
    let before := sub.dispatcher.metrics
    let after := w.subscriber.dispatcher.metrics
    let lost := tally receivers Handling.isLost w.handled
    w.handled.map (·.letter) = taken ∧
    (∀ n h, w.handled[n]? = some h → Handling.Faithful (receivers n) h) ∧
    after.delivered =
      before.delivered + UInt64.ofNat (tally receivers Handling.isDelivered w.handled) ∧
    after.failures =
      before.failures + UInt64.ofNat (tally receivers (fun _ h => h.isRefused) w.handled) ∧
    after.delivered + after.failures + UInt64.ofNat lost =
      before.delivered + before.failures + UInt64.ofNat taken.length ∧
    (taken.length < 2 ^ 64 →
      (after.delivered + after.failures =
        before.delivered + before.failures + UInt64.ofNat taken.length ↔ lost = 0)) := by
  intro w taken before after lost
  obtain ⟨-, hhandled⟩ := Listening.handled_attend receivers (w := ⟨d, sub, []⟩) hraw events
  have hlength : w.handled.length = taken.length := by
    have hlengths := congrArg List.length hhandled
    rwa [List.length_map] at hlengths
  have hfresh : Listening.Counts receivers before (⟨d, sub, []⟩ : Listening G M) := by
    refine ⟨?_, ?_, ?_⟩
    · intro n h hh
      cases hh
    · simp [before, tally]
    · simp [before, tally]
  have hcounts : Listening.Counts receivers before w := hfresh.attend events
  rw [← hlength]
  exact ⟨hhandled, hcounts.faithful, hcounts.delivered, hcounts.failures, hcounts.balance,
    hcounts.sum_eq_iff⟩

def listener : TypedSubscriber Inbound where
  raw := some ⟨2⟩
  channel := "x"
  dispatcher := { registry := (Registry.registerType {} (.of .ping)).2 }

def listened : Domain Unit := ((Domain.start {}).run [.advertise "x", .subscribe "x" true]).2

def heard (ticket : Nat) (m : Message) : List (Event Unit Inbound) :=
  [.act (.publish ⟨1⟩ m), .act (.pass ticket ⟨2⟩), .act (.deliver ⟨2⟩)]

def ping : Message := (Message.withData [7, 0, 0, 0]).setTypeTag "Ping"

/-- A receiver that fails on the first object and takes the others. -/
def failsOnce (n : Nat) : Receiver Inbound := { failsOnObject := fun _ _ => n == 0 }

theorem messages_are_counted_or_lost_sample :
    let events := heard 0 ping ++ heard 1 (Message.withData []) ++ heard 2 ping
    let w := Listening.attend failsOnce ⟨listened, listener, []⟩ events
    listener.raw = some ⟨2⟩ ∧
      w.subscriber.dispatcher.metrics = { delivered := 1, missingTag := 1 } ∧
      tally failsOnce Handling.isLost w.handled = 1 ∧
      w.subscriber.dispatcher.metrics.delivered + w.subscriber.dispatcher.metrics.failures + 1 = 3 ∧
      w.subscriber.dispatcher.metrics.delivered + w.subscriber.dispatcher.metrics.failures ≠ 3 := by
  intro events w
  have hraw : listener.raw = some ⟨2⟩ := rfl
  obtain ⟨-, -, -, -, hbalance, hexact⟩ :=
    messages_are_counted_or_lost failsOnce listened hraw events
  have htaken : (Domain.received ⟨2⟩ (listened.run (Listening.actions events)).1).length = 3 := by
    decide +kernel
  have hlost : tally failsOnce Handling.isLost w.handled = 1 := by decide +kernel
  rw [htaken] at hbalance hexact
  rw [hlost] at hbalance hexact
  refine ⟨hraw, by decide +kernel, hlost, hbalance, ?_⟩
  intro hsum
  exact absurd ((hexact (by decide)).mp hsum) (by decide)

/-- A message that is decoded and handed over is in no counter if the receiver fails on it. -/
theorem object_goes_uncounted :
    let w := Listening.attend failsOnce ⟨listened, listener, []⟩ (heard 0 ping)
    let taken := Domain.received ⟨2⟩ (listened.run (Listening.actions (heard 0 ping))).1
    taken.length = 1 ∧ tally failsOnce Handling.isLost w.handled = 1 ∧
      w.subscriber.dispatcher.metrics.delivered + w.subscriber.dispatcher.metrics.failures ≠
        UInt64.ofNat taken.length := by
  decide +kernel

end TypedBus
