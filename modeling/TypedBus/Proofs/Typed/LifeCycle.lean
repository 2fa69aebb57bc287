import TypedBus.Proofs.Transport.Delivery
import TypedBus.Proofs.Transport.Greetings
import TypedBus.Proofs.Typed.Course

namespace TypedBus

variable {G M : Type}

namespace Domain

variable {d d' : Domain G} {n : Nat} {id : PeerId} {channel : String}

theorem unsubscribe_of_inactive (h : d.isActive id = false) : d.unsubscribe id = ([], d) := by
  rw [unsubscribe, h]
  rfl

theorem isActive_unsubscribe (d : Domain G) (id : PeerId) : (d.unsubscribe id).2.isActive id = false :=
  inactive_of_unsubscribe (step_unsubscribe d id)

/-- Where the endpoints can be got at, the subscription is struck off and the greeters hear of it. -/
theorem unsubscribe_of_open (hactive : d.isActive id = true) (hopen : d.endpoints.poisoned = false)
    {s : Subscription} (hfound : d.endpoints.value.subscription? id = some s) :
    d.unsubscribe id =
      (d.endpoints.value.publishers.filterMap (callFor .farewell s),
        { d with
          endpoints := d.endpoints.store (d.endpoints.value.unsubscribe s)
          inboxes := d.inboxes.filter (·.owner ≠ id)
          metrics := d.metrics.removeSubscriber }) := by
  have hw := write_of_open (d := { d with inboxes := d.inboxes.filter (·.owner ≠ id) }) hopen
  have hcalls : greetings (d.endpoints.value.unsubscribe s) .farewell s =
      d.endpoints.value.publishers.filterMap (callFor .farewell s) := by
    rw [← greetings_eq, greetings, greetings, Endpoints.greeters_unsubscribe]
  rw [← hcalls, unsubscribe, hactive]
  simp only [hw, hfound]
  rfl

theorem unsubscribe_of_poisoned (hactive : d.isActive id = true)
    (hpoisoned : d.endpoints.poisoned = true) :
    d.unsubscribe id = ([], { d with inboxes := d.inboxes.filter (·.owner ≠ id) }) := by
  obtain ⟨e, hw⟩ :=
    write_of_poisoned (d := { d with inboxes := d.inboxes.filter (·.owner ≠ id) }) hpoisoned
  rw [unsubscribe, hactive]
  simp only [hw]
  rfl

/-- A newcomer was not active before, and is active and listed from now on. -/
theorem joined_of_subscribe (hn : Numbered n d) {running : Bool} {greetings : List (Greeting G)}
    (hlt : n + asks (.subscribe channel running : Action G) < 2 ^ 64)
    (h : d.subscribe channel running = (.ok (id, greetings), d')) :
    d.isActive id = false ∧ d'.isActive id = true ∧
      ⟨id, channel⟩ ∈ d'.endpoints.value.subscriptions := by
  have hs := step_subscribe d channel running
  simp only [perform, h] at hs
  have hf : Following ⟨id, channel⟩ [] [] [] [] d' := .join hn hlt hs []
  refine ⟨?_, hf.active, hf.listed⟩
  cases hs with
  | subscribe =>
    rw [← Bool.not_eq_true, isActive_iff]
    exact hn.owners.not_mem (hn.next_eq hlt)
  | idle idle => cases idle

theorem mem_joinedIds_of_active {c : TransportConfig} {actions : List (Action G)} {trace : Trace G}
    (hrun : (start c).run actions = (trace, d)) (h : d.isActive id = true) :
    id ∈ joinedIds trace := by
  by_contra hunknown
  rw [(unknown_run hrun hunknown).2] at h
  cases h

theorem asked_append (front back : List (Action G)) : asked (front ++ back) = asked front + asked back := by
  simp [asked]

/-- Gives a subscription up and lets go of its handle, which then cancels the subscription once more. -/
def letGo (d : Domain G) (id : PeerId) : List (Greeting G) × Domain G :=
  let (greetings, d) := d.unsubscribe id
  let (more, d) := d.unsubscribe id
  (greetings ++ more, d)

theorem letGo_eq (d : Domain G) (id : PeerId) : d.letGo id = d.unsubscribe id := by
  simp only [letGo, unsubscribe_of_inactive (isActive_unsubscribe d id), List.append_nil]

end Domain

namespace TypedSubscriber

/-- What closing a subscriber comes to, and dropping it: its subscription is taken from it and let go. -/
def leave (s : TypedSubscriber M) (d : Domain G) :
    TypedSubscriber M × List (Greeting G) × Domain G :=
  match s.raw with
  | none => (s, [], d)
  | some id => ({ s with raw := none }, d.letGo id)

def leaveTimes (s : TypedSubscriber M) (d : Domain G) :
    Nat → TypedSubscriber M × List (Greeting G) × Domain G
  | 0 => (s, [], d)
  | n + 1 =>
    let (s, greetings, d) := s.leave d
    let (s, more, d) := s.leaveTimes d n
    (s, greetings ++ more, d)

/-- What is done with a subscriber: its registry is asked something, or it leaves. -/
inductive Errand (M : Type)
  | ask (request : Registry.Request M)
  | leave

/-- The answers to a list of errands, and what they leave of the subscriber and the domain. -/
def perform (s : TypedSubscriber M) (d : Domain G) : List (Errand M) →
    List (Except TypedError (Registry.Answer M)) × TypedSubscriber M × Domain G
  | [] => ([], s, d)
  | .ask request :: errands =>
    let answer := (s.dispatcher.registry.perform request).1
    let (answers, s, d) := (s.ask request).perform d errands
    (answer :: answers, s, d)
  | .leave :: errands =>
    let (s, _, d) := s.leave d
    s.perform d errands

def Errand.request? : Errand M → Option (Registry.Request M)
  | .ask request => some request
  | .leave => none

variable {s : TypedSubscriber M}

theorem leave_eq_close (s : TypedSubscriber M) (d : Domain G) : s.leave d = s.close d := by
  rw [leave, close]
  cases s.raw with
  | none => rfl
  | some id => simp only [d.letGo_eq id]

theorem leave_of_none (h : s.raw = none) (d : Domain G) : s.leave d = (s, [], d) := by
  rw [leave, h]

theorem leaveTimes_of_none (h : s.raw = none) (d : Domain G) (n : Nat) :
    s.leaveTimes d n = (s, [], d) := by
  induction n with
  | zero => rfl
  | succ n ih => simp only [leaveTimes, leave_of_none h d, ih, List.append_nil]

theorem leaveTimes_eq (s : TypedSubscriber M) (d : Domain G) (n : Nat) :
    s.leaveTimes d (n + 1) = s.leave d := by
  have hnone : (s.leave d).1.raw = none := by
    rw [leave_eq_close]
    exact (s.close_keeps d).1
  simp only [leaveTimes, leaveTimes_of_none hnone, List.append_nil]

theorem registry_leave (s : TypedSubscriber M) (d : Domain G) :
    (s.leave d).1.dispatcher.registry = s.dispatcher.registry := by
  rw [leave_eq_close]
  exact congrArg Dispatcher.registry (s.dispatcher_close d)

end TypedSubscriber

/-- What a registry answers to some requests, and what they leave of it. -/
def Registry.performAll (r : Registry M) : List (Registry.Request M) →
    List (Except TypedError (Registry.Answer M)) × Registry M
  | [] => ([], r)
  | request :: requests =>
    let (answer, r) := r.perform request
    let (answers, r) := r.performAll requests
    (answer :: answers, r)

/-- The registry answers as if nobody left. -/
theorem TypedSubscriber.perform_eq (s : TypedSubscriber M) (d : Domain G) (errands : List (Errand M)) :
    ((s.perform d errands).1, (s.perform d errands).2.1.dispatcher.registry) =
      s.dispatcher.registry.performAll (errands.filterMap Errand.request?) := by
  induction errands generalizing s d with
  | nil => rfl
  | cons errand errands ih =>
    cases errand with
    | ask request =>
      have hrest := ih (s.ask request) d
      simp only [perform, List.filterMap_cons, Errand.request?, Registry.performAll]
      change _ = (let (answers, r) := (s.ask request).dispatcher.registry.performAll _; (_ :: answers, r))
      rw [← hrest]
    | leave =>
      have hrest := ih (s.leave d).1 (s.leave d).2.2
      rw [s.registry_leave d] at hrest
      exact hrest

namespace Bus

variable {b : Bus G M} {c : TransportConfig} {deeds : List (Deed G M)}

def start (c : TransportConfig) : Bus G M := { domain := Domain.start c }

def record (c : TransportConfig) (deeds : List (Deed G M)) : Domain.Trace G :=
  ((Domain.start c).run ((start c : Bus G M).actions deeds)).1

theorem domain_eq (c : TransportConfig) (deeds : List (Deed G M)) :
    (Domain.start c).run ((start c : Bus G M).actions deeds) =
      (record c deeds, ((start c).run deeds).domain) :=
  Prod.ext rfl (domain_run (start c) deeds).symm

theorem record_concat (c : TransportConfig) (deeds : List (Deed G M)) (deed : Deed G M) :
    record c (deeds ++ [deed]) =
      record c deeds ++
        (((start c : Bus G M).run deeds).domain.run (((start c).run deeds).actionsOf deed)).1 := by
  rw [record, actions_concat, Domain.run_append, domain_eq]

/-- The subscription of a typed subscriber is not cancelled behind its back. -/
def Respects (b : Bus G M) (deed : Deed G M) : Prop :=
  ∀ receiver id, deed = .act receiver (.unsubscribe id) → ∀ s ∈ b.subscribers, s.raw ≠ some id

/-- Nobody but the typed subscribers gets at the subscriptions that they hold. -/
def Private (b : Bus G M) (deeds : List (Deed G M)) : Prop :=
  ∀ before deed after, deeds = before ++ deed :: after → (b.run before).Respects deed

theorem Private.front {front back : List (Deed G M)} (h : b.Private (front ++ back)) :
    b.Private front := by
  rintro before deed after rfl
  exact h before deed (after ++ back) (by simp)

theorem Private.last {deed : Deed G M} (h : b.Private (deeds ++ [deed])) :
    (b.run deeds).Respects deed :=
  h deeds deed [] rfl

/-- A subscription that a typed subscriber holds is active and listed, and no other one holds it. -/
structure Held (b : Bus G M) : Prop where
  active : ∀ (i : Nat) (s : TypedSubscriber M) (id : PeerId), b.subscribers[i]? = some s →
    s.raw = some id → b.domain.isActive id = true
  listed : ∀ (i : Nat) (s : TypedSubscriber M) (id : PeerId), b.subscribers[i]? = some s →
    s.raw = some id → ⟨id, s.channel⟩ ∈ b.domain.endpoints.value.subscriptions
  apart : ∀ (i j : Nat) (s t : TypedSubscriber M) (id : PeerId), b.subscribers[i]? = some s →
    b.subscribers[j]? = some t → s.raw = some id → t.raw = some id → i = j

/-- Who is active stays so, and so does what is listed, unless the deed cancels it. -/
theorem stays_step {deed : Deed G M} {s : Subscription}
    (hactive : b.domain.isActive s.id = true)
    (hlisted : s ∈ b.domain.endpoints.value.subscriptions)
    (hstay : .unsubscribe s.id ∉ b.actionsOf deed) :
    (b.step deed).domain.isActive s.id = true ∧
      s ∈ (b.step deed).domain.endpoints.value.subscriptions := by
  obtain ⟨-, hsame⟩ | ⟨a, hactions, hs⟩ := b.domain_cases deed
  · rw [hsame]
    exact ⟨hactive, hlisted⟩
  · have hne : a ≠ .unsubscribe s.id := by
      rintro rfl
      exact hstay (hactions ▸ List.mem_singleton.mpr rfl)
    exact ⟨Domain.isActive_step hs hactive hne, Domain.listed_step hs hlisted hne⟩

namespace Held

variable {n : Nat} {deed : Deed G M} {i : Nat} {s : TypedSubscriber M} {id : PeerId}

theorem start (c : TransportConfig) : Held (Bus.start c : Bus G M) := by
  refine ⟨?_, ?_, ?_⟩ <;> simp [Bus.start]

theorem not_mem_actionsOf (h : b.Held) (hrespects : b.Respects deed) (hs : b.subscribers[i]? = some s)
    (hraw : s.raw = some id) (hopen : deed ≠ .close i) : .unsubscribe id ∉ b.actionsOf deed := by
  intro hm
  obtain ⟨j, t, rfl, ht, htraw⟩ | ⟨receiver, rfl⟩ := unsubscribe_mem_actionsOf hm
  · exact hopen (congrArg Deed.close (h.apart j i t s id ht hs htraw hraw))
  · exact hrespects receiver id rfl s (List.mem_of_getElem? hs) hraw

theorem keeps (h : b.Held) (hrespects : b.Respects deed) (hs : b.subscribers[i]? = some s)
    (hraw : (b.next i s deed).raw = some id) :
    s.raw = some id ∧ (b.step deed).domain.isActive id = true ∧
      ⟨id, s.channel⟩ ∈ (b.step deed).domain.endpoints.value.subscriptions := by
  have hopen : deed ≠ .close i := by
    rintro rfl
    simp only [next, if_pos, (s.close_keeps b.domain).1] at hraw
    cases hraw
  rw [raw_next b i s hopen] at hraw
  exact ⟨hraw, stays_step (s := ⟨id, s.channel⟩) (h.active i s id hs hraw) (h.listed i s id hs hraw)
    (h.not_mem_actionsOf hrespects hs hraw hopen)⟩

theorem step (h : b.Held) (hn : Domain.Numbered n b.domain) (hrespects : b.Respects deed)
    (hlt : n + Domain.asked (b.actionsOf deed) < 2 ^ 64) : (b.step deed).Held := by
  -- A subscriber was there before, or it has just joined with a subscription of its own.
  have hcases : ∀ {i : Nat} {t : TypedSubscriber M} {id : PeerId},
      (b.step deed).subscribers[i]? = some t → t.raw = some id →
      ((∃ s, b.subscribers[i]? = some s ∧ s.raw = some id) ∨
        (i = b.subscribers.length ∧ b.domain.isActive id = false)) ∧
      (b.step deed).domain.isActive id = true ∧
      ⟨id, t.channel⟩ ∈ (b.step deed).domain.endpoints.value.subscriptions := by
    intro i t id ht hraw
    obtain ⟨s, hs, rfl⟩ | ⟨hi, channel, registry, running, greetings, rfl, hjoin⟩ :=
      subscriber_cases ht
    · obtain ⟨hold, hkept⟩ := h.keeps hrespects hs hraw
      rw [channel_next]
      exact ⟨.inl ⟨s, hs, hold⟩, hkept⟩
    · obtain ⟨id', hsubscribe, rfl⟩ := TypedSubscriber.eq_of_join hjoin
      obtain rfl : id' = id := Option.some.inj hraw
      obtain ⟨hnew, hactive, hlisted⟩ := Domain.joined_of_subscribe hn hlt hsubscribe
      exact ⟨.inr ⟨hi, hnew⟩, hactive, hlisted⟩
  refine ⟨fun i t id ht hraw => (hcases ht hraw).2.1, fun i t id ht hraw => (hcases ht hraw).2.2, ?_⟩
  intro i j t u id ht hu htraw huraw
  rcases (hcases ht htraw).1 with ⟨s, hs, hsraw⟩ | ⟨hi, hinew⟩
  · rcases (hcases hu huraw).1 with ⟨s', hs', hsraw'⟩ | ⟨-, hjnew⟩
    · exact h.apart i j s s' id hs hs' hsraw hsraw'
    · rw [h.active i s id hs hsraw] at hjnew
      cases hjnew
  · rcases (hcases hu huraw).1 with ⟨s', hs', hsraw'⟩ | ⟨hj, -⟩
    · rw [h.active j s' id hs' hsraw'] at hinew
      cases hinew
    · rw [hi, hj]

end Held

theorem held_run (hn : Domain.asked ((start c).actions deeds) < 2 ^ 64)
    (hprivate : (start c : Bus G M).Private deeds) : ((start c).run deeds).Held := by
  induction deeds using List.reverseRecOn with
  | nil => exact .start c
  | append_singleton deeds deed ih =>
    rw [actions_concat, Domain.asked_append] at hn
    rw [run_concat]
    have hr := Domain.recorded_run (domain_eq c deeds) (by omega)
    exact (ih (by omega) hprivate.front).step hr.toNumbered hprivate.last hn

/-- How far the subscriber in a place has got, which joined with a subscription to a channel: it holds it
still, or it has been closed. -/
inductive Life (b : Bus G M) (i : Nat) (id : PeerId) (channel : String) (closed : Prop) : Prop
  | bound {s : TypedSubscriber M} (here : b.subscribers[i]? = some s) (same : s.channel = channel)
      (holds : s.raw = some id) (fresh : ¬closed)
  | unbound {s : TypedSubscriber M} (here : b.subscribers[i]? = some s) (same : s.channel = channel)
      (gone : s.raw = none) (inactive : b.domain.isActive id = false) (ended : closed)

theorem close_step {i : Nat} {s : TypedSubscriber M} (h : b.subscribers[i]? = some s) :
    b.step (.close i) = { b with
      domain := (s.close b.domain).2.2, subscribers := b.subscribers.set i (s.close b.domain).1 } := by
  simp only [step, h]

theorem close_step_of_none {i : Nat} {s : TypedSubscriber M} (h : b.subscribers[i]? = some s)
    (hnone : s.raw = none) : b.step (.close i) = b := by
  have hclose : s.close b.domain = (s, [], b.domain) := by rw [TypedSubscriber.close, hnone]
  obtain ⟨hlt, hget⟩ := List.getElem?_eq_some_iff.mp h
  rw [close_step h, hclose, ← hget, List.set_getElem_self]

/-- Who has gone stays away, since nobody joins twice. -/
theorem inactive_step {n : Nat} {trace : Domain.Trace G} {id : PeerId} {deed : Deed G M}
    (hr : Domain.Recorded n trace b.domain) (hlt : n + Domain.asked (b.actionsOf deed) < 2 ^ 64)
    (hjoined : id ∈ Domain.joinedIds trace) (h : b.domain.isActive id = false) :
    (b.step deed).domain.isActive id = false := by
  obtain ⟨-, hsame⟩ | ⟨a, hactions, hs⟩ := b.domain_cases deed
  · rw [hsame]
    exact h
  · rw [hactions] at hlt
    exact Domain.inactive_step hs h (hr.not_mem_joinedBy hs (by simpa [Domain.asked] using hlt) hjoined)

theorem Life.step {n : Nat} {trace : Domain.Trace G} {i : Nat} {id : PeerId} {channel : String}
    {closed : Prop} {deed : Deed G M} (h : Life b i id channel closed)
    (hr : Domain.Recorded n trace b.domain) (hlt : n + Domain.asked (b.actionsOf deed) < 2 ^ 64)
    (hjoined : id ∈ Domain.joinedIds trace) :
    Life (b.step deed) i id channel (closed ∨ deed = .close i) := by
  cases h with
  | @bound s here same holds fresh =>
    have hchannel := (channel_next b i s deed).trans same
    by_cases hclose : deed = .close i
    · subst hclose
      refine .unbound (subscriber_step here _) hchannel ?_ ?_ (.inr rfl)
      · simp only [next, if_pos, (s.close_keeps b.domain).1]
      · rw [close_step here, TypedSubscriber.close, holds]
        exact Domain.isActive_unsubscribe b.domain id
    · refine .bound (subscriber_step here deed) hchannel ((raw_next b i s hclose).trans holds) ?_
      rintro (hclosed | he)
      · exact fresh hclosed
      · exact hclose he
  | @unbound s here same gone inactive ended =>
    have hraw : (b.next i s deed).raw = none := by
      by_cases hclose : deed = .close i
      · subst hclose
        simp only [next, if_pos, (s.close_keeps b.domain).1]
      · exact (raw_next b i s hclose).trans gone
    exact .unbound (subscriber_step here deed) ((channel_next b i s deed).trans same) hraw
      (inactive_step hr hlt hjoined inactive) (.inl ended)

/-- From when it joins, a subscriber holds its subscription until it is closed. -/
theorem life_run {front back : List (Deed G M)} {channel : String} {registry : Registry M}
    {running : Bool} {s : TypedSubscriber M} {greetings : List (Greeting G)} {d : Domain G} {id : PeerId}
    (hn : Domain.asked ((start c).actions (front ++ .subscribe channel registry running :: back)) < 2 ^ 64)
    (hjoin : TypedSubscriber.join ((start c).run front).domain channel registry running =
      (.ok (s, greetings), d)) (hraw : s.raw = some id) :
    id ∈ Domain.joinedIds (record c (front ++ .subscribe channel registry running :: back)) ∧
    Life ((start c).run (front ++ .subscribe channel registry running :: back))
      ((start c).run front).subscribers.length id channel
      (.close ((start c).run front).subscribers.length ∈ back) := by
  -- on what is done after the joining, which grows at its end
  induction back using List.reverseRecOn with
  | nil =>
    rw [actions_concat, Domain.asked_append] at hn
    obtain ⟨hhere, hdomain⟩ := subscriber_joined hjoin
    obtain ⟨id', hsubscribe, rfl⟩ := TypedSubscriber.eq_of_join hjoin
    obtain rfl : id' = id := Option.some.inj hraw
    have hr := Domain.recorded_run (domain_eq c front) (by omega)
    have hactive := (Domain.joined_of_subscribe hr.toNumbered hn hsubscribe).2.1
    rw [← hdomain, ← run_concat] at hactive
    refine ⟨Domain.mem_joinedIds_of_active (domain_eq c _) hactive, ?_⟩
    rw [run_concat]
    exact .bound hhere rfl rfl List.not_mem_nil
  | append_singleton back deed ih =>
    rw [← List.cons_append, ← List.append_assoc] at hn ⊢
    rw [actions_concat, Domain.asked_append] at hn
    obtain ⟨hjoined, hlife⟩ := ih (by omega)
    have hr := Domain.recorded_run (domain_eq c (front ++ .subscribe channel registry running :: back))
      (by omega)
    refine ⟨?_, ?_⟩
    · rw [record_concat, Domain.joinedIds, List.flatMap_append]
      exact List.mem_append_left _ hjoined
    · have hnext := hlife.step hr hn hjoined
      rw [← run_concat] at hnext
      simpa only [List.mem_append, List.mem_singleton, eq_comm] using hnext

/-- What anybody sees of a subscriber that has joined as `id`. -/
structure Shows (b : Bus G M) (s : TypedSubscriber M) (id : PeerId) (closed : Prop) : Prop where
  state : s.isBound b.domain = true ↔ ¬closed
  identity : s.raw = some id ↔ ¬closed
  nobody : s.raw = none ↔ closed
  listed : s.isBound b.domain = true → ⟨id, s.channel⟩ ∈ b.domain.endpoints.value.subscriptions
  registered : b.domain.endpoints.poisoned = false →
    (s.isBound b.domain = true ↔ id ∈ b.domain.endpoints.value.subscriptions.map (·.id))

theorem Life.shows {i : Nat} {id : PeerId} {channel : String} {closed : Prop}
    (h : Life ((start c).run deeds) i id channel closed) (hheld : ((start c).run deeds).Held)
    (hn : Domain.asked ((start c).actions deeds) < 2 ^ 64) :
    ∃ s, ((start c).run deeds).subscribers[i]? = some s ∧ s.channel = channel ∧
      Shows ((start c).run deeds) s id closed := by
  have hbooks : ((start c).run deeds).domain.endpoints.poisoned = false →
      (((start c).run deeds).domain.isActive id = true ↔
        id ∈ ((start c).run deeds).domain.endpoints.value.subscriptions.map (·.id)) := fun hopen =>
    (Domain.booked_of_open (domain_eq c deeds) hn hopen).active_iff
  cases h with
  | @bound s here same holds fresh =>
    have hactive := hheld.active i s id here holds
    have hbound : s.isBound ((start c).run deeds).domain = true := by
      rw [TypedSubscriber.isBound, holds]
      exact hactive
    refine ⟨s, here, same, iff_of_true hbound fresh, iff_of_true holds fresh, ?_, ?_, ?_⟩
    · exact iff_of_false (by simp [holds]) fresh
    · exact fun _ => hheld.listed i s id here holds
    · exact fun hopen => iff_of_true hbound ((hbooks hopen).mp hactive)
  | @unbound s here same gone inactive ended =>
    have hunbound : ¬s.isBound ((start c).run deeds).domain = true := by
      simp [TypedSubscriber.isBound, gone]
    refine ⟨s, here, same, iff_of_false hunbound (not_not.mpr ended), ?_, iff_of_true gone ended, ?_, ?_⟩
    · exact iff_of_false (by simp [gone]) (not_not.mpr ended)
    · exact fun hbound => absurd hbound hunbound
    · intro hopen
      refine iff_of_false hunbound fun hm => ?_
      rw [(hbooks hopen).mpr hm] at inactive
      cases inactive

end Bus

/-- What it does to leave, once or any number of times, to a subscriber that holds the subscription
`id`. -/
structure TypedSubscriber.Leaves (s : TypedSubscriber M) (d : Domain G) (id : PeerId) : Prop where
  once : ∀ n, s.leaveTimes d (n + 1) = s.leave d
  again : ∀ (d' : Domain G) n, (s.leave d).1.leaveTimes d' n = ((s.leave d).1, [], d')
  subscriber : (s.leave d).1 = { s with raw := none }
  /-- One farewell for every publisher that the subscriber hears and that has a greeter. -/
  farewells : d.endpoints.poisoned = false → (s.leave d).2.1 =
    d.endpoints.value.publishers.filterMap (Domain.callFor .farewell ⟨id, s.channel⟩)
  domain : d.endpoints.poisoned = false → (s.leave d).2.2 =
    { d with
      endpoints := d.endpoints.store (d.endpoints.value.unsubscribe ⟨id, s.channel⟩)
      inboxes := d.inboxes.filter (·.owner ≠ id)
      metrics := d.metrics.removeSubscriber }
  /-- Where nobody gets at the endpoints any more, the subscription only becomes inactive. -/
  poisoned : d.endpoints.poisoned = true →
    (s.leave d).2 = ([], { d with inboxes := d.inboxes.filter (·.owner ≠ id) })

theorem Bus.Held.leaves {n : Nat} {b : Bus G M} (h : b.Held) (hn : Domain.Numbered n b.domain) {i : Nat}
    {s : TypedSubscriber M} (hs : b.subscribers[i]? = some s) {id : PeerId} (hraw : s.raw = some id) :
    s.Leaves b.domain id := by
  have hactive := h.active i s id hs hraw
  have hlisted := h.listed i s id hs hraw
  have hleave : s.leave b.domain = ({ s with raw := none }, b.domain.unsubscribe id) := by
    rw [TypedSubscriber.leave_eq_close, TypedSubscriber.close, hraw]
  have hfound : b.domain.endpoints.value.subscription? id = some ⟨id, s.channel⟩ := by
    cases hfind : b.domain.endpoints.value.subscription? id with
    | none => simpa using List.find?_eq_none.mp hfind _ hlisted
    | some t =>
      have hid := Endpoints.id_of_subscription? hfind
      rw [Endpoints.eq_of_subscription? hn.subscriptions hfind hlisted hid.symm]
  refine ⟨s.leaveTimes_eq b.domain, ?_, ?_, ?_, ?_, ?_⟩
  · intro d' n
    rw [hleave]
    exact TypedSubscriber.leaveTimes_of_none rfl d' n
  · rw [hleave]
  · intro hopen
    rw [hleave, Domain.unsubscribe_of_open hactive hopen hfound]
  · intro hopen
    rw [hleave, Domain.unsubscribe_of_open hactive hopen hfound]
  · intro hpoisoned
    rw [hleave, Domain.unsubscribe_of_poisoned hactive hpoisoned]

/-- After every run in which the identities do not run out: a typed subscriber is bound, and has its
identity, until it is closed for the first time, and never again after that; while the endpoints can be got
at, it is bound exactly if they list it. To leave, by closing or dropping and any number of times, strikes
it off once, with one farewell for every publisher that it heard and that has a greeter, and changes nothing
else; if the lock on the endpoints is poisoned, it only becomes inactive. Without a runtime nobody joins and
nothing changes, and the registry answers the same whether the subscriber has left or not. -/
theorem subscribers_live_until_they_are_closed {c : TransportConfig} {deeds : List (Deed G M)}
    (hn : Domain.asked ((Bus.start c).actions deeds) < 2 ^ 64)
    (hprivate : (Bus.start c : Bus G M).Private deeds) :
    let b := (Bus.start c).run deeds
    (∀ front channel registry running back s₀ greetings d,
      deeds = front ++ .subscribe channel registry running :: back →
      TypedSubscriber.join ((Bus.start c).run front).domain channel registry running =
        (.ok (s₀, greetings), d) →
      let i := ((Bus.start c).run front).subscribers.length
      ∃ id s, s₀.raw = some id ∧ b.subscribers[i]? = some s ∧ s.channel = channel ∧
        b.Shows s id (.close i ∈ back)) ∧
    (∀ i s, b.subscribers[i]? = some s →
      (∀ id, s.raw = some id → s.Leaves b.domain id) ∧ (s.raw = none → b.step (.close i) = b) ∧
      b.step (.close i) = { b with
        domain := (s.leave b.domain).2.2, subscribers := b.subscribers.set i (s.leave b.domain).1 }) ∧
    (∀ (d : Domain G) channel (registry : Registry M),
      TypedSubscriber.join d channel registry false = (.error (.transport .noRuntime), d)) ∧
    ∀ (s : TypedSubscriber M) (d : Domain G) (errands : List (TypedSubscriber.Errand M)),
      ((s.perform d errands).1, (s.perform d errands).2.1.dispatcher.registry) =
        s.dispatcher.registry.performAll (errands.filterMap TypedSubscriber.Errand.request?) := by
  intro b
  have hheld := Bus.held_run hn hprivate
  have hr := Domain.recorded_run (Bus.domain_eq c deeds) hn
  refine ⟨?_, ?_, fun _ _ _ => rfl, TypedSubscriber.perform_eq⟩
  · rintro front channel registry running back s₀ greetings d hdeeds hjoin i
    obtain ⟨id, -, hs₀⟩ := TypedSubscriber.eq_of_join hjoin
    have hraw : s₀.raw = some id := by rw [hs₀]
    rw [hdeeds] at hn
    have hlife := (Bus.life_run hn hjoin hraw).2
    rw [← hdeeds] at hn hlife
    obtain ⟨s, hs, hchannel, hshows⟩ := hlife.shows hheld hn
    exact ⟨id, s, hraw, hs, hchannel, hshows⟩
  · intro i s hs
    refine ⟨fun id hraw => hheld.leaves hr.toNumbered hs hraw, Bus.close_step_of_none hs, ?_⟩
    rw [TypedSubscriber.leave_eq_close]
    exact Bus.close_step hs

def sampleLives : List (Deed String Inbound) :=
  [.advertise "xy", .act {} (.setGreeter ⟨1⟩ (some "desk")), .subscribe "x" {} true,
    .subscribe "" {} true, .close 0, .ask 0 .tags, .close 0]

theorem subscribers_live_until_they_are_closed_sample :
    let b : Bus String Inbound := (Bus.start {}).run sampleLives
    Domain.asked ((Bus.start {}).actions sampleLives) < 2 ^ 64 ∧
      (Bus.start {} : Bus String Inbound).Private sampleLives ∧
      (∃ s, b.subscribers[0]? = some s ∧ s.channel = "x" ∧ b.Shows s ⟨2⟩ True ∧ b.step (.close 0) = b) ∧
      ∃ s, b.subscribers[1]? = some s ∧ s.raw = some ⟨3⟩ ∧ b.Shows s ⟨3⟩ False ∧
        s.Leaves b.domain ⟨3⟩ ∧ (s.leave b.domain).2.1 = [⟨"desk", .farewell, ⟨1⟩, ⟨3⟩⟩] := by
  intro b
  have hn : Domain.asked ((Bus.start {}).actions sampleLives) < 2 ^ 64 := by decide +kernel
  have hprivate : (Bus.start {} : Bus String Inbound).Private sampleLives := by
    rintro before deed after hsplit receiver id rfl
    have hmem : .act receiver (.unsubscribe id) ∈ sampleLives :=
      hsplit ▸ List.mem_append_right before List.mem_cons_self
    simp [sampleLives] at hmem
  obtain ⟨hlives, hleaves, -, -⟩ := subscribers_live_until_they_are_closed hn hprivate
  obtain ⟨id, s, hid, hs, hchannel, hshows⟩ :=
    hlives (sampleLives.take 2) "x" {} true (sampleLives.drop 3) _ _ _ rfl rfl
  obtain ⟨id', s', hid', hs', hchannel', hshows'⟩ :=
    hlives (sampleLives.take 3) "" {} true (sampleLives.drop 4) _ _ _ rfl rfl
  obtain rfl : ⟨2⟩ = id := Option.some.inj hid
  obtain rfl : ⟨3⟩ = id' := Option.some.inj hid'
  have hclosed : (Deed.close 0 ∈ sampleLives.drop 3) = True := eq_true (by simp [sampleLives])
  have hopen : (Deed.close 1 ∈ sampleLives.drop 4) = False := eq_false (by simp [sampleLives])
  change b.Shows s ⟨2⟩ (.close 0 ∈ sampleLives.drop 3) at hshows
  change b.Shows s' ⟨3⟩ (.close 1 ∈ sampleLives.drop 4) at hshows'
  rw [hclosed] at hshows
  rw [hopen] at hshows'
  have hraw := hshows'.identity.mpr not_false
  have hleave := (hleaves 1 s' hs').1 ⟨3⟩ hraw
  refine ⟨hn, hprivate, ⟨s, hs, hchannel, hshows, ?_⟩, s', hs', hraw, hshows', hleave, ?_⟩
  · exact (hleaves 0 s hs).2.1 (hshows.nobody.mpr trivial)
  · rw [hleave.farewells rfl, hchannel']
    rfl

/-- If a task has failed while it held the lock, a subscriber that is closed becomes unbound, but it stays
among the endpoints, is still counted, and the greeter is not called. -/
theorem closing_is_not_noticed_behind_a_poisoned_lock :
    let b : Bus String Inbound := (Bus.start {}).run
      [.advertise "x", .act {} (.setGreeter ⟨1⟩ (some "desk")), .subscribe "x" {} true,
        .act {} .failInside]
    let closed := b.step (.close 0)
    b.subscribers.map (·.isBound b.domain) = [true] ∧
      closed.subscribers.map (·.isBound closed.domain) = [false] ∧
      closed.domain.endpoints.value.subscriptions = [⟨⟨2⟩, "x"⟩] ∧
      closed.domain.metrics.subscribers = 1 ∧
      b.subscribers.flatMap (fun s => (s.leave b.domain).2.1.map (·.greeter)) = [] := by
  decide +kernel

end TypedBus
