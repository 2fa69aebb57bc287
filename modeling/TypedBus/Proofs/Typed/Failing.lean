import TypedBus.Proofs.Transport.Delivery
import TypedBus.Proofs.Typed.Course

namespace TypedBus

variable {G M : Type}

/-- A call to the receiver of a typed subscriber, and whether the receiver failed in it. -/
structure Call (M : Type) where
  letter : Letter
  call : ReceiverCall M
  failed : Bool

/-- The same call to a receiver that takes everything. -/
def Call.taken (call : Call M) : Call M := { call with failed := false }

/-- The same deed with a receiver that takes everything. -/
def Deed.steady : Deed G M → Deed G M
  | .act _ a => .act {} a
  | deed => deed

/-- A task fails while it holds the lock on the types of the subscriber in a place. -/
def Deed.failsInside (i : Nat) : Deed G M → Bool
  | .ask j .failInside => j = i
  | _ => false

namespace SubscriberMetrics

/-- The counters but for that of the objects that the receiver has taken. -/
def outline (s : SubscriberMetrics) : SubscriberMetrics := { s with delivered := 0 }

theorem outline_recordFailure (s : SubscriberMetrics) (e : TypedError) :
    (s.recordFailure e).outline = s.outline.recordFailure e := by
  cases e <;> rfl

end SubscriberMetrics

namespace TypedSubscriber

variable {s t : TypedSubscriber M}

/-- A subscriber but for what it counts of the objects that its receiver has taken. -/
def outline (s : TypedSubscriber M) : TypedSubscriber M :=
  { s with dispatcher := { s.dispatcher with metrics := s.dispatcher.metrics.outline } }

theorem outline_eq_iff : s.outline = t.outline ↔ s.raw = t.raw ∧ s.channel = t.channel ∧
    s.dispatcher.registry = t.dispatcher.registry ∧
      s.dispatcher.metrics.outline = t.dispatcher.metrics.outline := by
  simp [outline]

def callsFor (receiver : Receiver M) (s : TypedSubscriber M) : List Letter → List (Call M)
  | [] => []
  | letter :: letters =>
    let (call, s) := s.receive receiver letter.message
    ⟨letter, call, receiver.fails letter.message call⟩ :: s.callsFor receiver letters

theorem letters_callsFor (receiver : Receiver M) (s : TypedSubscriber M) (letters : List Letter) :
    (s.callsFor receiver letters).map (·.letter) = letters := by
  induction letters generalizing s with
  | nil => rfl
  | cons letter letters ih => exact congrArg (letter :: ·) (ih _)

theorem ask_outline (h : s.outline = t.outline) (request : Registry.Request M) :
    (s.ask request).outline = (t.ask request).outline := by
  obtain ⟨hraw, hchannel, hregistry, hmetrics⟩ := outline_eq_iff.mp h
  exact outline_eq_iff.mpr ⟨hraw, hchannel, by simp only [ask, hregistry], hmetrics⟩

theorem close_outline (h : s.outline = t.outline) (d : Domain G) :
    (s.close d).1.outline = (t.close d).1.outline ∧ (s.close d).2 = (t.close d).2 := by
  obtain ⟨hraw, hchannel, hregistry, hmetrics⟩ := outline_eq_iff.mp h
  rw [close, close, hraw]
  cases t.raw with
  | none => exact ⟨h, rfl⟩
  | some id => exact ⟨outline_eq_iff.mpr ⟨rfl, hchannel, hregistry, hmetrics⟩, rfl⟩

/-- A message leads to the same call whatever the receiver does, and leaves the same. -/
theorem receive_outline (h : s.outline = t.outline) (receiver other : Receiver M) (m : Message) :
    (s.receive receiver m).1 = (t.receive other m).1 ∧
      (s.receive receiver m).2.outline = (t.receive other m).2.outline := by
  obtain ⟨hraw, hchannel, hregistry, hmetrics⟩ := outline_eq_iff.mp h
  rw [outline_eq_iff]
  simp only [receive]
  cases hd : (Dispatcher.dispatch t.dispatcher.registry m).1 with
  | error e =>
    rw [Dispatcher.receive_of_error (d := s.dispatcher) (hregistry ▸ hd), Dispatcher.receive_of_error hd,
      hregistry]
    simp only [SubscriberMetrics.outline_recordFailure, hmetrics, and_self, and_true]
    exact ⟨trivial, hraw, hchannel⟩
  | ok value =>
    rw [Dispatcher.receive_of_ok (d := s.dispatcher) (hregistry ▸ hd), Dispatcher.receive_of_ok hd,
      hregistry]
    refine ⟨rfl, hraw, hchannel, rfl, ?_⟩
    split <;> split <;> exact hmetrics

def heard (receiver : Receiver M) (s : TypedSubscriber M) (letters : List Letter) : TypedSubscriber M :=
  letters.foldl (fun s letter => (s.receive receiver letter.message).2) s

/-- Several letters lead to the same calls whatever the receiver does, and leave the same. -/
theorem heard_outline (h : s.outline = t.outline) (receiver other : Receiver M)
    (letters : List Letter) :
    (s.heard receiver letters).outline = (t.heard other letters).outline ∧
      (s.callsFor receiver letters).map Call.taken = (t.callsFor other letters).map Call.taken := by
  induction letters generalizing s t with
  | nil => exact ⟨h, rfl⟩
  | cons letter letters ih =>
    obtain ⟨hcall, hleft⟩ := receive_outline h receiver other letter.message
    obtain ⟨hrest, hcalls⟩ := ih hleft
    refine ⟨hrest, ?_⟩
    simp only [callsFor, List.map_cons, hcalls, Call.taken, hcall]

theorem hear_outline (h : s.outline = t.outline) (receiver other : Receiver M)
    (e : Action G × Outcome G) :
    (s.hear receiver e).outline = (t.hear other e).outline ∧
      (s.callsFor receiver (Listening.lettersFor s e)).map Call.taken =
        (t.callsFor other (Listening.lettersFor t e)).map Call.taken := by
  have hletters : Listening.lettersFor s e = Listening.lettersFor t e := by
    rw [Listening.lettersFor, Listening.lettersFor, (outline_eq_iff.mp h).1]
  rw [hear, hear, hletters]
  exact heard_outline h receiver other _

theorem taken_callsFor (s : TypedSubscriber M) (letters : List Letter) :
    (s.callsFor {} letters).map Call.taken = s.callsFor {} letters := by
  induction letters generalizing s with
  | nil => rfl
  | cons letter letters ih =>
    simp only [callsFor, List.map_cons, ih, Call.taken]
    congr 2
    cases (s.receive {} letter.message).1 <;> rfl

end TypedSubscriber

/-- A subscription that is not cancelled stays active and listed, and its receiver is handed what was put
into its queue, in that order. -/
theorem Domain.stays_run {d d' : Domain G} {s : Subscription} {actions : List (Action G)}
    {trace : Trace G} (hrun : d.run actions = (trace, d')) (hactive : d.isActive s.id = true)
    (hlisted : s ∈ d.endpoints.value.subscriptions) (hstay : .unsubscribe s.id ∉ actions) :
    d'.isActive s.id = true ∧ s ∈ d'.endpoints.value.subscriptions ∧
      received s.id trace ++ d'.queue s.id = d.queue s.id ++ sent s.id trace := by
  refine run_induction (P := fun actions trace d' => .unsubscribe s.id ∉ actions →
    d'.isActive s.id = true ∧ s ∈ d'.endpoints.value.subscriptions ∧
      received s.id trace ++ d'.queue s.id = d.queue s.id ++ sent s.id trace) ?_ ?_ hrun hstay
  · exact fun _ => ⟨hactive, hlisted, by simp [received, sent]⟩
  · intro actions trace d₁ a o d₂ _ hs ih hstay
    rw [List.mem_append, List.mem_singleton, not_or] at hstay
    obtain ⟨ha, hl, hfifo⟩ := ih hstay.1
    have hne : a ≠ .unsubscribe s.id := Ne.symm hstay.2
    exact ⟨isActive_step hs ha hne, listed_step hs hl hne, fifo_concat hs ha hne hfifo⟩

namespace Bus

variable {b c : Bus G M} {i : Nat}

/-- A bus but for what its subscribers count of the objects that their receivers have taken. -/
def outline (b : Bus G M) : Bus G M := { b with subscribers := b.subscribers.map (·.outline) }

/-- The calls that the receiver of the subscriber in a place gets in a deed. -/
def callsOf (b : Bus G M) (i : Nat) : Deed G M → List (Call M)
  | .act receiver a =>
    ((b.subscribers[i]?).map fun s =>
      s.callsFor receiver (Listening.lettersFor s (a, (b.domain.perform a).1))).getD []
  | _ => []

/-- The calls that the receiver of the subscriber in a place gets, in the order in which it does. -/
def calls (b : Bus G M) (i : Nat) : List (Deed G M) → List (Call M)
  | [] => []
  | deed :: deeds => b.callsOf i deed ++ (b.step deed).calls i deeds

/-- What is answered to an order to send something: the ticket, or an error. -/
def answersOf (b : Bus G M) : Deed G M → List (Except TypedError Nat)
  | .order j (.sendObject tag? object) =>
    ((b.publishers[j]?).map fun p => (p.sendObject b.domain tag? object).1).toList
  | .order j (.send m) => ((b.publishers[j]?).map fun p => (p.send b.domain m).1).toList
  | _ => []

def answers (b : Bus G M) : List (Deed G M) → List (Except TypedError Nat)
  | [] => []
  | deed :: deeds => b.answersOf deed ++ (b.step deed).answers deeds

theorem outline_eq_iff : b.outline = c.outline ↔ b.domain = c.domain ∧ b.publishers = c.publishers ∧
    b.subscribers.map (·.outline) = c.subscribers.map (·.outline) := by
  simp [outline]

/-- Whoever has a place on one of two buses that look the same has a counterpart on the other one. -/
theorem counterpart (h : b.outline = c.outline) (i : Nat) :
    (b.subscribers[i]? = none ∧ c.subscribers[i]? = none) ∨
    ∃ s t, b.subscribers[i]? = some s ∧ c.subscribers[i]? = some t ∧ s.outline = t.outline := by
  have hplace := congrArg (·[i]?) (outline_eq_iff.mp h).2.2
  simp only [List.getElem?_map] at hplace
  cases hs : b.subscribers[i]? with
  | none =>
    rw [hs] at hplace
    exact .inl ⟨rfl, Option.map_eq_none_iff.mp hplace.symm⟩
  | some s =>
    rw [hs] at hplace
    obtain ⟨t, ht, hst⟩ := Option.map_eq_some_iff.mp hplace.symm
    exact .inr ⟨s, t, rfl, ht, hst.symm⟩

theorem outline_set (h : b.outline = c.outline) {s t : TypedSubscriber M} (hst : s.outline = t.outline)
    (i : Nat) (d : Domain G) :
    outline { b with domain := d, subscribers := b.subscribers.set i s } =
      outline { c with domain := d, subscribers := c.subscribers.set i t } := by
  obtain ⟨-, hpublishers, hsubscribers⟩ := outline_eq_iff.mp h
  exact outline_eq_iff.mpr ⟨rfl, hpublishers, by simp only [List.map_set, hsubscribers, hst]⟩

/-- What a deed leaves does not depend on the receiver. -/
theorem outline_step (h : b.outline = c.outline) (deed : Deed G M) :
    (b.step deed).outline = (c.step deed.steady).outline := by
  obtain ⟨hdomain, hpublishers, hsubscribers⟩ := outline_eq_iff.mp h
  cases deed with
  | advertise | wrap =>
    simp only [step, Deed.steady, hdomain, hpublishers]
    exact outline_eq_iff.mpr ⟨by simp, rfl, hsubscribers⟩
  | order j order =>
    simp only [step, Deed.steady, hdomain, hpublishers]
    cases c.publishers[j]? with
    | none => exact h
    | some p => exact outline_eq_iff.mpr ⟨rfl, rfl, hsubscribers⟩
  | subscribe channel registry running =>
    simp only [step, Deed.steady, hdomain]
    exact outline_eq_iff.mpr ⟨rfl, hpublishers, by simp only [List.map_append, hsubscribers]⟩
  | ask j request =>
    simp only [step, Deed.steady]
    obtain ⟨hs, ht⟩ | ⟨s, t, hs, ht, hst⟩ := counterpart h j
    · simp only [hs, ht, h]
    · simp only [hs, ht, ← hdomain]
      exact outline_set h (TypedSubscriber.ask_outline hst request) j b.domain
  | close j =>
    simp only [step, Deed.steady]
    obtain ⟨hs, ht⟩ | ⟨s, t, hs, ht, hst⟩ := counterpart h j
    · simp only [hs, ht, h]
    · obtain ⟨hleft, hsame⟩ := TypedSubscriber.close_outline hst b.domain
      simp only [hs, ht, ← hdomain, ← hsame]
      exact outline_set h hleft j _
  | act receiver a =>
    simp only [step, Deed.steady, hdomain]
    refine outline_eq_iff.mpr ⟨rfl, hpublishers, List.ext_getElem? fun i => ?_⟩
    simp only [List.getElem?_map]
    obtain ⟨hs, ht⟩ | ⟨s, t, hs, ht, hst⟩ := counterpart h i
    · simp only [hs, ht, Option.map_none]
    · simp only [hs, ht, Option.map_some, (TypedSubscriber.hear_outline hst receiver {} _).1]

theorem actionsOf_steady (h : b.outline = c.outline) (deed : Deed G M) :
    b.actionsOf deed = c.actionsOf deed.steady := by
  obtain ⟨hdomain, hpublishers, hsubscribers⟩ := outline_eq_iff.mp h
  cases deed with
  | advertise | wrap | subscribe | ask | act => rfl
  | order j order => simp only [actionsOf, Deed.steady, hpublishers]
  | close j =>
    simp only [actionsOf, Deed.steady]
    obtain ⟨hs, ht⟩ | ⟨s, t, hs, ht, hst⟩ := counterpart h j
    · rw [hs, ht]
    · simp only [hs, ht, Option.bind_some, (TypedSubscriber.outline_eq_iff.mp hst).1]

theorem answersOf_steady (h : b.outline = c.outline) (deed : Deed G M) :
    b.answersOf deed = c.answersOf deed.steady := by
  obtain ⟨hdomain, hpublishers, -⟩ := outline_eq_iff.mp h
  cases deed with
  | advertise | wrap | subscribe | ask | close | act => rfl
  | order j order => cases order <;> simp only [answersOf, Deed.steady, hpublishers, hdomain]

theorem callsOf_steady (h : b.outline = c.outline) (i : Nat) (deed : Deed G M) :
    c.callsOf i deed.steady = (b.callsOf i deed).map Call.taken := by
  cases deed with
  | advertise | wrap | order | subscribe | ask | close => rfl
  | act receiver a =>
    simp only [callsOf, Deed.steady, (outline_eq_iff.mp h).1]
    obtain ⟨hs, ht⟩ | ⟨s, t, hs, ht, hst⟩ := counterpart h i
    · simp only [hs, ht, Option.map_none, Option.getD_none, List.map_nil]
    · simp only [hs, ht, Option.map_some, Option.getD_some]
      rw [(TypedSubscriber.hear_outline hst receiver {} _).2, TypedSubscriber.taken_callsFor]

theorem outline_run (h : b.outline = c.outline) (deeds : List (Deed G M)) :
    (b.run deeds).outline = (c.run (deeds.map Deed.steady)).outline ∧
      b.actions deeds = c.actions (deeds.map Deed.steady) ∧
      b.answers deeds = c.answers (deeds.map Deed.steady) ∧
      ∀ i, c.calls i (deeds.map Deed.steady) = (b.calls i deeds).map Call.taken := by
  induction deeds generalizing b c with
  | nil => exact ⟨h, rfl, rfl, fun _ => rfl⟩
  | cons deed deeds ih =>
    obtain ⟨hleft, hactions, hanswers, hcalls⟩ := ih (outline_step h deed)
    refine ⟨hleft, ?_, ?_, fun i => ?_⟩
    · simp only [actions, List.map_cons, actionsOf_steady h deed, hactions]
    · simp only [answers, List.map_cons, answersOf_steady h deed, hanswers]
    · simp only [calls, List.map_cons, List.map_append, callsOf_steady h i deed, hcalls i]

/-- No message poisons a registry, whatever its receiver does. -/
theorem poisons_operations (b : Bus G M) (i : Nat) (s : TypedSubscriber M) (deed : Deed G M) :
    (b.operations i s deed).any (·.poisons) = deed.failsInside i := by
  cases deed with
  | advertise | wrap | order | subscribe | close => rfl
  | ask j request =>
    simp only [operations]
    by_cases hj : j = i <;> cases request <;> simp [hj, Deed.failsInside, Registry.Operation.poisons]
  | act receiver a =>
    simp only [operations, TypedSubscriber.lookups, List.any_map]
    exact List.any_eq_false.mpr fun _ _ => Bool.false_ne_true

theorem poisoned_run {s : TypedSubscriber M} (hs : b.subscribers[i]? = some s)
    (deeds : List (Deed G M)) :
    ∃ t, (b.run deeds).subscribers[i]? = some t ∧ t.dispatcher.registry.types.poisoned =
      (s.dispatcher.registry.types.poisoned || deeds.any (·.failsInside i)) := by
  induction deeds generalizing b s with
  | nil => exact ⟨s, hs, (Bool.or_false _).symm⟩
  | cons deed deeds ih =>
    obtain ⟨t, ht, hpoisoned⟩ := ih (subscriber_step hs deed)
    rw [registry_next, Registry.poisoned_run, poisons_operations, Bool.or_assoc] at hpoisoned
    exact ⟨t, ht, hpoisoned⟩

theorem letters_callsOf {s : TypedSubscriber M} {id : PeerId} (hs : b.subscribers[i]? = some s)
    (hraw : s.raw = some id) (deed : Deed G M) :
    (b.callsOf i deed).map (·.letter) =
      Domain.received id (b.domain.run (b.actionsOf deed)).1 := by
  cases deed with
  | advertise | wrap | subscribe | ask => rfl
  | order j order =>
    simp only [callsOf, actionsOf]
    cases b.publishers[j]? with
    | none => rfl
    | some p =>
      rw [Option.bind_some]
      cases p.handsOver? order <;> rfl
  | close j =>
    simp only [callsOf, actionsOf]
    cases b.subscribers[j]? with
    | none => rfl
    | some t =>
      rw [Option.bind_some]
      cases t.raw <;> rfl
  | act receiver a =>
    simp only [callsOf, actionsOf, hs, Option.map_some, Option.getD_some]
    rw [TypedSubscriber.letters_callsFor, Listening.lettersFor, hraw]
    exact (List.append_nil _).symm

/-- The receiver is called once for every letter that is taken off its queue, in that order. -/
theorem letters_calls {s : TypedSubscriber M} {id : PeerId} (hs : b.subscribers[i]? = some s)
    (hraw : s.raw = some id) {deeds : List (Deed G M)} (hstay : .unsubscribe id ∉ b.actions deeds) :
    (b.calls i deeds).map (·.letter) = Domain.received id (b.domain.run (b.actions deeds)).1 := by
  induction deeds generalizing b s with
  | nil => rfl
  | cons deed deeds ih =>
    rw [actions, List.mem_append, not_or] at hstay
    have hopen : deed ≠ .close i := by
      rintro rfl
      exact hstay.1 (by simp [actionsOf, hs, hraw])
    have hrest := ih (subscriber_step hs deed) ((raw_next b i s hopen).trans hraw) hstay.2
    rw [calls, actions, List.map_append, letters_callsOf hs hraw deed, hrest, Domain.run_append,
      Domain.received_append, domain_step]

/-- What the same deeds come to when no receiver fails in them. -/
structure Unimpaired (b : Bus G M) (deeds : List (Deed G M)) : Prop where
  actions : b.actions deeds = b.actions (deeds.map Deed.steady)
  domain : (b.run deeds).domain = (b.run (deeds.map Deed.steady)).domain
  publishers : (b.run deeds).publishers = (b.run (deeds.map Deed.steady)).publishers
  /-- Whoever sends something gets the same answer. -/
  answers : b.answers deeds = b.answers (deeds.map Deed.steady)
  /-- Subscribers differ in nothing but how many objects their receivers have taken. -/
  subscribers : (b.run deeds).subscribers.map (·.outline) =
    (b.run (deeds.map Deed.steady)).subscribers.map (·.outline)
  /-- Every receiver is called with the same, no matter in which of its calls it fails. -/
  calls : ∀ i, b.calls i (deeds.map Deed.steady) = (b.calls i deeds).map Call.taken

theorem unimpaired (b : Bus G M) (deeds : List (Deed G M)) : b.Unimpaired deeds := by
  obtain ⟨hleft, hactions, hanswers, hcalls⟩ := outline_run (rfl : b.outline = b.outline) deeds
  obtain ⟨hdomain, hpublishers, hsubscribers⟩ := outline_eq_iff.mp hleft
  exact ⟨hactions, hdomain, hpublishers, hanswers, hsubscribers, hcalls⟩

/-- A subscription is served: it stays where it is, and its receiver is handed one letter after the other,
first those that were in its queue and then those that were put into it, but for those still in there. -/
structure Serves (b : Bus G M) (deeds : List (Deed G M)) (s : Subscription) : Prop where
  active : (b.run deeds).domain.isActive s.id = true
  listed : s ∈ (b.run deeds).domain.endpoints.value.subscriptions
  inOrder : Domain.received s.id (b.domain.run (b.actions deeds)).1 ++ (b.run deeds).domain.queue s.id =
    b.domain.queue s.id ++ Domain.sent s.id (b.domain.run (b.actions deeds)).1

theorem serves {s : Subscription} (hactive : b.domain.isActive s.id = true)
    (hlisted : s ∈ b.domain.endpoints.value.subscriptions) {deeds : List (Deed G M)}
    (hstay : .unsubscribe s.id ∉ b.actions deeds) : b.Serves deeds s := by
  have hrun : b.domain.run (b.actions deeds) =
      ((b.domain.run (b.actions deeds)).1, (b.run deeds).domain) := by rw [domain_run]
  obtain ⟨ha, hl, horder⟩ := Domain.stays_run hrun hactive hlisted hstay
  exact ⟨ha, hl, horder⟩

end Bus

end TypedBus
