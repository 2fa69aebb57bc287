import TypedBus.Proofs.Registry.Resolve
import TypedBus.Proofs.Transport.Publications
import TypedBus.Proofs.Typed.Listening
import TypedBus.Proofs.Typed.Orders

namespace TypedBus

variable {G M : Type}

/-- A message that says what the type of its object is. -/
def Message.Tagged (m : Message) : Prop := ∃ tag, m.typeTag = some tag ∧ tag ≠ ""

namespace TypedPublisher

variable {p : TypedPublisher} {d : Domain G} {m : Message}

theorem admits_iff : admits m = true ↔ m.Tagged := by
  unfold Message.Tagged admits
  cases ht : m.typeTag with
  | none => simp
  | some tag => by_cases hne : tag = "" <;> simp [hne]

def chosenTag (tag? : Option String) (object : TypedObject) : String :=
  tag?.getD object.schema.name

/-- An empty tag is refused before anything is encoded. -/
theorem prepare_cases (p : TypedPublisher) (tag? : Option String) (object : TypedObject) :
    (chosenTag tag? object = "" ∧ p.prepare tag? object = .error .emptyTypeTag) ∨
    chosenTag tag? object ≠ "" ∧
      ((∃ cause, object.schema.encode object.value = .error cause ∧
        p.prepare tag? object = .error (.encode (chosenTag tag? object) cause)) ∨
      ∃ data, object.schema.encode object.value = .ok data ∧
        p.prepare tag? object =
          .ok ⟨data, p.fixed.insert Message.typeKey (chosenTag tag? object)⟩) := by
  by_cases hempty : chosenTag tag? object = ""
  · have hempty' : tag?.getD object.schema.name = "" := hempty
    exact .inl ⟨hempty, by simp only [prepare, hempty', if_true]⟩
  · have hne : ¬tag?.getD object.schema.name = "" := hempty
    refine .inr ⟨hempty, ?_⟩
    cases he : object.schema.encode object.value with
    | error cause =>
      refine .inl ⟨cause, rfl, ?_⟩
      simp only [prepare, hne, if_false, he]
      rfl
    | ok data =>
      refine .inr ⟨data, rfl, ?_⟩
      simp only [prepare, hne, if_false, he]
      rfl

theorem prepare_eq_ok_iff {tag? : Option String} {object : TypedObject} :
    p.prepare tag? object = .ok m ↔ chosenTag tag? object ≠ "" ∧
      object.schema.encode object.value = .ok m.data ∧
      m.metadata = p.fixed.insert Message.typeKey (chosenTag tag? object) := by
  obtain ⟨hempty, hprepare⟩ | ⟨hne, ⟨cause, hencode, hprepare⟩ | ⟨data, hencode, hprepare⟩⟩ :=
    prepare_cases p tag? object
  · simp [hprepare, hempty]
  · simp [hprepare, hencode]
  · obtain ⟨data', metadata⟩ := m
    simp [hprepare, hencode, hne, eq_comm]

theorem prepare_eq_empty_iff {tag? : Option String} {object : TypedObject} :
    p.prepare tag? object = .error .emptyTypeTag ↔ chosenTag tag? object = "" := by
  obtain ⟨hempty, hprepare⟩ | ⟨hne, ⟨cause, -, hprepare⟩ | ⟨data, -, hprepare⟩⟩ :=
    prepare_cases p tag? object
  · simp [hprepare, hempty]
  · simp [hprepare, hne]
  · simp [hprepare, hne]

theorem prepare_eq_encode_iff {tag? : Option String} {object : TypedObject} {tag : String}
    {cause : CodecError} :
    p.prepare tag? object = .error (.encode tag cause) ↔ tag = chosenTag tag? object ∧
      tag ≠ "" ∧ object.schema.encode object.value = .error cause := by
  obtain ⟨hempty, hprepare⟩ | ⟨hne, ⟨cause', hencode, hprepare⟩ | ⟨data, hencode, hprepare⟩⟩ :=
    prepare_cases p tag? object
  · simp only [hprepare, Except.error.injEq, reduceCtorEq, false_iff]
    rintro ⟨rfl, hne, -⟩
    exact hne hempty
  · simp only [hprepare, hencode, Except.error.injEq, TypedError.encode.injEq]
    constructor
    · rintro ⟨rfl, rfl⟩
      exact ⟨rfl, hne, rfl⟩
    · rintro ⟨rfl, -, rfl⟩
      exact ⟨rfl, rfl⟩
  · simp [hprepare, hencode]

theorem prepare_error {tag? : Option String} {object : TypedObject} {e : TypedError}
    (h : p.prepare tag? object = .error e) : e = .emptyTypeTag ∨ ∃ tag cause, e = .encode tag cause := by
  obtain ⟨-, hprepare⟩ | ⟨-, ⟨cause, -, hprepare⟩ | ⟨data, -, hprepare⟩⟩ :=
    prepare_cases p tag? object
  · exact .inl (Except.error.inj (h.symm.trans hprepare))
  · exact .inr ⟨_, cause, Except.error.inj (h.symm.trans hprepare)⟩
  · exact nomatch h.symm.trans hprepare

theorem tagged_of_prepare {tag? : Option String} {object : TypedObject}
    (h : p.prepare tag? object = .ok m) : m.Tagged := admits_iff.mp (admits_prepare h)

theorem send_ne_missingTypeTag (h : m.Tagged) (p : TypedPublisher) (d : Domain G) :
    (p.send d m).1 ≠ .error .missingTypeTag := by
  simp only [send, admits_iff.mpr h, if_true]
  cases (d.publish p.raw m).1 <;> simp [Except.mapError]

/-- What comes of preparing an object: a message that any publisher sends, with the metadata that are
fixed now and the chosen tag over them, or else the error of an empty tag or that of the codec. -/
structure Prepares (p : TypedPublisher) (tag? : Option String) (object : TypedObject) : Prop where
  message : ∀ m, p.prepare tag? object = .ok m ↔ chosenTag tag? object ≠ "" ∧
    object.schema.encode object.value = .ok m.data ∧
    m.metadata = p.fixed.insert Message.typeKey (chosenTag tag? object)
  sendable : ∀ m, p.prepare tag? object = .ok m → m.Tagged ∧
    ∀ (G : Type) (q : TypedPublisher) (d : Domain G), (q.send d m).1 ≠ .error .missingTypeTag
  empty : p.prepare tag? object = .error .emptyTypeTag ↔ chosenTag tag? object = ""
  unencodable : ∀ tag cause, p.prepare tag? object = .error (.encode tag cause) ↔
    tag = chosenTag tag? object ∧ tag ≠ "" ∧ object.schema.encode object.value = .error cause
  fails : ∀ e, p.prepare tag? object = .error e →
    e = .emptyTypeTag ∨ ∃ tag cause, e = .encode tag cause

theorem prepares (p : TypedPublisher) (tag? : Option String) (object : TypedObject) :
    p.Prepares tag? object where
  message _ := prepare_eq_ok_iff
  sendable _ h := ⟨tagged_of_prepare h, fun _ q d => send_ne_missingTypeTag (tagged_of_prepare h) q d⟩
  empty := prepare_eq_empty_iff
  unencodable _ _ := prepare_eq_encode_iff
  fails _ := prepare_error

def handsOver? (p : TypedPublisher) : Order → Option Message
  | .sendObject tag? object => (p.prepare tag? object).toOption
  | .send m => if admits m then some m else none
  | .putMeta _ _ | .eraseMeta _ | .prepare _ _ => none

theorem tagged_of_handsOver? {order : Order} (h : p.handsOver? order = some m) : m.Tagged := by
  cases order with
  | putMeta | eraseMeta | prepare => cases h
  | sendObject tag? object =>
    simp only [handsOver?] at h
    cases hprepare : p.prepare tag? object with
    | error e =>
      rw [hprepare] at h
      cases h
    | ok m' =>
      rw [hprepare] at h
      cases h
      exact tagged_of_prepare hprepare
  | send m' =>
    simp only [handsOver?] at h
    split at h
    · rename_i hadmits
      cases h
      exact admits_iff.mp hadmits
    · cases h

theorem domain_run_publish (d : Domain G) (publisher : PeerId) (m : Message) :
    (d.run [.publish publisher m]).2 = (d.publish publisher m).2 := by
  simp only [Domain.run, Domain.perform]
  split <;> rename_i heq <;> rw [heq]

/-- The transport hears of an order by what it is given. -/
theorem domain_obey (p : TypedPublisher) (d : Domain G) (order : Order) :
    (p.obey d order).2 = (d.run ((p.handsOver? order).map (.publish p.raw)).toList).2 := by
  cases order with
  | putMeta | eraseMeta | prepare => rfl
  | sendObject tag? object =>
    simp only [obey, handsOver?, sendObject]
    cases hprepare : p.prepare tag? object with
    | error e => rfl
    | ok m =>
      simp only [send, admits_prepare hprepare, if_true]
      exact (domain_run_publish d p.raw m).symm
  | send m =>
    simp only [obey, handsOver?, send]
    split
    · exact (domain_run_publish d p.raw m).symm
    · rfl

end TypedPublisher

namespace TypedSubscriber

def ask (s : TypedSubscriber M) (request : Registry.Request M) : TypedSubscriber M :=
  let registry := (s.dispatcher.registry.perform request).2
  { s with dispatcher := { s.dispatcher with registry } }

/-- The subscriber after an event of the domain, which may hand it a message. -/
def hear (receiver : Receiver M) (e : Action G × Outcome G) (s : TypedSubscriber M) :
    TypedSubscriber M :=
  (Listening.lettersFor s e).foldl (fun s letter => (s.receive receiver letter.message).2) s

end TypedSubscriber

/-- A domain with the typed publishers and subscribers in it, also those that have left. -/
structure Bus (G M : Type) where
  domain : Domain G
  publishers : List TypedPublisher := []
  subscribers : List (TypedSubscriber M) := []

/-- One thing that happens on a bus. Publishers and subscribers are named by their places in the
lists. -/
inductive Deed (G M : Type)
  | advertise (channel : String)
  /-- A typed publisher is put around a publisher that is there already. -/
  | wrap (raw : PeerId)
  | order (publisher : Nat) (order : TypedPublisher.Order)
  | subscribe (channel : String) (registry : Registry M) (running : Bool)
  | ask (subscriber : Nat) (request : Registry.Request M)
  | close (subscriber : Nat)
  /-- Anything in the domain; a message that comes off a queue goes to this receiver. -/
  | act (receiver : Receiver M) (action : Action G)

/-- Nothing is published past the typed publishers. -/
def Deed.Typed : Deed G M → Prop
  | .act _ (.publish _ _) => False
  | _ => True

namespace Bus

def step (b : Bus G M) : Deed G M → Bus G M
  | .advertise channel =>
    let (result, domain) := TypedPublisher.join b.domain channel
    { b with domain, publishers := b.publishers ++ result.toOption.toList }
  | .wrap raw => { b with publishers := b.publishers ++ [{ raw }] }
  | .order i order =>
    match b.publishers[i]? with
    | none => b
    | some p =>
      let (p, domain) := p.obey b.domain order
      { b with domain, publishers := b.publishers.set i p }
  | .subscribe channel registry running =>
    let (result, domain) := TypedSubscriber.join b.domain channel registry running
    { b with domain, subscribers := b.subscribers ++ (result.toOption.map (·.1)).toList }
  | .ask i request =>
    match b.subscribers[i]? with
    | none => b
    | some s => { b with subscribers := b.subscribers.set i (s.ask request) }
  | .close i =>
    match b.subscribers[i]? with
    | none => b
    | some s =>
      let (s, _, domain) := s.close b.domain
      { b with domain, subscribers := b.subscribers.set i s }
  | .act receiver a =>
    let (o, domain) := b.domain.perform a
    { b with domain, subscribers := b.subscribers.map (·.hear receiver (a, o)) }

def run (b : Bus G M) (deeds : List (Deed G M)) : Bus G M := deeds.foldl step b

/-- What a deed comes to in the domain. -/
def actionsOf (b : Bus G M) : Deed G M → List (Action G)
  | .advertise channel => [.advertise channel]
  | .wrap _ => []
  | .order i order =>
    (b.publishers[i]?.bind fun p => (p.handsOver? order).map (.publish p.raw)).toList
  | .subscribe channel _ running => [.subscribe channel running]
  | .ask _ _ => []
  | .close i => (b.subscribers[i]?.bind fun s => s.raw.map .unsubscribe).toList
  | .act _ a => [a]

def actions (b : Bus G M) : List (Deed G M) → List (Action G)
  | [] => []
  | deed :: deeds => b.actionsOf deed ++ (b.step deed).actions deeds

variable {b : Bus G M}

theorem domain_step (b : Bus G M) (deed : Deed G M) :
    (b.step deed).domain = (b.domain.run (b.actionsOf deed)).2 := by
  -- Where the domain answers, both sides go by the same answer.
  cases deed with
  | wrap | act => rfl
  | ask i request =>
    simp only [step, actionsOf]
    cases b.subscribers[i]? <;> rfl
  | advertise channel =>
    simp only [step, actionsOf, TypedPublisher.join, Domain.run, Domain.perform]
    split <;> rename_i heq <;> rw [heq]
  | order i order =>
    simp only [step, actionsOf]
    cases b.publishers[i]? with
    | none => rfl
    | some p => exact p.domain_obey b.domain order
  | subscribe channel registry running =>
    simp only [step, actionsOf, TypedSubscriber.join, Domain.run, Domain.perform]
    split <;> rename_i heq <;> rw [heq]
  | close i =>
    simp only [step, actionsOf]
    cases b.subscribers[i]? with
    | none => rfl
    | some s =>
      simp only [Option.bind_some, TypedSubscriber.close]
      cases s.raw <;> rfl

/-- Typed publishers and subscribers do nothing to the domain but these actions. -/
theorem domain_run (b : Bus G M) (deeds : List (Deed G M)) :
    (b.run deeds).domain = (b.domain.run (b.actions deeds)).2 := by
  induction deeds generalizing b with
  | nil => rfl
  | cons deed deeds ih =>
    change ((b.step deed).run deeds).domain = _
    rw [ih, domain_step, actions, Domain.run_append]

theorem tagged_of_mem_actionsOf {deed : Deed G M} (htyped : deed.Typed) {p : PeerId} {m : Message}
    (h : .publish p m ∈ b.actionsOf deed) : m.Tagged := by
  cases deed with
  | order i order =>
    simp only [actionsOf, Option.mem_toList] at h
    obtain ⟨q, -, h⟩ := Option.bind_eq_some_iff.mp h
    obtain ⟨m', hm', h⟩ := Option.map_eq_some_iff.mp h
    cases h
    exact TypedPublisher.tagged_of_handsOver? hm'
  | act receiver a =>
    obtain rfl := List.mem_singleton.mp h
    cases htyped
  | close i =>
    simp only [actionsOf, Option.mem_toList] at h
    obtain ⟨s, -, h⟩ := Option.bind_eq_some_iff.mp h
    obtain ⟨id, -, h⟩ := Option.map_eq_some_iff.mp h
    cases h
  | advertise | wrap | subscribe | ask => simp [actionsOf] at h

theorem tagged_of_mem_actions {deeds : List (Deed G M)} (htyped : ∀ deed ∈ deeds, deed.Typed)
    {p : PeerId} {m : Message} (h : .publish p m ∈ b.actions deeds) : m.Tagged := by
  induction deeds generalizing b with
  | nil => cases h
  | cons deed deeds ih =>
    rcases List.mem_append.mp h with h | h
    · exact tagged_of_mem_actionsOf (htyped deed List.mem_cons_self) h
    · exact ih (fun deed' hd => htyped deed' (List.mem_cons_of_mem deed hd)) h

end Bus

theorem TypedPublisher.fixed_of_join {d : Domain G} {channel : String} {p : TypedPublisher}
    (h : (join d channel).1.toOption = some p) : p.fixed = ∅ := by
  rw [join] at h
  cases hid : d.advertise channel with
  | mk result d' =>
    rw [hid] at h
    cases result with
    | error e => cases h
    | ok raw =>
      cases h
      rfl

namespace Bus

variable {b : Bus G M} {i : Nat}

/-- The order that a deed gives to the publisher in a place, if there is one. -/
def heard? (b : Bus G M) (i : Nat) : Deed G M → Option TypedPublisher.Order
  | .order j order => if j = i ∧ i < b.publishers.length then some order else none
  | _ => none

/-- The orders that the publisher in a place is given. -/
def ordersTo (i : Nat) (b : Bus G M) : List (Deed G M) → List TypedPublisher.Order
  | [] => []
  | deed :: deeds => (b.heard? i deed).toList ++ ordersTo i (b.step deed) deeds

/-- What the publisher in a place has fixed under a key. -/
def fixedAt (b : Bus G M) (i : Nat) (key : String) : Option String :=
  b.publishers[i]?.bind (·.fixed.get? key)

theorem fixedAt_append {newcomers : List TypedPublisher} (h : ∀ q ∈ newcomers, q.fixed = ∅)
    (key : String) :
    fixedAt { b with publishers := b.publishers ++ newcomers } i key = b.fixedAt i key := by
  simp only [fixedAt]
  rw [List.getElem?_append]
  split
  · rfl
  · rename_i hbeyond
    rw [List.getElem?_eq_none (Nat.not_lt.mp hbeyond)]
    cases hq : newcomers[i - b.publishers.length]? with
    | none => rfl
    | some q =>
      rw [Option.bind_some, h q (List.mem_of_getElem? hq)]
      rfl

theorem fixedAt_order (b : Bus G M) (j : Nat) (order : TypedPublisher.Order) (key : String) :
    (b.step (.order j order)).fixedAt i key =
      ((b.heard? i (.order j order)).bind (·.written? key)).getD (b.fixedAt i key) := by
  simp only [step, heard?]
  cases hp : b.publishers[j]? with
  | none =>
    have hnobody : ¬(j = i ∧ i < b.publishers.length) := by
      rintro ⟨rfl, hlt⟩
      simp [hlt] at hp
    rw [if_neg hnobody]
    rfl
  | some p =>
    have hlt := (List.getElem?_eq_some_iff.mp hp).1
    by_cases hj : j = i
    · subst hj
      rw [if_pos ⟨rfl, hlt⟩]
      simp only [fixedAt, List.getElem?_set_self hlt, hp, Option.bind_some, p.fst_obey, p.get?_heed]
    · simp only [fixedAt, List.getElem?_set_ne hj, hj, false_and, if_false]
      rfl

/-- A deed changes what a publisher has fixed by the order that it gives to it, if it does. -/
theorem fixedAt_step (b : Bus G M) (i : Nat) (deed : Deed G M) (key : String) :
    (b.step deed).fixedAt i key =
      ((b.heard? i deed).bind (·.written? key)).getD (b.fixedAt i key) := by
  cases deed with
  | order j order => exact b.fixedAt_order j order key
  | advertise channel =>
    refine fixedAt_append ?_ key
    exact fun q hq => TypedPublisher.fixed_of_join (Option.mem_toList.mp hq)
  | wrap raw =>
    refine fixedAt_append ?_ key
    intro q hq
    rw [List.mem_singleton.mp hq]
  | ask j request =>
    simp only [step]
    cases b.subscribers[j]? <;> rfl
  | close j =>
    simp only [step]
    cases b.subscribers[j]? <;> rfl
  | subscribe | act => rfl

theorem fixedAt_run (b : Bus G M) (i : Nat) (deeds : List (Deed G M)) (key : String) :
    (b.run deeds).fixedAt i key =
      TypedPublisher.lastUnder key (b.ordersTo i deeds) (b.fixedAt i key) := by
  induction deeds generalizing b with
  | nil => rfl
  | cons deed deeds ih =>
    change ((b.step deed).run deeds).fixedAt i key = _
    rw [ih, fixedAt_step, ordersTo]
    cases b.heard? i deed with
    | none => rfl
    | some order => exact (TypedPublisher.lastUnder_cons _ _ _ _).symm

end Bus

namespace SubscriberMetrics

theorem missingTag_recordFailure (s : SubscriberMetrics) {e : TypedError} (h : e ≠ .missingTypeTag) :
    (s.recordFailure e).missingTag = s.missingTag := by
  cases e with
  | missingTypeTag => exact absurd rfl h
  | _ => rfl

end SubscriberMetrics

theorem Dispatcher.missingTag_receive {m : Message} (h : m.Tagged) (d : Dispatcher M)
    (receiver : Receiver M) :
    (d.receive receiver m).2.metrics.missingTag = d.metrics.missingTag := by
  obtain ⟨tag, htag, hne⟩ := h
  cases hd : (dispatch d.registry m).1 with
  | ok value =>
    rw [receive_of_ok hd]
    cases receiver.failsOnObject value m <;> rfl
  | error e =>
    rw [receive_of_error hd]
    refine SubscriberMetrics.missingTag_recordFailure _ ?_
    intro hmissing
    rcases error_of_tagged htag hne hd with ⟨reason, he⟩ | he | ⟨cause, he⟩
    all_goals
      rw [hmissing] at he
      cases he

namespace TypedSubscriber

variable {d d' : Domain G} {a : Action G} {o : Outcome G} {s : TypedSubscriber M}

theorem missingTag_foldl_receive (receiver : Receiver M) (s : TypedSubscriber M) {letters : List Letter}
    (h : ∀ letter ∈ letters, letter.message.Tagged) :
    (letters.foldl (fun s letter => (s.receive receiver letter.message).2)
      s).dispatcher.metrics.missingTag = s.dispatcher.metrics.missingTag := by
  induction letters generalizing s with
  | nil => rfl
  | cons letter letters ih =>
    rw [List.foldl_cons, ih _ fun l hl => h l (List.mem_cons_of_mem letter hl)]
    exact s.dispatcher.missingTag_receive (h letter List.mem_cons_self) receiver

/-- Where all letters have tags, no subscriber comes to count one without. -/
theorem missingTag_hear (h : d.Carries fun letter => letter.message.Tagged)
    (hs : Domain.Step d a o d') (receiver : Receiver M) (s : TypedSubscriber M) :
    (s.hear receiver (a, o)).dispatcher.metrics.missingTag = s.dispatcher.metrics.missingTag := by
  refine s.missingTag_foldl_receive receiver ?_
  intro letter hl
  unfold Listening.lettersFor at hl
  split at hl
  · cases hl
  · rename_i id _
    exact h.received hs id letter hl

theorem metrics_join {channel : String} {registry : Registry M} {running : Bool}
    (h : ((join d channel registry running).1.toOption.map (·.1)) = some s) :
    s.dispatcher.metrics = {} := by
  unfold join at h
  split at h
  · cases h
  · cases h
    rfl

theorem dispatcher_close (s : TypedSubscriber M) (d : Domain G) :
    (s.close d).1.dispatcher = s.dispatcher := by
  unfold close
  split <;> rfl

end TypedSubscriber

namespace Bus

/-- Nothing on a bus is without a tag, and no subscriber has seen any such thing. -/
structure AllTagged (b : Bus G M) : Prop where
  carried : b.domain.Carries fun letter => letter.message.Tagged
  unseen : ∀ s ∈ b.subscribers, s.dispatcher.metrics.missingTag = 0

namespace AllTagged

variable {b : Bus G M}

theorem unseen_set (h : AllTagged b) {i : Nat} {s s' : TypedSubscriber M}
    (hs : b.subscribers[i]? = some s)
    (hsame : s'.dispatcher.metrics = s.dispatcher.metrics) :
    ∀ t ∈ b.subscribers.set i s', t.dispatcher.metrics.missingTag = 0 := by
  intro t ht
  rcases List.mem_or_eq_of_mem_set ht with ht | rfl
  · exact h.unseen t ht
  · rw [hsame]
    exact h.unseen s (List.mem_of_getElem? hs)

theorem unseen_step (h : AllTagged b) (deed : Deed G M) :
    ∀ s ∈ (b.step deed).subscribers, s.dispatcher.metrics.missingTag = 0 := by
  cases deed with
  | advertise | wrap => exact h.unseen
  | order i order =>
    simp only [Bus.step]
    cases b.publishers[i]? <;> exact h.unseen
  | subscribe channel registry running =>
    intro s hs
    rcases List.mem_append.mp hs with hs | hs
    · exact h.unseen s hs
    · rw [TypedSubscriber.metrics_join (Option.mem_toList.mp hs)]
  | ask i request =>
    simp only [Bus.step]
    cases hs : b.subscribers[i]? with
    | none => exact h.unseen
    | some s => exact h.unseen_set hs rfl
  | close i =>
    simp only [Bus.step]
    cases hs : b.subscribers[i]? with
    | none => exact h.unseen
    | some s => exact h.unseen_set hs (congrArg Dispatcher.metrics (s.dispatcher_close b.domain))
  | act receiver a =>
    intro s hs
    obtain ⟨t, ht, rfl⟩ := List.mem_map.mp hs
    exact (t.missingTag_hear h.carried (Domain.step_perform b.domain a) receiver).trans
      (h.unseen t ht)

theorem step (h : AllTagged b) {deed : Deed G M} (htyped : deed.Typed) : AllTagged (b.step deed) where
  carried := by
    rw [domain_step]
    exact h.carried.run fun p m hm => tagged_of_mem_actionsOf htyped hm
  unseen := h.unseen_step deed

theorem run (h : AllTagged b) {deeds : List (Deed G M)} (htyped : ∀ deed ∈ deeds, deed.Typed) :
    AllTagged (b.run deeds) := by
  induction deeds generalizing b with
  | nil => exact h
  | cons deed deeds ih =>
    exact ih (h.step (htyped deed List.mem_cons_self))
      fun deed' hd => htyped deed' (List.mem_cons_of_mem deed hd)

end AllTagged

end Bus

/-- However typed publishers and their clones are used, the transport is given nothing without a tag,
and nothing that was prepared is refused for the want of one. What is prepared carries the tag and, under
every other key, what the publisher was told last to fix there. So where nothing is published past them, no
subscriber ever counts a message without a tag. -/
theorem typed_publishers_send_tagged_messages (c : TransportConfig) {deeds : List (Deed G M)}
    (htyped : ∀ deed ∈ deeds, deed.Typed) :
    let b : Bus G M := { domain := Domain.start c }
    (b.run deeds).domain = ((Domain.start c).run (b.actions deeds)).2 ∧
    (∀ p m, .publish p m ∈ b.actions deeds → m.Tagged) ∧
    (∀ s ∈ (b.run deeds).subscribers, s.dispatcher.metrics.missingTag = 0) ∧
    (∀ (p : TypedPublisher) (tag? : Option String) (object : TypedObject), p.Prepares tag? object) ∧
    ∀ i p, (b.run deeds).publishers[i]? = some p →
      ∀ tag? object m, p.prepare tag? object = .ok m → ∀ key, m.getMeta key =
        if key = Message.typeKey then some (TypedPublisher.chosenTag tag? object)
        else TypedPublisher.lastUnder key (b.ordersTo i deeds) none := by
  intro b
  have hstart : Bus.AllTagged b := by
    refine ⟨.start c, ?_⟩
    intro s hs
    cases hs
  refine ⟨b.domain_run deeds, fun _ _ => Bus.tagged_of_mem_actions htyped,
    (hstart.run htyped).unseen, TypedPublisher.prepares, ?_⟩
  intro i p hp tag? object m hm key
  have hfixed : p.fixed.get? key = TypedPublisher.lastUnder key (b.ordersTo i deeds) none := by
    have hrun := b.fixedAt_run i deeds key
    rw [Bus.fixedAt, hp] at hrun
    exact hrun
  rw [TypedPublisher.getMeta_prepare hm, hfixed]
  rfl

/-- A publisher whose fixed metadata claim a type is told to send a message without a tag, and then an
object, which a subscriber receives. -/
def sampleDeeds : List (Deed Unit Inbound) :=
  [.advertise "x", .subscribe "x" (Registry.registerType {} (.of .ping)).2 true,
    .order 0 (.putMeta Message.typeKey "Claimed"), .order 0 (.send (.withData [7])),
    .order 0 (.sendObject none ⟨.ping, 7⟩), .act {} (.pass 0 ⟨2⟩), .act {} (.deliver ⟨2⟩)]

theorem typed_publishers_send_tagged_messages_sample :
    let b : Bus Unit Inbound := { domain := Domain.start { wireEncoding := true } }
    (∀ deed ∈ sampleDeeds, deed.Typed) ∧
      (∃ m, (.publish ⟨1⟩ m) ∈ b.actions sampleDeeds ∧ m.typeTag = some "Ping" ∧ m.Tagged) ∧
      (b.run sampleDeeds).subscribers.map (·.dispatcher.metrics) = [{ delivered := 1 }] ∧
      (∀ s ∈ (b.run sampleDeeds).subscribers, s.dispatcher.metrics.missingTag = 0) := by
  intro b
  have htyped : ∀ deed ∈ sampleDeeds, deed.Typed := by
    simp [sampleDeeds, Deed.Typed]
  obtain ⟨-, htagged, hunseen, -, -⟩ :=
    typed_publishers_send_tagged_messages { wireEncoding := true } htyped
  have hactions : b.actions sampleDeeds = [.advertise "x", .subscribe "x" true,
      .publish ⟨1⟩ ⟨[7, 0, 0, 0],
        TextMap.insert (TextMap.insert ∅ Message.typeKey "Claimed") Message.typeKey "Ping"⟩,
      .pass 0 ⟨2⟩, .deliver ⟨2⟩] := rfl
  have hmem := hactions ▸ List.mem_cons_of_mem _ (List.mem_cons_of_mem _ List.mem_cons_self)
  exact ⟨htyped, ⟨_, hmem, by decide +kernel, htagged _ _ hmem⟩, by decide +kernel, hunseen⟩

end TypedBus
