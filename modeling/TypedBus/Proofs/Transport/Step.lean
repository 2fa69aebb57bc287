import Mathlib.Data.List.Induction
import TypedBus.Proofs.Frame.RoundTrip
import TypedBus.Transport.Action

namespace TypedBus

/-- Whether an action uses up an identity, be it in vain. -/
def Action.asksId {G : Type} : Action G → Bool
  | .advertise _ => true
  | .subscribe _ running => running
  | _ => false

namespace Domain

variable {G : Type} {d d' : Domain G}

theorem read_of_open (h : d.endpoints.poisoned = false) : d.read = .ok d.endpoints.value := by
  simp [read, Guarded.read, h, Except.mapError]

/-- The endpoints are behind a poisoned lock. -/
def unreadable : TransportError := .poisoned s!"获取读锁失败: {Guarded.poisonText}"

theorem read_of_poisoned (h : d.endpoints.poisoned = true) : d.read = .error unreadable := by
  simp [read, Guarded.read, h, Except.mapError, unreadable]

theorem write_of_open (h : d.endpoints.poisoned = false) : d.write = .ok d.endpoints.value := by
  simp [write, Guarded.write, h, Except.mapError]

theorem write_of_poisoned (h : d.endpoints.poisoned = true) : ∃ e, d.write = .error e := by
  simp [write, Guarded.write, h, Except.mapError]

theorem isActive_iff {id : PeerId} : d.isActive id = true ↔ id ∈ d.inboxes.map (·.owner) := by
  simp only [isActive, inbox?, List.find?_isSome, List.mem_map, decide_eq_true_eq]

theorem reframe_eq_ok {m m' : Message} (h : reframe m = .ok m') : m' = m := by
  simp only [reframe] at h
  split at h
  · cases h
  · rename_i frame hf
    rw [Frame.decode_encode hf] at h
    cases h
    rfl

theorem accept_eq_ok {config : TransportConfig} {m m' : Message} (h : accept config m = .ok m') :
    m' = m := by
  simp only [accept] at h
  split at h
  · cases h
  · split at h
    · exact reframe_eq_ok h
    · cases h
      rfl

/-- What is neither too long for a payload nor, where frames are in use, for a frame is accepted. -/
theorem accept_of_fits {config : TransportConfig} {m : Message}
    (hsize : m.size ≤ config.maxPayloadSize.toNat)
    (hframe : config.wireEncoding = true → ∃ size, Frame.bodySize m = .ok size) :
    accept config m = .ok m := by
  simp only [accept, Nat.not_lt.mpr hsize, if_false]
  split
  · rename_i hwire
    obtain ⟨size, hbody⟩ := hframe hwire
    have hlimits := (Frame.bodySize_eq_ok_iff.mp hbody).1
    have hencode := Frame.encode_eq_ok_iff.mpr ⟨hlimits, rfl⟩
    simp only [reframe, hencode, Frame.decode_encode hencode]
  · rfl

/-- The publications that a letter with its routes makes: none without a route. -/
def publicationsOf (letter : Letter) (routes : List PeerId) : List Publication :=
  if routes = [] then [] else [⟨letter, routes⟩]

/-- The actions that leave a domain as it is, with what comes of them. -/
inductive Idle (d : Domain G) : Action G → Outcome G → Prop
  | withdraw {id : PeerId}
      (absent : d.endpoints.poisoned = false → d.endpoints.value.publisher? id = none) :
      Idle d (.withdraw id) .silent
  | setGreeter {id : PeerId} {greeter : Option G} (poisoned : d.endpoints.poisoned = true) :
      Idle d (.setGreeter id greeter) .silent
  | subscribe {channel : String} {e : TransportError} :
      Idle d (.subscribe channel false) (.refused e)
  | unsubscribe {id : PeerId} (inactive : d.isActive id = false) : Idle d (.unsubscribe id) (.gone [])
  | publish {id : PeerId} {m : Message} {e : TransportError} : Idle d (.publish id m) (.refused e)
  | pass {ticket : Nat} {route : PeerId} : Idle d (.pass ticket route) .silent
  | wait {ticket : Nat} {route : PeerId} {letter : Letter} :
      Idle d (.pass ticket route) (.passed letter .waiting)
  | deliver {id : PeerId} (empty : d.queue id = []) : Idle d (.deliver id) .silent

/-- One step of a domain. -/
inductive Step (d : Domain G) : Action G → Outcome G → Domain G → Prop
  | idle {a : Action G} {o : Outcome G} (idle : Idle d a o) : Step d a o d
  /-- A poisoned lock keeps newcomers out, but their identity is used up. -/
  | shutOut {a : Action G} {e : TransportError} (asks : a.asksId = true)
      (poisoned : d.endpoints.poisoned = true) :
      Step d a (.refused e) { d with nextId := d.nextId.next }
  | advertise {channel : String} (unpoisoned : d.endpoints.poisoned = false) :
      Step d (.advertise channel) (.joined d.nextId [])
        { d with
          nextId := d.nextId.next
          endpoints := d.endpoints.store (d.endpoints.value.advertise d.nextId channel)
          metrics := d.metrics.addPublisher }
  | withdraw {id : PeerId} {p : Advertisement G} (unpoisoned : d.endpoints.poisoned = false)
      (found : d.endpoints.value.publisher? id = some p) :
      Step d (.withdraw id) .silent
        { d with
          endpoints := d.endpoints.store (d.endpoints.value.withdraw id)
          metrics := d.metrics.removePublisher }
  | setGreeter {id : PeerId} {greeter : Option G} (unpoisoned : d.endpoints.poisoned = false) :
      Step d (.setGreeter id greeter) .silent
        { d with endpoints := d.endpoints.store (d.endpoints.value.setGreeter id greeter) }
  | subscribe {channel : String} (unpoisoned : d.endpoints.poisoned = false) :
      Step d (.subscribe channel true)
        (.joined d.nextId
          (greetings (d.endpoints.value.subscribe d.nextId channel) .welcome ⟨d.nextId, channel⟩))
        { d with
          nextId := d.nextId.next
          endpoints := d.endpoints.store (d.endpoints.value.subscribe d.nextId channel)
          inboxes := d.inboxes ++ [{ owner := d.nextId }]
          metrics := d.metrics.addSubscriber }
  /-- The end of a subscription that the endpoints do not hear of. -/
  | cut {id : PeerId} (active : d.isActive id = true)
      (unlisted : d.endpoints.poisoned = false → d.endpoints.value.subscription? id = none) :
      Step d (.unsubscribe id) (.gone []) { d with inboxes := d.inboxes.filter (·.owner ≠ id) }
  | unsubscribe {id : PeerId} {s : Subscription} (active : d.isActive id = true)
      (unpoisoned : d.endpoints.poisoned = false)
      (found : d.endpoints.value.subscription? id = some s) :
      Step d (.unsubscribe id) (.gone (greetings (d.endpoints.value.unsubscribe s) .farewell s))
        { d with
          endpoints := d.endpoints.store (d.endpoints.value.unsubscribe s)
          inboxes := d.inboxes.filter (·.owner ≠ id)
          metrics := d.metrics.removeSubscriber }
  | publish {id : PeerId} {m : Message} {channel : String} (unpoisoned : d.endpoints.poisoned = false)
      (found : d.channelOf? id = some channel) (accepted : accept d.config m = .ok m) :
      Step d (.publish id m) (.started d.nextTicket)
        { d with
          nextTicket := d.nextTicket + 1
          publications := d.publications ++
            publicationsOf ⟨d.nextTicket, id, m⟩ (d.endpoints.value.routes channel)
          metrics := d.metrics.recordPublished m.size }
  | queue {ticket : Nat} {route : PeerId} {p : Publication}
      (found : d.publication? ticket = some p) (routed : route ∈ p.routes)
      (active : d.isActive route = true) (room : (d.queue route).length < d.capacity) :
      Step d (.pass ticket route) (.passed p.letter .queued)
        { d.setQueue route (d.queue route ++ [p.letter]) with
          publications := clearRoute d.publications ticket route
          metrics := d.metrics.recordDelivery }
  | drop {ticket : Nat} {route : PeerId} {p : Publication}
      (found : d.publication? ticket = some p) (routed : route ∈ p.routes)
      (inactive : d.isActive route = false) :
      Step d (.pass ticket route) (.passed p.letter .dropped)
        { d with
          publications := clearRoute d.publications ticket route
          metrics := d.metrics.recordDropped }
  | deliver {id : PeerId} {letter : Letter} {rest : List Letter} (first : d.queue id = letter :: rest) :
      Step d (.deliver id) (.delivered letter) (d.setQueue id rest)
  | failInside : Step d .failInside .silent d.failInside

theorem step_advertise (d : Domain G) (channel : String) :
    Step d (.advertise channel) (d.perform (.advertise channel)).1
      (d.perform (.advertise channel)).2 := by
  cases hp : d.endpoints.poisoned with
  | false =>
    have hw := write_of_open (d := { d with nextId := d.nextId.next }) hp
    simp only [perform, Domain.advertise, hw]
    exact .advertise hp
  | true =>
    obtain ⟨e, hw⟩ := write_of_poisoned (d := { d with nextId := d.nextId.next }) hp
    simp only [perform, Domain.advertise, hw]
    exact .shutOut rfl hp

theorem step_withdraw (d : Domain G) (id : PeerId) :
    Step d (.withdraw id) .silent (d.withdraw id) := by
  cases hp : d.endpoints.poisoned with
  | false =>
    simp only [Domain.withdraw, write_of_open hp]
    cases hf : d.endpoints.value.publisher? id with
    | none => exact .idle (.withdraw fun _ => hf)
    | some p => exact .withdraw hp hf
  | true =>
    obtain ⟨e, hw⟩ := write_of_poisoned hp
    simp only [Domain.withdraw, hw]
    exact .idle (.withdraw fun h => by rw [hp] at h; cases h)

theorem step_setGreeter (d : Domain G) (id : PeerId) (greeter : Option G) :
    Step d (.setGreeter id greeter) .silent (d.setGreeter id greeter) := by
  cases hp : d.endpoints.poisoned with
  | false =>
    simp only [Domain.setGreeter, write_of_open hp]
    exact .setGreeter hp
  | true =>
    obtain ⟨e, hw⟩ := write_of_poisoned hp
    simp only [Domain.setGreeter, hw]
    exact .idle (.setGreeter hp)

theorem step_subscribe (d : Domain G) (channel : String) (running : Bool) :
    Step d (.subscribe channel running) (d.perform (.subscribe channel running)).1
      (d.perform (.subscribe channel running)).2 := by
  cases running with
  | false => exact .idle .subscribe
  | true =>
    cases hp : d.endpoints.poisoned with
    | false =>
      have hw := write_of_open (d := { d with nextId := d.nextId.next }) hp
      simp only [perform, Domain.subscribe, hw]
      exact .subscribe hp
    | true =>
      obtain ⟨e, hw⟩ := write_of_poisoned (d := { d with nextId := d.nextId.next }) hp
      simp only [perform, Domain.subscribe, hw]
      exact .shutOut rfl hp

theorem step_unsubscribe (d : Domain G) (id : PeerId) :
    Step d (.unsubscribe id) (.gone (d.unsubscribe id).1) (d.unsubscribe id).2 := by
  cases ha : d.isActive id with
  | false =>
    simp only [Domain.unsubscribe, ha]
    exact .idle (.unsubscribe ha)
  | true =>
    cases hp : d.endpoints.poisoned with
    | false =>
      have hw := write_of_open (d := { d with inboxes := d.inboxes.filter (·.owner ≠ id) }) hp
      simp only [Domain.unsubscribe, ha, hw]
      cases hf : d.endpoints.value.subscription? id with
      | none => exact .cut ha fun _ => hf
      | some s => exact .unsubscribe ha hp hf
    | true =>
      obtain ⟨e, hw⟩ :=
        write_of_poisoned (d := { d with inboxes := d.inboxes.filter (·.owner ≠ id) }) hp
      simp only [Domain.unsubscribe, ha, hw]
      exact .cut ha fun h => by rw [hp] at h; cases h

theorem step_publish (d : Domain G) (id : PeerId) (m : Message) :
    Step d (.publish id m) (d.perform (.publish id m)).1 (d.perform (.publish id m)).2 := by
  simp only [perform, Domain.publish]
  cases hc : d.channelOf? id with
  | none => exact .idle .publish
  | some channel =>
    cases ha : accept d.config m with
    | error e => exact .idle .publish
    | ok m' =>
      obtain rfl := accept_eq_ok ha
      cases hp : d.endpoints.poisoned with
      | false =>
        have hs := Step.publish (d := d) hp hc ha
        simp only [read_of_open hp]
        cases hr : d.endpoints.value.routes channel with
        | nil => simpa only [hr, publicationsOf, if_true] using hs
        | cons route routes =>
          simpa only [hr, publicationsOf, reduceCtorEq, if_false] using hs
      | true =>
        simp only [read_of_poisoned hp]
        exact .idle .publish

theorem step_pass (d : Domain G) (ticket : Nat) (route : PeerId) :
    Step d (.pass ticket route) (d.perform (.pass ticket route)).1
      (d.perform (.pass ticket route)).2 := by
  simp only [perform, Domain.pass]
  cases hf : d.publication? ticket with
  | none => exact .idle .pass
  | some p =>
    by_cases hr : route ∈ p.routes
    · cases hb : d.inbox? route with
      | none =>
        have ha : d.isActive route = false := by rw [isActive, hb]; rfl
        simp only [hr, not_true_eq_false, if_false]
        exact .drop hf hr ha
      | some inbox =>
        have ha : d.isActive route = true := by rw [isActive, hb]; rfl
        have hq : d.queue route = inbox.queue := by rw [Domain.queue, hb]; rfl
        by_cases hroom : inbox.queue.length < d.capacity
        · have hs := Step.queue hf hr ha (hq ▸ hroom)
          simp only [hr, not_true_eq_false, if_false, hroom, if_true]
          rw [hq] at hs
          exact hs
        · simp only [hr, not_true_eq_false, if_false, hroom]
          exact .idle .wait
    · simp only [hr, not_false_eq_true, if_true]
      exact .idle .pass

theorem step_deliver (d : Domain G) (id : PeerId) :
    Step d (.deliver id) (d.perform (.deliver id)).1 (d.perform (.deliver id)).2 := by
  simp only [perform, Domain.deliver]
  cases hq : d.queue id with
  | nil => exact .idle (.deliver hq)
  | cons letter rest => exact .deliver hq

/-- Whatever is done is one of the steps. -/
theorem step_perform (d : Domain G) (a : Action G) : Step d a (d.perform a).1 (d.perform a).2 := by
  cases a with
  | advertise channel => exact step_advertise d channel
  | withdraw id => exact step_withdraw d id
  | setGreeter id greeter => exact step_setGreeter d id greeter
  | subscribe channel running => exact step_subscribe d channel running
  | unsubscribe id => exact step_unsubscribe d id
  | publish id m => exact step_publish d id m
  | pass ticket route => exact step_pass d ticket route
  | deliver id => exact step_deliver d id
  | failInside => exact .failInside

/-- What a step comes to behind a poisoned lock: nobody joins, nobody is greeted, and the endpoints and the
numbers of those who are there stay as they are. -/
structure Shut (d : Domain G) (o : Outcome G) (d' : Domain G) : Prop where
  poisoned : d'.endpoints.poisoned = true
  endpoints : d'.endpoints.value = d.endpoints.value
  publishers : d'.metrics.publishers = d.metrics.publishers
  subscribers : d'.metrics.subscribers = d.metrics.subscribers
  joins : ∀ id greetings, o ≠ .joined id greetings
  greets : ∀ greetings, o = .gone greetings → greetings = []

theorem shut_step {a : Action G} {o : Outcome G} (hs : Step d a o d')
    (h : d.endpoints.poisoned = true) : Shut d o d' := by
  cases hs with
  | idle idle => cases idle <;> exact ⟨h, rfl, rfl, rfl, by simp, by simp⟩
  | shutOut | cut | publish | queue | drop | deliver => exact ⟨h, rfl, rfl, rfl, by simp, by simp⟩
  | failInside => exact ⟨rfl, rfl, rfl, rfl, by simp, by simp⟩
  | advertise hopen | withdraw hopen | setGreeter hopen | subscribe hopen | unsubscribe _ hopen =>
    rw [h] at hopen
    cases hopen

/-- A domain in which nothing has happened yet. -/
def start (c : TransportConfig) : Domain G := { config := c }

/-- What has been done, with what came of it. -/
abbrev Trace (G : Type) := List (Action G × Outcome G)

theorem actions_run (d : Domain G) (actions : List (Action G)) :
    (d.run actions).1.map Prod.fst = actions := by
  induction actions generalizing d with
  | nil => rfl
  | cons a actions ih => simp [run, ih]

/-- To show something of every run, show it of the empty one and of one step more. -/
theorem run_induction {P : List (Action G) → Trace G → Domain G → Prop} {d : Domain G}
    (nil : P [] [] d)
    (concat : ∀ actions trace d₁ a o d₂, d.run actions = (trace, d₁) → Step d₁ a o d₂ →
      P actions trace d₁ → P (actions ++ [a]) (trace ++ [(a, o)]) d₂)
    {actions : List (Action G)} {trace : Trace G} (h : d.run actions = (trace, d')) :
    P actions trace d' := by
  induction actions using List.reverseRecOn generalizing trace d' with
  | nil =>
    cases h
    exact nil
  | append_singleton actions a ih =>
    rw [run_append] at h
    cases h
    exact concat actions _ _ a _ _ rfl (step_perform _ a) (ih rfl)

end Domain

end TypedBus
