import TypedBus.Proofs.Transport.Bookkeeping
import TypedBus.Proofs.Transport.Publications

namespace TypedBus.Domain

variable {G : Type} {d d' : Domain G} {a : Action G} {o : Outcome G} {trace : Trace G} {n : Nat}

/-- A letter with the subscription that it is for. -/
abbrev Copy := Letter × PeerId

def copiesFor (letter : Letter) (routes : List PeerId) : List Copy := routes.map (letter, ·)

/-- The copies of what starts to be published, one for each subscription that matches just then. -/
def reachedBy (before : Trace G) : Action G × Outcome G → List Copy
  | (.publish publisher m, .started ticket) =>
    copiesFor ⟨ticket, publisher, m⟩ (((liveSubscriptions before).filter fun s =>
      (liveChannel? publisher before).any (Channel.covers s.channel)).map (·.id))
  | _ => []

def reached (trace : Trace G) : List Copy := (withPast trace).flatMap fun x => reachedBy x.1 x.2

/-- The publications that have come to their end, so that their publishers were told of it. -/
def returned (trace : Trace G) (d : Domain G) : List Letter :=
  (published trace).filter fun letter => (d.publication? letter.ticket).isNone

def queuedBy : Action G × Outcome G → List Copy
  | (.pass _ route, .passed letter .queued) => [(letter, route)]
  | _ => []

/-- The copies that were put into a queue. -/
def queued (trace : Trace G) : List Copy := trace.flatMap queuedBy

def lostBy : Action G × Outcome G → List Copy
  | (.pass _ route, .passed letter .dropped) => [(letter, route)]
  | _ => []

/-- The copies whose subscription had gone. -/
def lost (trace : Trace G) : List Copy := trace.flatMap lostBy

def handedBy : Action G × Outcome G → List Copy
  | (.deliver id, .delivered letter) => [(letter, id)]
  | _ => []

/-- The copies that receivers were handed. -/
def handedOver (trace : Trace G) : List Copy := trace.flatMap handedBy

/-- The copies that have not been passed on yet. -/
def outstanding (publications : List Publication) : List Copy :=
  publications.flatMap fun p => copiesFor p.letter p.routes

def inside (b : Inbox) : List Copy := b.queue.map (·, b.owner)

/-- The copies in the queues. -/
def held (inboxes : List Inbox) : List Copy := inboxes.flatMap inside

/-- The copies that are discarded with the queue of a subscription that is cancelled. -/
def discardedBy (d : Domain G) : Action G → List Copy
  | .unsubscribe id => (d.queue id).map (·, id)
  | _ => []

def discarded (d : Domain G) : List (Action G) → List Copy
  | [] => []
  | a :: rest => discardedBy d a ++ discarded (d.perform a).2 rest

theorem reached_concat (e : Action G × Outcome G) :
    reached (trace ++ [e]) = reached trace ++ reachedBy trace e := by
  simp [reached, withPast_concat]

theorem queued_concat (e : Action G × Outcome G) :
    queued (trace ++ [e]) = queued trace ++ queuedBy e := by
  simp [queued]

theorem lost_concat (e : Action G × Outcome G) : lost (trace ++ [e]) = lost trace ++ lostBy e := by
  simp [lost]

theorem handedOver_concat (e : Action G × Outcome G) :
    handedOver (trace ++ [e]) = handedOver trace ++ handedBy e := by
  simp [handedOver]

theorem discarded_append (d : Domain G) (front rest : List (Action G)) :
    discarded d (front ++ rest) = discarded d front ++ discarded (d.run front).2 rest := by
  induction front generalizing d with
  | nil => rfl
  | cons a front ih => simp [discarded, run, ih]

/-- Of two accounts the second goes on with what the first has left over. -/
theorem perm_carry {gone lapsed left total gone' lapsed' left' more : List Copy}
    (hbefore : (gone ++ lapsed ++ left).Perm total)
    (hnow : (gone' ++ lapsed' ++ left').Perm (left ++ more)) :
    ((gone ++ gone') ++ (lapsed ++ lapsed') ++ left').Perm (total ++ more) := by
  rw [List.perm_iff_count]
  intro copy
  have hfirst := hbefore.count_eq copy
  have hsecond := hnow.count_eq copy
  simp only [List.count_append] at hfirst hsecond ⊢
  omega

theorem outstanding_append (front back : List Publication) :
    outstanding (front ++ back) = outstanding front ++ outstanding back := by
  simp [outstanding]

theorem outstanding_cons (p : Publication) (publications : List Publication) :
    outstanding (p :: publications) = copiesFor p.letter p.routes ++ outstanding publications := rfl

theorem outstanding_singleton (p : Publication) :
    outstanding [p] = copiesFor p.letter p.routes := by
  simp [outstanding]

theorem outstanding_publicationsOf (letter : Letter) (routes : List PeerId) :
    outstanding (publicationsOf letter routes) = copiesFor letter routes := by
  rw [publicationsOf]
  split
  · rename_i hnil
    rw [hnil]
    rfl
  · exact outstanding_singleton _

/-- A publication that loses a route has one copy less to pass on. -/
theorem outstanding_clearRoute {publications : List Publication}
    (h : (publications.map (·.ticket)).Pairwise (· < ·)) {ticket : Nat} {p : Publication}
    (hp : publications.find? (·.ticket = ticket) = some p) {route : PeerId} (hr : route ∈ p.routes) :
    ((p.letter, route) :: outstanding (clearRoute publications ticket route)).Perm
      (outstanding publications) := by
  induction publications with
  | nil => cases hp
  | cons q publications ih =>
    rw [List.map_cons, List.pairwise_cons] at h
    rw [clearRoute_cons, outstanding_append, outstanding_cons]
    by_cases hq : q.ticket = ticket
    · have hothers : ∀ r ∈ publications, r.ticket ≠ ticket := by
        intro r hm
        have hlt := h.1 r.ticket (List.mem_map_of_mem hm)
        omega
      rw [List.find?_cons_of_pos (by simpa using hq)] at hp
      obtain rfl := Option.some.inj hp
      have hroutes := (List.perm_cons_erase hr).map (q.letter, ·)
      rw [if_pos hq, outstanding_publicationsOf, clearRoute_of_absent hothers]
      exact hroutes.symm.append_right (outstanding publications)
    · rw [List.find?_cons_of_neg (by simpa using hq)] at hp
      rw [if_neg hq, outstanding_singleton]
      exact List.perm_middle.symm.trans ((ih h.2 hp).append_left (copiesFor q.letter q.routes))

theorem reachedBy_publish (hb : Booked trace d) {publisher : PeerId} {channel : String}
    (hc : d.channelOf? publisher = some channel) (m : Message) (ticket : Nat) :
    reachedBy trace (.publish publisher m, .started ticket) =
      copiesFor ⟨ticket, publisher, m⟩ (d.endpoints.value.routes channel) := by
  simp only [reachedBy, hb.liveChannel?_eq, hc, Option.any_some, ← hb.subscriptions]
  rfl

/-- A step puts copies under way or takes them off it, to be queued or lost. -/
theorem outstanding_step (hn : Numbered n d) (hs : Step d a o d')
    (hb : d.endpoints.poisoned = false → Booked trace d) :
    (queuedBy (a, o) ++ lostBy (a, o) ++ outstanding d'.publications).Perm
      (outstanding d.publications ++ reachedBy trace (a, o)) := by
  have quiet : (outstanding d.publications).Perm (outstanding d.publications ++ []) :=
    .of_eq (List.append_nil _).symm
  cases hs with
  | idle idle => cases idle <;> exact quiet
  | @shutOut a => cases a <;> exact quiet
  | publish unpoisoned found _ =>
    rw [reachedBy_publish (hb unpoisoned) found, outstanding_append, outstanding_publicationsOf]
    exact .refl _
  | queue found routed | drop found routed =>
    exact (outstanding_clearRoute hn.tickets found routed).trans quiet
  | advertise | withdraw | setGreeter | subscribe | cut | unsubscribe | deliver | failInside =>
    exact quiet

/-- Every copy of what is published is put into a queue or lost, or it is still under way. -/
theorem routed_run {c : TransportConfig} {actions : List (Action G)}
    (hrun : (start c).run actions = (trace, d)) (hn : asked actions < 2 ^ 64) :
    (queued trace ++ lost trace ++ outstanding d.publications).Perm (reached trace) := by
  refine run_induction (P := fun actions trace d => asked actions < 2 ^ 64 →
    (queued trace ++ lost trace ++ outstanding d.publications).Perm (reached trace)) ?_ ?_ hrun hn
  · intro _
    exact .nil
  · intro actions trace d₁ a o d₂ hrun hs ih hn
    rw [asked_concat] at hn
    have hnumbered := (recorded_run hrun (by omega)).toNumbered
    -- a failure inside the lock ends the agreement of the books, but nothing is published after it
    have hstep := outstanding_step hnumbered hs (booked_of_open hrun (by omega))
    rw [queued_concat, lost_concat, reached_concat]
    exact perm_carry (ih (by omega)) hstep

theorem held_append (front back : List Inbox) : held (front ++ back) = held front ++ held back := by
  simp [held]

/-- The copies in the queues are those of one subscription and those of the others. -/
theorem held_perm (hn : Numbered n d) {id : PeerId} (ha : d.isActive id = true) :
    (held d.inboxes).Perm
      ((d.queue id).map (·, id) ++ held (d.inboxes.filter (·.owner ≠ id))) := by
  obtain ⟨b, hb⟩ := Option.isSome_iff_exists.mp ha
  obtain rfl : b.owner = id := by simpa using List.find?_some hb
  have hsplit := perm_cons_filter_ne hn.owners.nodup (List.mem_of_find?_eq_some hb)
  rw [queue, hb]
  exact hsplit.flatMap_right inside

theorem held_setQueue (hn : Numbered n d) {id : PeerId} (ha : d.isActive id = true)
    (queue : List Letter) :
    (held (d.setQueue id queue).inboxes).Perm
      (queue.map (·, id) ++ held (d.inboxes.filter (·.owner ≠ id))) := by
  have hperm := held_perm (hn.setQueue id queue) ((isActive_setQueue id id queue).trans ha)
  rwa [queue_setQueue ha, if_pos rfl, filter_setQueue] at hperm

/-- What a step hands over or discards comes out of the queues, and what it queues goes there. -/
theorem held_step (hn : Numbered n d) (hs : Step d a o d') :
    (handedBy (a, o) ++ discardedBy d a ++ held d'.inboxes).Perm
      (held d.inboxes ++ queuedBy (a, o)) := by
  have quiet : (held d.inboxes).Perm (held d.inboxes ++ []) := .of_eq (List.append_nil _).symm
  cases hs with
  | idle idle =>
    cases idle with
    | unsubscribe inactive =>
      rw [discardedBy, queue_of_inactive inactive]
      exact quiet
    | withdraw | setGreeter | subscribe | publish | pass | wait | deliver => exact quiet
  | @shutOut a _ asks => cases a <;> first | exact quiet | cases asks
  | subscribe =>
    rw [held_append]
    exact .refl _
  -- the queue goes with its subscription, whether or not the endpoints hear of the end
  | cut active | unsubscribe active => exact (held_perm hn active).symm.trans quiet
  | @queue ticket route p _ _ active =>
    have hbefore := (held_perm hn active).append_right [(p.letter, route)]
    have hafter := held_setQueue hn active (d.queue route ++ [p.letter])
    rw [List.append_assoc] at hbefore
    rw [List.map_append, List.append_assoc] at hafter
    exact (hafter.trans (List.perm_append_comm.append_left _)).trans hbefore.symm
  | @deliver id letter rest first =>
    have hactive := isActive_of_queue first
    have hbefore := held_perm hn hactive
    rw [first] at hbefore
    exact (((held_setQueue hn hactive rest).cons (letter, id)).trans hbefore.symm).trans quiet
  | advertise | withdraw | setGreeter | publish | drop | failInside => exact quiet

/-- Every copy that is put into a queue is handed over or discarded, or it is still there. -/
theorem queued_run {c : TransportConfig} {actions : List (Action G)}
    (hrun : (start c).run actions = (trace, d)) (hn : asked actions < 2 ^ 64) :
    (handedOver trace ++ discarded (start c) actions ++ held d.inboxes).Perm (queued trace) := by
  refine run_induction (P := fun actions trace d => asked actions < 2 ^ 64 →
    (handedOver trace ++ discarded (start c) actions ++ held d.inboxes).Perm (queued trace))
    ?_ ?_ hrun hn
  · intro _
    exact .nil
  · intro actions trace d₁ a o d₂ hrun hs ih hn
    rw [asked_concat] at hn
    have hstep := held_step (recorded_run hrun (by omega)).toNumbered hs
    have hdiscarded : discarded (start c) (actions ++ [a]) =
        discarded (start c) actions ++ discardedBy d₁ a := by
      rw [discarded_append, hrun]
      simp [discarded]
    rw [handedOver_concat, queued_concat, hdiscarded]
    exact perm_carry (ih (by omega)) hstep

/-- The metrics count what is published, queued and lost. -/
structure Counted (trace : Trace G) (metrics : TransportMetrics) : Prop where
  messages : metrics.messages = UInt64.ofNat (published trace).length
  bytes : metrics.bytes = UInt64.ofNat ((published trace).map (·.message.size)).sum
  deliveries : metrics.deliveries = UInt64.ofNat (queued trace).length
  dropped : metrics.dropped = UInt64.ofNat (lost trace).length

namespace Counted

variable {metrics metrics' : TransportMetrics} {e : Action G × Outcome G}

/-- Metrics that add what an event moves count that event too. -/
theorem concat (h : Counted trace metrics)
    (messages : metrics'.messages = metrics.messages + UInt64.ofNat (publishedBy e).length)
    (bytes : metrics'.bytes =
      metrics.bytes + UInt64.ofNat ((publishedBy e).map (·.message.size)).sum)
    (deliveries : metrics'.deliveries = metrics.deliveries + UInt64.ofNat (queuedBy e).length)
    (dropped : metrics'.dropped = metrics.dropped + UInt64.ofNat (lostBy e).length) :
    Counted (trace ++ [e]) metrics' where
  messages := by
    rw [published_concat, List.length_append, UInt64.ofNat_add, messages, h.messages]
  bytes := by
    rw [published_concat, List.map_append, List.sum_append, UInt64.ofNat_add, bytes, h.bytes]
  deliveries := by
    rw [queued_concat, List.length_append, UInt64.ofNat_add, deliveries, h.deliveries]
  dropped := by
    rw [lost_concat, List.length_append, UInt64.ofNat_add, dropped, h.dropped]

theorem step (h : Counted trace d.metrics) (hs : Step d a o d') :
    Counted (trace ++ [(a, o)]) d'.metrics := by
  have same (count : UInt64) : count = count + 0 := (UInt64.add_zero count).symm
  cases hs with
  | idle idle => cases idle <;> exact h.concat (same _) (same _) (same _) (same _)
  | @shutOut a => cases a <;> exact h.concat (same _) (same _) (same _) (same _)
  | publish => exact h.concat rfl rfl (same _) (same _)
  | queue => exact h.concat (same _) (same _) rfl (same _)
  | drop => exact h.concat (same _) (same _) (same _) rfl
  | advertise | withdraw | setGreeter | subscribe | cut | unsubscribe | deliver | failInside =>
    exact h.concat (same _) (same _) (same _) (same _)

end Counted

theorem counted_run {c : TransportConfig} {actions : List (Action G)}
    (hrun : (start c).run actions = (trace, d)) : Counted trace d.metrics := by
  refine run_induction (P := fun _ trace d => Counted trace d.metrics) ?_ ?_ hrun
  · exact ⟨rfl, rfl, rfl, rfl⟩
  · exact fun _ _ _ _ _ _ _ hs ih => ih.step hs

theorem returned_eq_published (h : d.publications = []) : returned trace d = published trace := by
  apply List.filter_eq_self.mpr
  intro letter _
  rw [publication?, h]
  rfl

/-- A frame is never refused for its length as a payload. -/
theorem reframe_ne_tooLarge (m : Message) (size limit : Nat) :
    reframe m ≠ .error (.payloadTooLarge size limit) := by
  intro h
  simp only [reframe] at h
  split at h
  · cases h
  · split at h <;> cases h

/-- Only the length of the payload decides whether it is too long. -/
theorem accept_tooLarge_iff {config : TransportConfig} {m : Message} {size limit : Nat} :
    accept config m = .error (.payloadTooLarge size limit) ↔
      size = m.size ∧ limit = config.maxPayloadSize.toNat ∧ limit < size := by
  by_cases hsize : m.size > config.maxPayloadSize.toNat
  · rw [accept, if_pos hsize]
    constructor
    · intro h
      cases h
      exact ⟨rfl, rfl, hsize⟩
    · rintro ⟨rfl, rfl, -⟩
      rfl
  · have haccept : accept config m ≠ .error (.payloadTooLarge size limit) := by
      rw [accept, if_neg hsize]
      split
      · exact reframe_ne_tooLarge m size limit
      · simp
    refine iff_of_false haccept ?_
    rintro ⟨rfl, rfl, hlt⟩
    exact hsize hlt

/-- Whoever cannot read the endpoints is not told that a payload is too long. -/
theorem read_ne_tooLarge (d : Domain G) (size limit : Nat) :
    d.read ≠ .error (.payloadTooLarge size limit) := by
  intro h
  rw [read] at h
  cases hr : d.endpoints.read <;> rw [hr] at h <;> cases h

/-- What is refused leaves no trace. -/
theorem publish_refused {publisher : PeerId} {m : Message} {e : TransportError}
    (h : d.perform (.publish publisher m) = (.refused e, d')) : d' = d := by
  have hs := step_publish d publisher m
  rw [h] at hs
  cases hs with
  | idle => rfl
  | shutOut asks => cases asks

/-- A publisher that is there is told that a payload is too long exactly when it is. -/
theorem publish_tooLarge_iff {publisher : PeerId} {channel : String}
    (hc : d.channelOf? publisher = some channel) {m : Message} {size limit : Nat} :
    (d.perform (.publish publisher m)).1 = .refused (.payloadTooLarge size limit) ↔
      size = m.size ∧ limit = d.config.maxPayloadSize.toNat ∧ limit < size := by
  rw [← accept_tooLarge_iff]
  simp only [perform, publish, hc]
  cases ha : accept d.config m with
  | error e => simp
  | ok m' =>
    have hread := read_ne_tooLarge d size limit
    cases hr : d.read with
    | error e => simpa [hr] using hread
    | ok endpoints => simp

/-- The traffic of every run in which the identities do not run out. While no publication is under way,
the metrics give, up to where they wrap around, the messages that were published and their bytes; every
copy for a subscription that matched when its publication started as delivered or dropped; and every
delivered copy as handed over, still queued or discarded with its queue. What is refused changes nothing,
and a payload is refused for its length exactly when it is too long. -/
theorem traffic_is_accounted_for {c : TransportConfig} {actions : List (Action G)}
    (hrun : (start c).run actions = (trace, d)) (hn : asked actions < 2 ^ 64) :
    (d.publications = [] →
      d.metrics.messages = UInt64.ofNat (returned trace d).length ∧
      d.metrics.bytes = UInt64.ofNat ((returned trace d).map (·.message.size)).sum ∧
      d.metrics.deliveries + d.metrics.dropped = UInt64.ofNat (reached trace).length ∧
      d.metrics.deliveries = UInt64.ofNat ((handedOver trace).length + (held d.inboxes).length +
        (discarded (start c) actions).length)) ∧
    (∀ (d d' : Domain G) publisher m e,
      d.perform (.publish publisher m) = (.refused e, d') → d' = d) ∧
    ∀ (d : Domain G) publisher channel m, d.channelOf? publisher = some channel → ∀ size limit,
      (d.perform (.publish publisher m)).1 = .refused (.payloadTooLarge size limit) ↔
        size = m.size ∧ limit = d.config.maxPayloadSize.toNat ∧ limit < size := by
  refine ⟨fun hdone => ?_, fun _ _ _ _ _ => publish_refused, fun _ _ _ _ hc _ _ =>
    publish_tooLarge_iff hc⟩
  have hcounted := counted_run hrun
  have hrouted := (routed_run hrun hn).length_eq
  have hqueued := (queued_run hrun hn).length_eq
  rw [hdone] at hrouted
  simp only [outstanding, List.flatMap_nil, List.append_nil, List.length_append] at hrouted hqueued
  rw [returned_eq_published hdone]
  refine ⟨hcounted.messages, hcounted.bytes, ?_, ?_⟩
  · rw [hcounted.deliveries, hcounted.dropped, ← UInt64.ofNat_add, hrouted]
  · rw [hcounted.deliveries, ← hqueued, Nat.add_right_comm]

/-- One copy is handed over, one is lost, one discarded and one left in its queue; a payload is too long,
and in the end a task fails. -/
def counted : List (Action Unit) :=
  [.advertise "fooChannel", .subscribe "foo" true, .subscribe "fooChannel" true, .subscribe "bar" true,
    .publish ⟨1⟩ (.withData [1, 2, 3]), .pass 0 ⟨2⟩, .unsubscribe ⟨3⟩, .pass 0 ⟨3⟩, .deliver ⟨2⟩,
    .publish ⟨1⟩ (.withData [4]), .pass 1 ⟨2⟩, .unsubscribe ⟨2⟩, .subscribe "" true,
    .publish ⟨1⟩ (.withData [5, 6]), .pass 2 ⟨5⟩, .publish ⟨1⟩ (.withData [1, 2, 3, 4]), .failInside]

theorem traffic_is_accounted_for_sample :
    ∃ trace d, (start { maxPayloadSize := 3 }).run counted = (trace, d) ∧
      asked counted < 2 ^ 64 ∧ d.publications = [] ∧
      d.metrics.messages = UInt64.ofNat (returned trace d).length ∧ d.metrics.messages = 3 ∧
      d.metrics.bytes = UInt64.ofNat ((returned trace d).map (·.message.size)).sum ∧
      d.metrics.bytes = 6 ∧
      d.metrics.deliveries + d.metrics.dropped = UInt64.ofNat (reached trace).length ∧
      d.metrics.deliveries = 3 ∧ d.metrics.dropped = 1 ∧
      (handedOver trace).length = 1 ∧ (held d.inboxes).length = 1 ∧
      (discarded (start { maxPayloadSize := 3 }) counted).length = 1 ∧
      ((start { maxPayloadSize := 3 }).run (counted.take 15)).2.channelOf? ⟨1⟩ = some "fooChannel" ∧
      (((start { maxPayloadSize := 3 }).run (counted.take 15)).2.perform
        (.publish ⟨1⟩ (.withData [1, 2, 3, 4]))).1 = .refused (.payloadTooLarge 4 3) := by
  have hn : asked counted < 2 ^ 64 := by decide
  obtain ⟨hcounts, -, hlong⟩ := traffic_is_accounted_for (c := { maxPayloadSize := 3 }) rfl hn
  have hdone : ((start { maxPayloadSize := 3 }).run counted).2.publications = [] := rfl
  have hlive : ((start { maxPayloadSize := 3 }).run (counted.take 15)).2.channelOf? ⟨1⟩ =
    some "fooChannel" := rfl
  obtain ⟨hmessages, hbytes, hroutes, -⟩ := hcounts hdone
  exact ⟨_, _, rfl, hn, hdone, hmessages, rfl, hbytes, rfl, hroutes, rfl, rfl, rfl, rfl, rfl, hlive,
    (hlong _ _ _ _ hlive _ _).mpr ⟨rfl, rfl, by decide⟩⟩

end TypedBus.Domain
