import Mathlib.Data.List.Nodup
import TypedBus.Proofs.Transport.Queues

namespace TypedBus.Domain

variable {G : Type} {d d' : Domain G} {a : Action G} {o : Outcome G} {trace after : Trace G} {n : Nat}

def publishedBy : Action G × Outcome G → List Letter
  | (.publish publisher m, .started ticket) => [⟨ticket, publisher, m⟩]
  | _ => []

def published (trace : Trace G) : List Letter := trace.flatMap publishedBy

/-- Whether a letter comes from a publisher that a subscription to a channel hears. -/
def hears (channel : String) (trace : Trace G) (letter : Letter) : Bool :=
  (channelIn trace letter.publisher).any (Channel.covers channel)

/-- What a subscription to a channel is to get of the publications in the last part of a record. -/
def heard (channel : String) (trace after : Trace G) : List Letter :=
  (published after).filter (hears channel trace)

/-- The letters on their way to a subscription. -/
def pending (s : PeerId) (publications : List Publication) : List Letter :=
  (publications.filter fun q => decide (s ∈ q.routes)).map (·.letter)

/-- The letters of a publisher that are on their way to anybody. -/
def underWay (p : PeerId) (d : Domain G) : List Letter :=
  (d.publications.map (·.letter)).filter (·.publisher = p)

/-- In a list of actions, a publisher never starts a publication before its last one is done. -/
def Awaited (p : PeerId) (d : Domain G) (actions : List (Action G)) : Prop :=
  ∀ front m rest, actions = front ++ .publish p m :: rest → underWay p (d.run front).2 = []

theorem published_append (front back : Trace G) :
    published (front ++ back) = published front ++ published back := by
  simp [published]

theorem published_concat (e : Action G × Outcome G) :
    published (trace ++ [e]) = published trace ++ publishedBy e := by
  simp [published]

/-- What a publisher is heard by does not depend on what happens after it has joined. -/
theorem hears_append {channel : String} {letter : Letter}
    (h : (channelIn trace letter.publisher).isSome = true) (later : Trace G) :
    hears channel (trace ++ later) letter = hears channel trace letter := by
  obtain ⟨c, hc⟩ := Option.isSome_iff_exists.mp h
  rw [hears, hears, channelIn_append hc, hc]

theorem Recorded.channelIn_of_channelOf? (h : Recorded n trace d) {p : PeerId} {channel : String}
    (hc : d.channelOf? p = some channel) : channelIn trace p = some channel := by
  obtain ⟨q, hq, rfl⟩ := Option.map_eq_some_iff.mp hc
  obtain rfl := Endpoints.id_of_publisher? hq
  exact h.channels _ (List.mem_map_of_mem (List.mem_of_find?_eq_some hq))

structure Posted (trace : Trace G) (d : Domain G) : Prop where
  tickets : ((published trace).map (·.ticket)).Pairwise (· < ·)
  issued : ∀ letter ∈ published trace, letter.ticket < d.nextTicket
  senders : ∀ letter ∈ published trace, (channelIn trace letter.publisher).isSome = true
  queued : ∀ b ∈ d.inboxes, ∀ letter ∈ b.queue, letter.ticket < d.nextTicket

/-- A step starts a publication of a publisher that is there, or it starts none. -/
theorem publishedBy_step (hs : Step d a o d') :
    (publishedBy (a, o) = [] ∧ d'.nextTicket = d.nextTicket) ∨
    (∃ p m channel, a = .publish p m ∧ d.channelOf? p = some channel ∧
      publishedBy (a, o) = [⟨d.nextTicket, p, m⟩] ∧ d'.nextTicket = d.nextTicket + 1 ∧
      d'.publications = d.publications ++
        publicationsOf ⟨d.nextTicket, p, m⟩ (d.endpoints.value.routes channel)) := by
  cases hs with
  | idle idle => cases idle <;> exact .inl ⟨rfl, rfl⟩
  | @shutOut a => cases a <;> exact .inl ⟨rfl, rfl⟩
  | publish _ found _ => exact .inr ⟨_, _, _, rfl, found, rfl, rfl, rfl⟩
  | advertise | withdraw | setGreeter | subscribe | cut | unsubscribe | queue | drop | deliver |
    failInside => exact .inl ⟨rfl, rfl⟩

theorem eq_publish_of_mem_publishedBy {letter : Letter} (h : letter ∈ publishedBy (a, o)) :
    a = .publish letter.publisher letter.message := by
  unfold publishedBy at h
  split at h
  · rename_i heq
    cases heq
    obtain rfl := List.mem_singleton.mp h
    rfl
  · cases h

theorem mem_queue {s : PeerId} {letter : Letter} (h : letter ∈ d.queue s) :
    ∃ b ∈ d.inboxes, letter ∈ b.queue := by
  unfold queue at h
  cases hb : d.inbox? s with
  | none => simp [hb] at h
  | some b =>
    rw [hb] at h
    exact ⟨b, List.mem_of_find?_eq_some hb, h⟩

/-- What the queues hold after a step, they held before it, or it was on its way. -/
theorem queues_step (hs : Step d a o d') {P : Letter → Prop}
    (hqueued : ∀ b ∈ d.inboxes, ∀ letter ∈ b.queue, P letter)
    (hmoving : ∀ p ∈ d.publications, P p.letter) :
    ∀ b ∈ d'.inboxes, ∀ letter ∈ b.queue, P letter := by
  have hold : ∀ {s : PeerId} {letter : Letter}, letter ∈ d.queue s → P letter := by
    intro s letter hl
    obtain ⟨b, hb, hl⟩ := mem_queue hl
    exact hqueued b hb letter hl
  have hset : ∀ id queue, (∀ letter ∈ queue, P letter) →
      ∀ b ∈ (d.setQueue id queue).inboxes, ∀ letter ∈ b.queue, P letter := by
    intro id queue hqueue b hb
    obtain ⟨c, hc, rfl⟩ := List.mem_map.mp hb
    split
    · exact hqueue
    · exact hqueued c hc
  cases hs with
  | idle | shutOut | advertise | withdraw | setGreeter | publish | drop | failInside =>
    exact hqueued
  | cut | unsubscribe => exact fun b hb => hqueued b (List.mem_filter.mp hb).1
  | subscribe =>
    intro b hb
    rcases List.mem_append.mp hb with hb | hb
    · exact hqueued b hb
    · obtain rfl := List.mem_singleton.mp hb
      intro letter hl
      cases hl
  | @queue ticket route p found _ _ _ =>
    refine hset route _ ?_
    intro letter hl
    rcases List.mem_append.mp hl with hl | hl
    · exact hold hl
    · obtain rfl := List.mem_singleton.mp hl
      exact hmoving p (List.mem_of_find?_eq_some found)
  | @deliver id letter rest first =>
    refine hset id rest ?_
    intro letter' hl
    exact hold (first ▸ List.mem_cons_of_mem letter hl)

theorem Posted.ticket_lt_of_mem_queue (h : Posted trace d) {s : PeerId} {letter : Letter}
    (hl : letter ∈ d.queue s) : letter.ticket < d.nextTicket := by
  obtain ⟨b, hb, hl⟩ := mem_queue hl
  exact h.queued b hb letter hl

theorem nextTicket_le_step (hs : Step d a o d') : d.nextTicket ≤ d'.nextTicket := by
  rcases publishedBy_step hs with ⟨-, hnext⟩ | ⟨-, -, -, -, -, -, hnext, -⟩ <;> omega

theorem Posted.queued_step (h : Posted trace d) (hn : Numbered n d) (hs : Step d a o d') :
    ∀ b ∈ d'.inboxes, ∀ letter ∈ b.queue, letter.ticket < d'.nextTicket := by
  intro b hb letter hl
  have hbefore : letter.ticket < d.nextTicket := queues_step hs h.queued hn.issued b hb letter hl
  exact Nat.lt_of_lt_of_le hbefore (nextTicket_le_step hs)

theorem Posted.step (h : Posted trace d) (hr : Recorded n trace d) (hs : Step d a o d') :
    Posted (trace ++ [(a, o)]) d' := by
  have senders : ∀ letter ∈ published trace,
      (channelIn (trace ++ [(a, o)]) letter.publisher).isSome = true := by
    intro letter hl
    obtain ⟨c, hc⟩ := Option.isSome_iff_exists.mp (h.senders letter hl)
    exact Option.isSome_iff_exists.mpr ⟨c, channelIn_append hc _⟩
  rcases publishedBy_step hs with ⟨hnone, hnext⟩ | ⟨p, m, channel, rfl, hc, hnew, hnext, -⟩
  · have hsame : published (trace ++ [(a, o)]) = published trace := by
      rw [published_concat, hnone, List.append_nil]
    refine ⟨hsame ▸ h.tickets, ?_, hsame ▸ senders, h.queued_step hr.toNumbered hs⟩
    rw [hsame, hnext]
    exact h.issued
  · have hpublished : published (trace ++ [(.publish p m, o)]) =
        published trace ++ [⟨d.nextTicket, p, m⟩] := by
      rw [published_concat, hnew]
    refine ⟨?_, ?_, ?_, h.queued_step hr.toNumbered hs⟩ <;> rw [hpublished]
    · rw [List.map_append]
      refine List.pairwise_append.mpr ⟨h.tickets, List.pairwise_singleton _ _, ?_⟩
      intro t ht u hu
      obtain ⟨letter, hl, rfl⟩ := List.mem_map.mp ht
      obtain rfl := List.mem_singleton.mp hu
      exact h.issued letter hl
    · rw [hnext]
      intro letter hl
      rcases List.mem_append.mp hl with hl | hl
      · exact Nat.lt_succ_of_lt (h.issued letter hl)
      · obtain rfl := List.mem_singleton.mp hl
        exact Nat.lt_succ_self _
    · intro letter hl
      rcases List.mem_append.mp hl with hl | hl
      · exact senders letter hl
      · obtain rfl := List.mem_singleton.mp hl
        exact Option.isSome_iff_exists.mpr
          ⟨channel, channelIn_append (hr.channelIn_of_channelOf? hc) _⟩

theorem posted_run {c : TransportConfig} {actions : List (Action G)}
    (hrun : (start c).run actions = (trace, d)) (hn : asked actions < 2 ^ 64) : Posted trace d := by
  refine run_induction (P := fun actions trace d =>
    asked actions < 2 ^ 64 → Posted trace d) ?_ ?_ hrun hn
  · intro _
    exact ⟨.nil, by simp [published], by simp [published], by simp [start]⟩
  · intro actions trace d₁ a o d₂ hrun hs ih hn
    rw [asked_concat] at hn
    exact (ih (by omega)).step (recorded_run hrun (by omega)) hs

theorem Posted.heard_concat (h : Posted trace d) {channel : String}
    (hafter : published after ⊆ published trace) (e : Action G × Outcome G) :
    heard channel (trace ++ [e]) (after ++ [e]) =
      heard channel trace after ++ (publishedBy e).filter (hears channel (trace ++ [e])) := by
  rw [heard, heard, published_concat, List.filter_append]
  congr 1
  apply List.filter_congr
  intro letter hl
  exact hears_append (h.senders letter (hafter hl)) [e]

theorem Posted.ticket_lt_of_later {before : Trace G} {e : Action G × Outcome G} {letter l : Letter}
    (h : Posted (before ++ e :: after) d) (he : publishedBy e = [letter]) (hl : l ∈ published after) :
    letter.ticket < l.ticket := by
  have htickets := h.tickets
  rw [published_append, ← List.singleton_append, published_append, List.map_append,
    List.map_append] at htickets
  have hnow : letter ∈ published [e] := by simp [published, he]
  exact (List.pairwise_append.mp (List.pairwise_append.mp htickets).2.1).2.2 letter.ticket
    (List.mem_map_of_mem hnow) l.ticket (List.mem_map_of_mem hl)

theorem pending_sublist (s : PeerId) (publications : List Publication) :
    (pending s publications).Sublist (publications.map (·.letter)) :=
  (List.filter_sublist).map _

theorem Numbered.ticket_lt_of_mem_pending (h : Numbered n d) {s : PeerId} {letter : Letter}
    (hl : letter ∈ pending s d.publications) : letter.ticket < d.nextTicket := by
  obtain ⟨q, hq, rfl⟩ := List.mem_map.mp ((pending_sublist s d.publications).subset hl)
  exact h.issued q hq

theorem pending_cons (s : PeerId) (p : Publication) (publications : List Publication) :
    pending s (p :: publications) =
      (if s ∈ p.routes then [p.letter] else []) ++ pending s publications := by
  by_cases hs : s ∈ p.routes <;> simp [pending, hs]

theorem pending_append (s : PeerId) (front back : List Publication) :
    pending s (front ++ back) = pending s front ++ pending s back := by
  simp [pending]

theorem pending_publicationsOf (s : PeerId) (letter : Letter) (routes : List PeerId) :
    pending s (publicationsOf letter routes) = if s ∈ routes then [letter] else [] := by
  rw [publicationsOf]
  split
  · rename_i hnil
    subst hnil
    rfl
  · by_cases hs : s ∈ routes <;> simp [pending, hs]

/-- Whether a letter is on its way to a subscription after its publication has lost a route. -/
theorem pending_clearRoute_cons (s : PeerId) (p : Publication) (publications : List Publication)
    (ticket : Nat) (route : PeerId) :
    pending s (clearRoute (p :: publications) ticket route) =
      (if s ∈ (if p.ticket = ticket then p.routes.erase route else p.routes) then [p.letter] else [])
        ++ pending s (clearRoute publications ticket route) := by
  rw [clearRoute_cons, pending_append]
  congr 1
  by_cases ht : p.ticket = ticket
  · simp only [ht, if_true, pending_publicationsOf]
  · simp only [ht, if_false, pending_cons]
    exact List.append_nil _

theorem pending_clearRoute_of_ne {s route : PeerId} (h : s ≠ route) (publications : List Publication)
    (ticket : Nat) : pending s (clearRoute publications ticket route) = pending s publications := by
  induction publications with
  | nil => rfl
  | cons p publications ih =>
    rw [pending_clearRoute_cons, pending_cons, ih]
    by_cases ht : p.ticket = ticket
    · simp only [ht, if_true, List.mem_erase_of_ne h]
    · simp only [ht, if_false]

/-- What has been sent is not on its way any more. -/
theorem pending_clearRoute {s : PeerId} {publications : List Publication}
    (h : ∀ q ∈ publications, q.routes.Nodup) (ticket : Nat) :
    pending s (clearRoute publications ticket s) =
      (pending s publications).filter (·.ticket ≠ ticket) := by
  induction publications with
  | nil => rfl
  | cons p publications ih =>
    rw [pending_clearRoute_cons, pending_cons, List.filter_append,
      ih fun q hq => h q (List.mem_cons_of_mem _ hq)]
    congr 1
    have hgone : s ∉ p.routes.erase s := (h p List.mem_cons_self).not_mem_erase
    have hticket : p.letter.ticket = p.ticket := rfl
    by_cases ht : p.ticket = ticket <;> by_cases hs : s ∈ p.routes <;> simp [ht, hs, hgone, hticket]

theorem Numbered.mem_routes (h : Numbered n d) {s : Subscription}
    (listed : s ∈ d.endpoints.value.subscriptions) (channel : String) :
    s.id ∈ d.endpoints.value.routes channel ↔ Channel.covers s.channel channel = true := by
  constructor
  · intro hm
    obtain ⟨t, ht, hid⟩ := List.mem_map.mp hm
    obtain ⟨ht, hcovers⟩ := List.mem_filter.mp ht
    obtain rfl := List.inj_on_of_nodup_map h.subscriptions.nodup ht listed hid
    exact hcovers
  · intro hcovers
    exact List.mem_map_of_mem (List.mem_filter.mpr ⟨listed, hcovers⟩)

/-- What a step puts on its way to a subscription: the letter that it publishes, if that is heard. -/
def startedFor (s : Subscription) (trace : Trace G) (e : Action G × Outcome G) : List Letter :=
  (publishedBy e).filter (hears s.channel (trace ++ [e]))

theorem Numbered.pending_nodup (h : Numbered n d) (s : PeerId) :
    ((pending s d.publications).map (·.ticket)).Nodup := by
  have hsub := (pending_sublist s d.publications).map (·.ticket)
  rw [List.map_map] at hsub
  refine List.Nodup.sublist hsub (h.tickets.imp ?_)
  intro t u hlt
  exact Nat.ne_of_lt hlt

/-- Either a step sends a subscription nothing and puts on its way what it hears, or it sends a
letter that was on its way. -/
theorem pending_step (hr : Recorded n trace d) (hs : Step d a o d') {s : Subscription}
    (listed : s ∈ d.endpoints.value.subscriptions) (active : d.isActive s.id = true) :
    (sentBy s.id (a, o) = [] ∧
      pending s.id d'.publications = pending s.id d.publications ++ startedFor s trace (a, o)) ∨
    (startedFor s trace (a, o) = [] ∧ ∃ letter ∈ pending s.id d.publications,
      sentBy s.id (a, o) = [letter] ∧
      pending s.id d'.publications =
        (pending s.id d.publications).filter (·.ticket ≠ letter.ticket)) := by
  -- most steps neither publish anything nor pass anything on
  have quiet : publishedBy (a, o) = [] → sentBy s.id (a, o) = [] →
      pending s.id d'.publications = pending s.id d.publications →
      sentBy s.id (a, o) = [] ∧
        pending s.id d'.publications = pending s.id d.publications ++ startedFor s trace (a, o) := by
    intro hnone hsent hsame
    rw [startedFor, hnone, List.filter_nil, List.append_nil]
    exact ⟨hsent, hsame⟩
  cases hs with
  | idle idle => cases idle <;> exact .inl (quiet rfl rfl rfl)
  | @shutOut a => cases a <;> exact .inl (quiet rfl rfl rfl)
  | advertise | withdraw | setGreeter | subscribe | cut | unsubscribe | deliver | failInside =>
    exact .inl (quiet rfl rfl rfl)
  | @publish p m channel _ found _ =>
    refine .inl ⟨rfl, ?_⟩
    have hchannel := channelIn_append (hr.channelIn_of_channelOf? found)
      [(.publish p m, .started d.nextTicket)]
    have hroute := hr.mem_routes listed channel
    rw [pending_append, pending_publicationsOf, startedFor, publishedBy, List.filter_cons,
      List.filter_nil, hears, hchannel]
    cases hcovers : Channel.covers s.channel channel <;> simp [hroute, hcovers]
  | @queue ticket route p found routed _ _ =>
    have hticket : p.ticket = ticket := by simpa using List.find?_some found
    subst hticket
    by_cases he : s.id = route
    · subst he
      refine .inr ⟨rfl, p.letter, ?_, if_pos rfl, ?_⟩
      · refine List.mem_map_of_mem (List.mem_filter.mpr ⟨List.mem_of_find?_eq_some found, ?_⟩)
        exact decide_eq_true routed
      · exact pending_clearRoute (fun q hq => (hr.routes q hq).nodup) p.ticket
    · exact .inl (quiet rfl (if_neg (Ne.symm he)) (pending_clearRoute_of_ne he _ _))
  | @drop ticket route p _ _ inactive =>
    have he : s.id ≠ route := by
      rintro rfl
      rw [active] at inactive
      cases inactive
    exact .inl (quiet rfl rfl (pending_clearRoute_of_ne he _ _))

/-- Nothing gets lost between the publishers and the queue of a subscription. -/
theorem perm_step (hr : Recorded n trace d) (hs : Step d a o d') {s : Subscription}
    (listed : s ∈ d.endpoints.value.subscriptions) (active : d.isActive s.id = true) :
    (sentBy s.id (a, o) ++ pending s.id d'.publications).Perm
      (pending s.id d.publications ++ startedFor s trace (a, o)) := by
  rcases pending_step hr hs listed active with ⟨hsent, hp⟩ | ⟨hnone, letter, hl, hsent, hp⟩
  · rw [hsent, hp, List.nil_append]
  · rw [hsent, hp, hnone, List.append_nil]
    exact (perm_cons_filter_ne (hr.pending_nodup s.id) hl).symm

/-- A step adds to the letters under way at most the one that it publishes. -/
theorem letters_step (hs : Step d a o d') :
    (d'.publications.map (·.letter)).Sublist
      (d.publications.map (·.letter) ++ publishedBy (a, o)) := by
  cases hs with
  | idle | shutOut | advertise | withdraw | setGreeter | subscribe | cut | unsubscribe | deliver |
    failInside => exact List.sublist_append_left _ _
  | publish =>
    rw [List.map_append]
    exact (List.Sublist.refl _).append (letters_publicationsOf _ _)
  | queue | drop => exact (letters_clearRoute _ _ _).trans (List.sublist_append_left _ _)

/-- All letters that a domain holds, in its queues or on their way, are of some kind. -/
structure Carries (P : Letter → Prop) (d : Domain G) : Prop where
  moving : ∀ p ∈ d.publications, P p.letter
  queued : ∀ b ∈ d.inboxes, ∀ letter ∈ b.queue, P letter

namespace Carries

variable {P : Letter → Prop}

theorem start (c : TransportConfig) : Carries P (Domain.start c : Domain G) where
  moving := by
    intro p hp
    cases hp
  queued := by
    intro b hb
    cases hb

/-- Nothing comes in but what is published. -/
theorem step (h : Carries P d) (hs : Step d a o d')
    (hnew : ∀ letter ∈ publishedBy (a, o), P letter) : Carries P d' where
  moving := by
    intro p hp
    have hl := (letters_step hs).subset (List.mem_map_of_mem (f := Publication.letter) hp)
    rcases List.mem_append.mp hl with hl | hl
    · obtain ⟨q, hq, he⟩ := List.mem_map.mp hl
      exact he ▸ h.moving q hq
    · exact hnew _ hl
  queued := queues_step hs h.queued h.moving

/-- What is true of all messages that are handed in is true of all that the domain holds. -/
theorem run {Q : Message → Prop} (h : Carries (fun letter => Q letter.message) d)
    {actions : List (Action G)} (hpublished : ∀ p m, .publish p m ∈ actions → Q m) :
    Carries (fun letter => Q letter.message) (d.run actions).2 := by
  induction actions generalizing d with
  | nil => exact h
  | cons a actions ih =>
    refine ih (h.step (step_perform d a) ?_) ?_
    · intro letter hl
      obtain rfl := eq_publish_of_mem_publishedBy hl
      exact hpublished _ _ List.mem_cons_self
    · exact fun p m hm => hpublished p m (List.mem_cons_of_mem a hm)

theorem received (h : Carries P d) (hs : Step d a o d') (s : PeerId) :
    ∀ letter ∈ receivedBy s (a, o), P letter := by
  intro letter hl
  obtain ⟨b, hb, hl⟩ := mem_queue (receivedBy_subset hs s hl)
  exact h.queued b hb letter hl

end Carries

theorem Awaited.front {actions : List (Action G)} {p : PeerId}
    (h : Awaited p d (actions ++ [a])) : Awaited p d actions := by
  intro front m rest he
  exact h front m (rest ++ [a]) (by rw [he, List.append_assoc, List.cons_append])

end TypedBus.Domain
