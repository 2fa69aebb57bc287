import Mathlib.Data.List.Nodup
import TypedBus.Proofs.Transport.Sealed

namespace TypedBus

namespace TransportMetrics

theorem toNat_add_one (count : UInt64) (h : count.toNat + 1 < 2 ^ 64) :
    (count + 1).toNat = count.toNat + 1 := by
  rw [UInt64.toNat_add]
  exact Nat.mod_eq_of_lt h

theorem toNat_sub_one (count : UInt64) (h : 0 < count.toNat) :
    (count - 1).toNat = count.toNat - 1 :=
  UInt64.toNat_sub_of_le _ _ (UInt64.le_iff_toNat_le.mpr h)

end TransportMetrics

namespace Endpoints

variable {G : Type} {e : Endpoints G}

def Current (e : Endpoints G) : Prop :=
  ∀ p ∈ e.publishers, p.watched = (e.matching p.channel).length

theorem current_refresh {channel : String}
    (h : ∀ p ∈ e.publishers, Channel.covers channel p.channel = false →
      p.watched = (e.matching p.channel).length) : (e.refresh channel).Current := by
  intro p hp
  obtain ⟨q, hq, rfl⟩ := List.mem_map.mp hp
  split
  · rfl
  · rename_i hc
    exact h q hq (by simpa using hc)

theorem Current.subscribe (h : e.Current) (id : PeerId) (channel : String) :
    (e.subscribe id channel).Current := by
  apply current_refresh
  intro p hp hc
  have hm := matching_subscribe e id channel p.channel
  rw [hc] at hm
  simp only [Bool.false_eq_true, if_false, List.append_nil] at hm
  exact (h p hp).trans (congrArg List.length hm).symm

theorem Current.unsubscribe (h : e.Current) {s : Subscription}
    (hs : ∀ t ∈ e.subscriptions, t.id = s.id → t = s) : (e.unsubscribe s).Current := by
  apply current_refresh
  intro p hp hc
  have hm : (e.matching p.channel).filter (·.id ≠ s.id) = e.matching p.channel := by
    apply List.filter_eq_self.mpr
    intro t ht
    obtain ⟨ht, hcovers⟩ := List.mem_filter.mp ht
    have hne : t.id ≠ s.id := by
      intro he
      obtain rfl := hs t ht he
      rw [hc] at hcovers
      cases hcovers
    simpa using hne
  have hu := matching_unsubscribe e s p.channel
  rw [hm] at hu
  exact (h p hp).trans (congrArg List.length hu).symm

theorem Current.setGreeter (h : e.Current) (id : PeerId) (greeter : Option G) :
    (e.setGreeter id greeter).Current := by
  intro p hp
  obtain ⟨q, hq, rfl⟩ := List.mem_map.mp hp
  split <;> exact h q hq

theorem Current.advertise (h : e.Current) (id : PeerId) (channel : String) :
    (e.advertise id channel).Current := by
  intro p hp
  rcases List.mem_append.mp hp with hp | hp
  · exact h p hp
  · obtain rfl := List.mem_singleton.mp hp
    rfl

/-- A subscription that is found is the only one of its identity. -/
theorem eq_of_subscription? {n : Nat} (h : Rising n (e.subscriptions.map (·.id))) {id : PeerId}
    {s t : Subscription} (hs : e.subscription? id = some s) (ht : t ∈ e.subscriptions)
    (hid : t.id = s.id) : t = s :=
  List.inj_on_of_nodup_map h.nodup ht (List.mem_of_find?_eq_some hs) hid

end Endpoints

namespace Domain

variable {G : Type} {d d' : Domain G} {a : Action G} {o : Outcome G} {trace : Trace G} {n : Nat}

/-- The books agree with what has happened. -/
structure Booked (trace : Trace G) (d : Domain G) : Prop where
  unpoisoned : d.endpoints.poisoned = false
  publishers : d.endpoints.value.roster = livePublishers trace
  subscriptions : d.endpoints.value.subscriptions = liveSubscriptions trace
  owners : d.inboxes.map (·.owner) = d.endpoints.value.subscriptions.map (·.id)
  current : d.endpoints.value.Current
  publisherCount : d.metrics.publishers.toNat = d.endpoints.value.publishers.length
  subscriberCount : d.metrics.subscribers.toNat = d.endpoints.value.subscriptions.length

namespace Booked

theorem start (c : TransportConfig) : Booked [] (Domain.start c : Domain G) where
  unpoisoned := rfl
  publishers := rfl
  subscriptions := rfl
  owners := rfl
  current := by simp [Endpoints.Current, Domain.start]
  publisherCount := rfl
  subscriberCount := rfl

theorem publishers_step (h : Booked trace d) (hs : Step d a o d') :
    d'.endpoints.value.roster = livePublishers (trace ++ [(a, o)]) := by
  rw [roster_step_of_open hs h.unpoisoned, h.publishers, livePublishers, livePublishers,
    List.foldl_append]
  rfl

theorem liveChannel?_eq (h : Booked trace d) (p : PeerId) : liveChannel? p trace = d.channelOf? p := by
  rw [liveChannel?, ← h.publishers, Endpoints.roster, List.find?_map, Option.map_map]
  rfl

theorem active_iff (h : Booked trace d) {id : PeerId} :
    d.isActive id = true ↔ id ∈ d.endpoints.value.subscriptions.map (·.id) := by
  rw [isActive_iff, h.owners]

theorem listed (h : Booked trace d) {id : PeerId} (ha : d.isActive id = true) :
    d.endpoints.value.subscription? id ≠ none := by
  intro hnone
  obtain ⟨s, hs, rfl⟩ := List.mem_map.mp (h.active_iff.mp ha)
  simpa using List.find?_eq_none.mp hnone s hs

theorem subscriptions_step (h : Booked trace d) (hs : Step d a o d') :
    d'.endpoints.value.subscriptions =
      subscriptionsAfter d.endpoints.value.subscriptions (a, o) := by
  cases hs with
  | idle idle =>
    cases idle with
    | @unsubscribe id inactive =>
      refine (List.filter_eq_self.mpr ?_).symm
      intro s hs
      have hne : s.id ≠ id := by
        rintro rfl
        rw [h.active_iff.mpr (List.mem_map_of_mem hs)] at inactive
        cases inactive
      simpa using hne
    | withdraw | setGreeter | subscribe | publish | pass | wait | deliver => rfl
  | @shutOut a e hasks _ => cases a <;> first | rfl | cases hasks
  | cut active unlisted => exact absurd (unlisted h.unpoisoned) (h.listed active)
  | @unsubscribe id s _ _ found =>
    obtain rfl := Endpoints.id_of_subscription? found
    rfl
  | advertise | withdraw | setGreeter | subscribe | publish | queue | drop | deliver | failInside =>
    rfl

theorem owners_step (h : Booked trace d) (hs : Step d a o d') :
    d'.inboxes.map (·.owner) = d'.endpoints.value.subscriptions.map (·.id) := by
  have howners := h.owners
  cases hs with
  | idle | shutOut | advertise | withdraw | setGreeter | publish | drop | failInside => exact howners
  | subscribe =>
    simp only [Guarded.store, Endpoints.subscribe, Endpoints.refresh, List.map_append, howners]
    rfl
  | cut active unlisted => exact absurd (unlisted h.unpoisoned) (h.listed active)
  | @unsubscribe id s _ _ found =>
    obtain rfl := Endpoints.id_of_subscription? found
    have hfilter := congrArg (List.filter (· ≠ s.id)) howners
    rw [List.filter_map, List.filter_map] at hfilter
    exact hfilter
  | queue | deliver => exact (owners_setQueue _ _ _).trans howners

theorem current_step (h : Booked trace d) (hn : Numbered n d) (hs : Step d a o d') :
    d'.endpoints.value.Current := by
  cases hs with
  | idle | shutOut | cut | publish | queue | drop | deliver | failInside => exact h.current
  | advertise => exact h.current.advertise _ _
  | withdraw => exact fun p hp => h.current p (List.mem_filter.mp hp).1
  | setGreeter => exact h.current.setGreeter _ _
  | subscribe => exact h.current.subscribe _ _
  | unsubscribe _ _ found =>
    exact h.current.unsubscribe fun t ht hid =>
      Endpoints.eq_of_subscription? hn.subscriptions found ht hid

theorem publisherCount_step (h : Booked trace d) (hn : Numbered n d) (hs : Step d a o d')
    (hlt : n + asks a < 2 ^ 64) :
    d'.metrics.publishers.toNat = d'.endpoints.value.publishers.length := by
  have hcount := h.publisherCount
  cases hs with
  | idle | shutOut | cut | publish | queue | drop | deliver | failInside => exact hcount
  | advertise =>
    have hle := hn.publishers.length_le
    simp only [Endpoints.roster, List.length_map] at hle
    change n + 1 < 2 ^ 64 at hlt
    have hup := TransportMetrics.toNat_add_one d.metrics.publishers (by omega)
    simp only [Guarded.store, Endpoints.advertise, TransportMetrics.addPublisher, List.length_append,
      List.length_singleton, hup, hcount]
  | @withdraw id p _ found =>
    obtain rfl := Endpoints.id_of_publisher? found
    have hnodup := hn.publishers.nodup
    simp only [Endpoints.roster, List.map_map, Function.comp_def] at hnodup
    have hlength := (perm_cons_filter_ne hnodup (List.mem_of_find?_eq_some found)).length_eq
    rw [List.length_cons] at hlength
    have hdown := TransportMetrics.toNat_sub_one d.metrics.publishers (by omega)
    simp only [Guarded.store, Endpoints.withdraw, TransportMetrics.removePublisher, hdown]
    omega
  | setGreeter | subscribe | unsubscribe =>
    simpa [Guarded.store, Endpoints.setGreeter, Endpoints.subscribe, Endpoints.unsubscribe,
      Endpoints.refresh, TransportMetrics.addSubscriber, TransportMetrics.removeSubscriber]
      using hcount

theorem subscriberCount_step (h : Booked trace d) (hn : Numbered n d) (hs : Step d a o d')
    (hlt : n + asks a < 2 ^ 64) :
    d'.metrics.subscribers.toNat = d'.endpoints.value.subscriptions.length := by
  have hcount := h.subscriberCount
  cases hs with
  | idle | shutOut | advertise | withdraw | setGreeter | cut | publish | queue | drop | deliver |
    failInside => exact hcount
  | subscribe =>
    have hle := hn.subscriptions.length_le
    simp only [List.length_map] at hle
    change n + 1 < 2 ^ 64 at hlt
    have hup := TransportMetrics.toNat_add_one d.metrics.subscribers (by omega)
    simp only [Guarded.store, Endpoints.subscribe, Endpoints.refresh, TransportMetrics.addSubscriber,
      List.length_append, List.length_singleton, hup, hcount]
  | unsubscribe _ _ found =>
    have hlength :=
      (perm_cons_filter_ne hn.subscriptions.nodup (List.mem_of_find?_eq_some found)).length_eq
    rw [List.length_cons] at hlength
    have hdown := TransportMetrics.toNat_sub_one d.metrics.subscribers (by omega)
    simp only [Guarded.store, Endpoints.unsubscribe, Endpoints.refresh,
      TransportMetrics.removeSubscriber, hdown]
    omega

/-- Whatever is done, the books stay in agreement, unless a task fails while it holds the lock. -/
theorem step (h : Booked trace d) (hn : Numbered n d) (hs : Step d a o d')
    (hlt : n + asks a < 2 ^ 64) (hsafe : a ≠ .failInside) : Booked (trace ++ [(a, o)]) d' where
  unpoisoned := by
    have hu := h.unpoisoned
    cases hs with
    | failInside => exact absurd rfl hsafe
    | idle | shutOut | advertise | withdraw | setGreeter | subscribe | cut | unsubscribe | publish |
      queue | drop | deliver => exact hu
  publishers := h.publishers_step hs
  subscriptions := by
    rw [h.subscriptions_step hs, h.subscriptions, liveSubscriptions, liveSubscriptions,
      List.foldl_append]
    rfl
  owners := h.owners_step hs
  current := h.current_step hn hs
  publisherCount := h.publisherCount_step hn hs hlt
  subscriberCount := h.subscriberCount_step hn hs hlt

end Booked

theorem booked_run {c : TransportConfig} {actions : List (Action G)}
    (hrun : (start c).run actions = (trace, d)) (hn : asked actions < 2 ^ 64)
    (hsafe : .failInside ∉ actions) : Booked trace d := by
  refine run_induction (P := fun actions trace d =>
    asked actions < 2 ^ 64 → .failInside ∉ actions → Booked trace d) ?_ ?_ hrun hn hsafe
  · intro _ _
    exact .start c
  · intro actions trace d₁ a o d₂ hrun hs ih hn hsafe
    rw [asked_concat] at hn
    simp only [List.mem_append, List.mem_singleton, not_or] at hsafe
    have hr := recorded_run hrun (by omega)
    exact (ih (by omega) hsafe.1).step hr.toNumbered hs hn fun h => hsafe.2 h.symm

/-- A lock that is open has been open all the time. -/
theorem open_step (hs : Step d a o d') (h : d'.endpoints.poisoned = false) :
    d.endpoints.poisoned = false ∧ a ≠ .failInside := by
  cases hs with
  | failInside => cases h
  | idle idle => cases idle <;> exact ⟨h, by simp⟩
  | shutOut hasks _ =>
    refine ⟨h, ?_⟩
    rintro rfl
    cases hasks
  | advertise | withdraw | setGreeter | subscribe | cut | unsubscribe | publish | queue | drop |
    deliver => exact ⟨h, by simp⟩

theorem open_run {c : TransportConfig} {actions : List (Action G)}
    (hrun : (start c).run actions = (trace, d)) (h : d.endpoints.poisoned = false) :
    .failInside ∉ actions := by
  refine run_induction (P := fun actions _ d =>
    d.endpoints.poisoned = false → .failInside ∉ actions) ?_ ?_ hrun h
  · exact fun _ => List.not_mem_nil
  · intro actions trace d₁ a o d₂ _ hs ih h
    obtain ⟨hopen, hsafe⟩ := open_step hs h
    rw [List.mem_append, List.mem_singleton, not_or]
    exact ⟨ih hopen, hsafe.symm⟩

theorem booked_of_open {c : TransportConfig} {actions : List (Action G)}
    (hrun : (start c).run actions = (trace, d)) (hn : asked actions < 2 ^ 64)
    (h : d.endpoints.poisoned = false) : Booked trace d :=
  booked_run hrun hn (open_run hrun h)

/-- To show something of every run in which no task fails inside the lock and the identities do not run
out, show it of the empty one and of one step more. -/
theorem booked_induction {P : Trace G → Domain G → Prop} {c : TransportConfig}
    (nil : P [] (start c))
    (concat : ∀ n trace d₁ a o d₂, Recorded n trace d₁ → Booked trace d₁ → n + asks a < 2 ^ 64 →
      Step d₁ a o d₂ → P trace d₁ → P (trace ++ [(a, o)]) d₂)
    {actions : List (Action G)} (hrun : (start c).run actions = (trace, d))
    (hn : asked actions < 2 ^ 64) (hsafe : .failInside ∉ actions) : P trace d := by
  refine run_induction (P := fun actions trace d =>
    asked actions < 2 ^ 64 → .failInside ∉ actions → P trace d) ?_ ?_ hrun hn hsafe
  · exact fun _ _ => nil
  · intro actions trace d₁ a o d₂ hrun hs ih hn hsafe
    rw [asked_concat] at hn
    simp only [List.mem_append, not_or] at hsafe
    have hr := recorded_run hrun (by omega)
    have hb := booked_run hrun (by omega) hsafe.1
    exact concat _ _ _ _ _ _ hr hb hn hs (ih (by omega) hsafe.1)

def routesOf (d : Domain G) (ticket : Nat) : List PeerId :=
  ((d.publication? ticket).map (·.routes)).getD []

/-- What a publisher is told of its subscribers agrees with who has subscribed. -/
structure SeesSubscribers (trace : Trace G) (d : Domain G) (p : PeerId) (channel : String) : Prop where
  known : d.channelOf? p = some channel
  watched : d.watched p =
    ((liveSubscriptions trace).filter fun s => Channel.covers s.channel channel).length
  counted : d.watched p = (d.subscribersOf p).length
  /-- The table of the subscriptions has no order of its own, so what is told of it has to be sorted. -/
  told : ∀ t, d.subscribersAlong t p = d.subscribersOf p
  increasing : ∀ t, (d.subscribersAlong t p).Pairwise fun a b => a.value < b.value
  subscribers : ∀ id, id ∈ d.subscribersOf p ↔
    ∃ s ∈ liveSubscriptions trace, s.id = id ∧ s.channel.toList <+: channel.toList
  /-- A publication that starts now goes to exactly those that are told, in some order. -/
  routed : ∀ t m ticket d', d.publish p m = (.ok ticket, d') →
    (d'.routesOf ticket).Perm (d.subscribersAlong t p)

theorem subscribersAlong_of_open (hu : d.endpoints.poisoned = false) {p : PeerId} {channel : String}
    (hc : d.channelOf? p = some channel) (t : Tours) :
    d.subscribersAlong t p = d.endpoints.value.subscribersAlong t channel := by
  simp only [subscribersAlong, hc, read_of_open hu]

theorem Numbered.routesOf_publish (h : Numbered n d) {p : PeerId} {channel : String}
    (hc : d.channelOf? p = some channel) {m : Message} {ticket : Nat}
    (hp : d.publish p m = (.ok ticket, d')) :
    d'.routesOf ticket = d.endpoints.value.routes channel := by
  have hs := step_publish d p m
  simp only [perform, hp] at hs
  cases hs with
  | idle idle => cases idle
  | publish _ found _ =>
    obtain rfl : _ = channel := Option.some.inj (found.symm.trans hc)
    have hnew : d.publications.find? (·.ticket = d.nextTicket) = none := by
      apply List.find?_eq_none.mpr
      intro q hq
      have := h.issued q hq
      simp only [decide_eq_true_eq]
      omega
    simp only [Domain.routesOf, publication?, publicationsOf]
    rw [List.find?_append, hnew, Option.none_or]
    split
    · rename_i hr
      exact hr.symm
    · simp [Publication.ticket]

theorem publisher?_of_mem_roster {e : Endpoints G} (h : Rising n (e.roster.map (·.1))) {id : PeerId}
    {channel : String} (hm : (id, channel) ∈ e.roster) :
    ∃ p, e.publisher? id = some p ∧ p ∈ e.publishers ∧ p.channel = channel := by
  obtain ⟨p, hp, he⟩ := List.mem_map.mp hm
  cases he
  have hnodup := h.nodup
  simp only [Endpoints.roster, List.map_map, Function.comp_def] at hnodup
  cases hf : e.publisher? p.id with
  | none => simpa using List.find?_eq_none.mp hf p hp
  | some q =>
    obtain rfl := List.inj_on_of_nodup_map hnodup (List.mem_of_find?_eq_some hf) hp
      (Endpoints.id_of_publisher? hf)
    exact ⟨q, rfl, hp, rfl⟩

theorem Booked.seesSubscribers (h : Booked trace d) (hn : Numbered n d) {p : PeerId}
    {channel : String} (hm : (p, channel) ∈ livePublishers trace) :
    SeesSubscribers trace d p channel := by
  rw [← h.publishers] at hm
  obtain ⟨q, hq, hmem, rfl⟩ := publisher?_of_mem_roster hn.publishers hm
  have hc : d.channelOf? p = some q.channel := by rw [channelOf?, hq]; rfl
  have hw : d.watched p = (d.endpoints.value.matching q.channel).length := by
    rw [Domain.watched, hq]
    exact h.current q hmem
  -- along any tour the same subscriptions are found, and sorting makes one list of them
  have halong (t : Tours) : (d.subscribersAlong t p).Perm (d.endpoints.value.routes q.channel) := by
    rw [subscribersAlong_of_open h.unpoisoned hc]
    exact Endpoints.subscribersAlong_perm t _ _
  have hsub : (d.subscribersOf p).Perm (d.endpoints.value.routes q.channel) :=
    subscribersAlong_eq .forward d p ▸ halong .forward
  refine ⟨hc, ?_, ?_, (subscribersAlong_eq · d p), ?_, ?_, ?_⟩
  · rw [hw, ← h.subscriptions]
    rfl
  · rw [hw, hsub.length_eq, Endpoints.routes, List.length_map]
  · intro t
    rw [subscribersAlong_of_open h.unpoisoned hc]
    exact Endpoints.subscribersAlong_increasing (hn.routes_rising q.channel).nodup t
  · intro id
    rw [hsub.mem_iff, ← h.subscriptions]
    simp only [Endpoints.routes, Endpoints.matching, List.mem_map, List.mem_filter,
      Channel.covers_iff]
    constructor
    · rintro ⟨s, ⟨hs, hcovers⟩, rfl⟩
      exact ⟨s, hs, rfl, hcovers⟩
    · rintro ⟨s, hs, rfl, hcovers⟩
      exact ⟨s, ⟨hs, hcovers⟩, rfl⟩
  · intro t m ticket d' hp
    rw [hn.routesOf_publish hc hp]
    exact (halong t).symm

/-- A leaving publisher is never subtracted from a count of zero. -/
theorem Booked.publishers_withdraw_le (h : Booked trace d) (id : PeerId) :
    (d.withdraw id).metrics.publishers ≤ d.metrics.publishers := by
  have hs := step_withdraw d id
  generalize d.withdraw id = d' at hs ⊢
  cases hs with
  | idle => exact UInt64.le_refl _
  | withdraw _ found =>
    have hcount := h.publisherCount
    have hpos := List.length_pos_of_mem (List.mem_of_find?_eq_some found)
    have hdown := TransportMetrics.toNat_sub_one d.metrics.publishers (by omega)
    simp only [TransportMetrics.removePublisher, UInt64.le_iff_toNat_le, hdown]
    omega

/-- A leaving subscriber is never subtracted from a count of zero. -/
theorem Booked.subscribers_unsubscribe_le (h : Booked trace d) (id : PeerId) :
    (d.unsubscribe id).2.metrics.subscribers ≤ d.metrics.subscribers := by
  have hs := step_unsubscribe d id
  generalize d.unsubscribe id = left at hs ⊢
  obtain ⟨_, d'⟩ := left
  cases hs with
  | idle | cut => exact UInt64.le_refl _
  | unsubscribe _ _ found =>
    have hcount := h.subscriberCount
    have hpos := List.length_pos_of_mem (List.mem_of_find?_eq_some found)
    have hdown := TransportMetrics.toNat_sub_one d.metrics.subscribers (by omega)
    simp only [TransportMetrics.removeSubscriber, UInt64.le_iff_toNat_le, hdown]
    omega

/-- The counts that a domain gives are those of its metrics. -/
structure CountsAgree (trace : Trace G) (d : Domain G) : Prop where
  publishers : d.publisherCount = .ok d.metrics.publishers.toNat
  subscribers : d.subscriberCount = .ok d.metrics.subscribers.toNat
  livePublishers : d.metrics.publishers.toNat = (livePublishers trace).length
  liveSubscriptions : d.metrics.subscribers.toNat = (liveSubscriptions trace).length
  withdraw : ∀ id, (d.withdraw id).metrics.publishers ≤ d.metrics.publishers
  unsubscribe : ∀ id, (d.unsubscribe id).2.metrics.subscribers ≤ d.metrics.subscribers

theorem Booked.countsAgree (h : Booked trace d) : CountsAgree trace d := by
  have hlength := congrArg List.length h.publishers
  simp only [Endpoints.roster, List.length_map] at hlength
  refine ⟨?_, ?_, ?_, ?_, h.publishers_withdraw_le, h.subscribers_unsubscribe_le⟩
  · rw [Domain.publisherCount, read_of_open h.unpoisoned, h.publisherCount]
    rfl
  · rw [Domain.subscriberCount, read_of_open h.unpoisoned, h.subscriberCount]
    rfl
  · rw [h.publisherCount, hlength]
  · rw [h.subscriberCount, h.subscriptions]

/-- The books of a domain, after every run in which no task fails inside the lock and the identities do
not run out: those that were handed out rise, publishers and counts tell of those who are there, and a
subscription is active exactly while the endpoints list it. Once a task fails inside the lock the books stay
as they are, and nobody reads them any more. -/
theorem books_agree {c : TransportConfig} {actions : List (Action G)}
    (hrun : (start c).run actions = (trace, d)) (hn : asked actions < 2 ^ 64)
    (hsafe : .failInside ∉ actions) :
    (joinedIds trace).Pairwise (fun a b => a.value < b.value) ∧
    (∀ p channel, (p, channel) ∈ livePublishers trace → SeesSubscribers trace d p channel) ∧
    CountsAgree trace d ∧
    (∀ id, (d.isActive id = true ↔ ∃ s, d.endpoints.value.subscription? id = some s) ∧
      (d.isActive id = true ↔ ∃ s ∈ liveSubscriptions trace, s.id = id)) ∧
    ∀ more after d', d.failInside.run more = (after, d') → Sealed d more after d' ∧ Unread d' := by
  have hr := recorded_run hrun hn
  have hb := booked_run hrun hn hsafe
  refine ⟨hr.joined.ascending, ?_, hb.countsAgree, ?_, fun _ _ _ hlater =>
    ⟨sealed_run hlater, (sealed_run hlater).unread⟩⟩
  · intro p channel hm
    exact hb.seesSubscribers hr.toNumbered hm
  · intro id
    rw [hb.active_iff, ← hb.subscriptions, List.mem_map]
    refine ⟨?_, .rfl⟩
    rw [← Option.isSome_iff_exists, Endpoints.subscription?, List.find?_isSome]
    simp only [decide_eq_true_eq]

/-- Subscriptions whose channels overlap come, and one of them goes. -/
def overlapping : List (Action Unit) :=
  [.advertise "fooChannel", .subscribe "foo" true, .subscribe "bar" true,
    .subscribe "fooChannel" true, .publish ⟨1⟩ (.withData []), .unsubscribe ⟨2⟩]

theorem books_agree_overlapping :
    asked overlapping < 2 ^ 64 ∧ .failInside ∉ overlapping ∧
    ∃ trace d, (start {}).run overlapping = (trace, d) ∧
      joinedIds trace = [⟨1⟩, ⟨2⟩, ⟨3⟩, ⟨4⟩] ∧
      (joinedIds trace).Pairwise (fun a b => a.value < b.value) ∧
      d.watched ⟨1⟩ = 1 ∧ SeesSubscribers trace d ⟨1⟩ "fooChannel" ∧ CountsAgree trace d ∧
      (d.isActive ⟨4⟩ = true ↔ ∃ s, d.endpoints.value.subscription? ⟨4⟩ = some s) := by
  have hn : asked overlapping < 2 ^ 64 := by decide
  have hsafe : .failInside ∉ overlapping := by simp [overlapping]
  obtain ⟨hrising, hsees, hcounts, hactive, -⟩ := books_agree (c := {}) rfl hn hsafe
  exact ⟨hn, hsafe, _, _, rfl, rfl, hrising, rfl, hsees _ _ (by decide +kernel), hcounts,
    (hactive ⟨4⟩).1⟩

end Domain

end TypedBus
