import TypedBus.Proofs.Transport.Bookkeeping
import TypedBus.Subscriber.Basic

namespace TypedBus

theorem filter_key_eq {α κ : Type} [DecidableEq κ] {key : α → κ} {l : List α}
    (h : (l.map key).Nodup) (k : κ) :
    l.filter (fun x => decide (key x = k)) = (l.find? fun x => decide (key x = k)).toList := by
  induction l with
  | nil => rfl
  | cons x l ih =>
    simp only [List.map_cons, List.nodup_cons] at h
    by_cases hx : key x = k
    · have hrest : l.filter (fun y => decide (key y = k)) = [] := by
        apply List.filter_eq_nil_iff.mpr
        intro y hy he
        exact h.1 (hx.trans (of_decide_eq_true he).symm ▸ List.mem_map_of_mem hy)
      rw [List.filter_cons_of_pos (by simpa using hx), List.find?_cons_of_pos (by simpa using hx), hrest]
      rfl
    · rw [List.filter_cons_of_neg (by simpa using hx), List.find?_cons_of_neg (by simpa using hx),
        ih h.2]

namespace Endpoints

variable {G : Type} {e : Endpoints G} {given : PeerId → Option G}

/-- Every publisher has the greeter that it was given. -/
def Greeted (e : Endpoints G) (given : PeerId → Option G) : Prop :=
  ∀ p ∈ e.publishers, p.greeter = given p.id

theorem Greeted.refresh (h : e.Greeted given) (channel : String) :
    (e.refresh channel).Greeted given := by
  intro p hp
  obtain ⟨q, hq, rfl⟩ := List.mem_map.mp hp
  split <;> exact h q hq

theorem Greeted.subscribe (h : e.Greeted given) (id : PeerId) (channel : String) :
    (e.subscribe id channel).Greeted given :=
  Greeted.refresh (e := { e with subscriptions := e.subscriptions ++ [⟨id, channel⟩] }) h channel

theorem Greeted.unsubscribe (h : e.Greeted given) (s : Subscription) :
    (e.unsubscribe s).Greeted given :=
  Greeted.refresh (e := { e with subscriptions := e.subscriptions.filter (·.id ≠ s.id) }) h s.channel

theorem Greeted.setGreeter (h : e.Greeted given) (id : PeerId) (greeter : Option G) :
    (e.setGreeter id greeter).Greeted fun p => if id = p then greeter else given p := by
  intro p hp
  obtain ⟨q, hq, rfl⟩ := List.mem_map.mp hp
  by_cases he : q.id = id
  · simp [he]
  · simp only [if_neg he, if_neg (Ne.symm he)]
    exact h q hq

theorem Greeted.advertise (h : e.Greeted given) {id : PeerId}
    (hnew : id ∉ e.roster.map (·.1)) (channel : String) :
    (e.advertise id channel).Greeted fun p => if id = p then none else given p := by
  intro p hp
  rcases List.mem_append.mp hp with hold | hlast
  · have hne : id ≠ p.id := by
      rintro rfl
      exact hnew (List.mem_map.mpr ⟨_, List.mem_map_of_mem hold, rfl⟩)
    simp only [if_neg hne]
    exact h p hold
  · obtain rfl := List.mem_singleton.mp hlast
    exact (if_pos rfl).symm

theorem greeters_refresh (e : Endpoints G) (changed channel : String) :
    (e.refresh changed).greeters channel = e.greeters channel := by
  simp only [greeters, refresh, List.filterMap_map]
  apply List.filterMap_congr
  intro p _
  simp only [Function.comp_apply]
  split <;> rfl

theorem greeters_subscribe (e : Endpoints G) (id : PeerId) (subscribed channel : String) :
    (e.subscribe id subscribed).greeters channel = e.greeters channel :=
  greeters_refresh _ subscribed channel

theorem greeters_unsubscribe (e : Endpoints G) (s : Subscription) (channel : String) :
    (e.unsubscribe s).greeters channel = e.greeters channel :=
  greeters_refresh _ s.channel channel

end Endpoints

namespace Domain

variable {G : Type} {d d' : Domain G} {a : Action G} {o : Outcome G} {trace : Trace G} {n : Nat}
  {p : PeerId}

/-- The calls to greeters that come of something. -/
def calls : Outcome G → List (Greeting G)
  | .joined _ greetings => greetings
  | .gone greetings => greetings
  | _ => []

/-- The calls that an event makes on behalf of a publisher. -/
def calledBy (p : PeerId) (e : Action G × Outcome G) : List (Greeting G) :=
  (calls e.2).filter (·.publisher = p)

/-- All calls on behalf of a publisher, in the order in which they were made. -/
def called (p : PeerId) (trace : Trace G) : List (Greeting G) := trace.flatMap (calledBy p)

def installedAfter (p : PeerId) (greeter : Option G) : Action G × Outcome G → Option G
  | (.advertise _, .joined id _) => if id = p then none else greeter
  | (.setGreeter id given, _) => if id = p then given else greeter
  | _ => greeter

/-- The greeter that was last given to a publisher since it joined. -/
def installed (p : PeerId) (trace : Trace G) : Option G := trace.foldl (installedAfter p) none

/-- The call that an encounter with a subscription is for a publisher: none if the publisher is not there
or has no greeter, or if the subscription is to another channel. -/
def dueFor (p : PeerId) (before : Trace G) (encounter : Encounter) (s : Subscription) :
    List (Greeting G) :=
  match liveChannel? p before, installed p before with
  | some channel, some greeter =>
    if Channel.covers s.channel channel then [⟨greeter, encounter, p, s.id⟩] else []
  | _, _ => []

/-- The calls that are due to a publisher for an event: a welcome for every subscription that joins, a
farewell for every one that is there and is cancelled. -/
def due (p : PeerId) (before : Trace G) : Action G × Outcome G → List (Greeting G)
  | (.subscribe channel _, .joined id _) => dueFor p before .welcome ⟨id, channel⟩
  | (.unsubscribe id, _) =>
    ((liveSubscriptions before).filter (·.id = id)).flatMap (dueFor p before .farewell)
  | _ => []

theorem installed_concat (e : Action G × Outcome G) :
    installed p (trace ++ [e]) = installedAfter p (installed p trace) e := by
  simp [installed]

theorem called_concat (e : Action G × Outcome G) :
    called p (trace ++ [e]) = called p trace ++ calledBy p e := by
  simp [called]

theorem installed_concat_fun (e : Action G × Outcome G) :
    (installed · (trace ++ [e])) = fun p => installedAfter p (installed p trace) e :=
  funext fun _ => installed_concat e

theorem greeted_step (h : d.endpoints.value.Greeted (installed · trace)) (hn : Numbered n d)
    (hs : Step d a o d') (hu : d.endpoints.poisoned = false) (hlt : n + asks a < 2 ^ 64) :
    d'.endpoints.value.Greeted (installed · (trace ++ [(a, o)])) := by
  rw [installed_concat_fun]
  cases hs with
  | idle idle =>
    cases idle with
    | setGreeter poisoned =>
      rw [hu] at poisoned
      cases poisoned
    | withdraw | subscribe | unsubscribe | publish | pass | wait | deliver => exact h
  | shutOut _ poisoned =>
    rw [hu] at poisoned
    cases poisoned
  | advertise => exact h.advertise (hn.publishers.not_mem (hn.next_eq hlt)) _
  | withdraw => exact fun q hq => h q (List.mem_filter.mp hq).1
  | setGreeter => exact h.setGreeter _ _
  | subscribe => exact h.subscribe _ _
  | unsubscribe => exact h.unsubscribe _
  | cut | publish | queue | drop | deliver | failInside => exact h

theorem greeted_run {c : TransportConfig} {actions : List (Action G)}
    (hrun : (start c).run actions = (trace, d)) (hn : asked actions < 2 ^ 64)
    (hsafe : .failInside ∉ actions) : d.endpoints.value.Greeted (installed · trace) := by
  refine booked_induction (P := fun trace d => d.endpoints.value.Greeted (installed · trace))
    ?_ ?_ hrun hn hsafe
  · intro q hq
    cases hq
  · intro n trace d₁ a o d₂ hr hb hlt hs ih
    exact greeted_step ih hr.toNumbered hs hb.unpoisoned hlt

def callFor (encounter : Encounter) (s : Subscription) (q : Advertisement G) : Option (Greeting G) :=
  if Channel.covers s.channel q.channel then
    q.greeter.map fun greeter => ⟨greeter, encounter, q.id, s.id⟩
  else none

theorem greetings_eq (e : Endpoints G) (encounter : Encounter) (s : Subscription) :
    greetings e encounter s = e.publishers.filterMap (callFor encounter s) := by
  simp only [greetings, Endpoints.greeters, List.map_filterMap]
  apply List.filterMap_congr
  intro q _
  simp only [callFor]
  split
  · rw [Option.map_map]
    rfl
  · rfl

/-- Of the calls for a subscription, a publisher gets the one that its own entry makes. -/
theorem filter_greetings {e : Endpoints G} (h : (e.publishers.map (·.id)).Nodup)
    (encounter : Encounter) (s : Subscription) (p : PeerId) :
    (greetings e encounter s).filter (·.publisher = p) =
      (e.publisher? p).toList.filterMap (callFor encounter s) := by
  rw [greetings_eq, Endpoints.publisher?, ← filter_key_eq h p, List.filter_filterMap, List.filterMap_filter]
  apply List.filterMap_congr
  intro q _
  simp only [callFor]
  by_cases hp : q.id = p <;> by_cases hc : Channel.covers s.channel q.channel <;>
    cases q.greeter <;> simp_all

theorem Numbered.publisherIds_nodup (h : Numbered n d) :
    (d.endpoints.value.publishers.map (·.id)).Nodup := by
  have hnodup := h.publishers.nodup
  rwa [Endpoints.roster, List.map_map] at hnodup

theorem filter_greetings_eq_dueFor (hb : Booked trace d) (hn : Numbered n d)
    (hg : d.endpoints.value.Greeted (installed · trace)) (encounter : Encounter) (s : Subscription)
    (p : PeerId) :
    (greetings d.endpoints.value encounter s).filter (·.publisher = p) =
      dueFor p trace encounter s := by
  rw [filter_greetings hn.publisherIds_nodup, dueFor, hb.liveChannel?_eq, channelOf?]
  cases hq : d.endpoints.value.publisher? p with
  | none => rfl
  | some q =>
    obtain rfl := Endpoints.id_of_publisher? hq
    have hgiven : q.greeter = installed q.id trace := hg q (List.mem_of_find?_eq_some hq)
    rw [← hgiven]
    cases hgreeter : q.greeter with
    | none => simp [callFor, hgreeter]
    | some greeter => by_cases hc : Channel.covers s.channel q.channel <;> simp [callFor, hgreeter, hc]

/-- A subscription is cancelled when it is among those that have begun and not ended. -/
theorem Booked.filter_liveSubscriptions (h : Booked trace d) (hn : Numbered n d) (id : PeerId) :
    (liveSubscriptions trace).filter (·.id = id) = (d.endpoints.value.subscription? id).toList := by
  rw [← h.subscriptions]
  exact filter_key_eq hn.subscriptions.nodup id

/-- Every step makes the calls that are due, and no others. -/
theorem calledBy_step (hb : Booked trace d) (hn : Numbered n d)
    (hg : d.endpoints.value.Greeted (installed · trace)) (hs : Step d a o d') (p : PeerId) :
    calledBy p (a, o) = due p trace (a, o) := by
  cases hs with
  | idle idle =>
    cases idle with
    | @unsubscribe id inactive =>
      have hnone : d.endpoints.value.subscription? id = none := by
        cases hs : d.endpoints.value.subscription? id with
        | none => rfl
        | some s =>
          obtain rfl := Endpoints.id_of_subscription? hs
          rw [hb.active_iff.mpr (List.mem_map_of_mem (List.mem_of_find?_eq_some hs))] at inactive
          cases inactive
      rw [due, hb.filter_liveSubscriptions hn, hnone]
      rfl
    | withdraw | setGreeter | subscribe | publish | pass | wait | deliver => rfl
  | shutOut _ poisoned =>
    rw [hb.unpoisoned] at poisoned
    cases poisoned
  | @subscribe channel =>
    have hcalls := filter_greetings_eq_dueFor hb hn hg .welcome ⟨d.nextId, channel⟩ p
    simpa only [calledBy, calls, due, greetings, Endpoints.greeters_subscribe] using hcalls
  | cut active unlisted => exact absurd (unlisted hb.unpoisoned) (hb.listed active)
  | @unsubscribe id s _ _ found =>
    have hcalls := filter_greetings_eq_dueFor hb hn hg .farewell s p
    rw [due, hb.filter_liveSubscriptions hn, found]
    simpa [calledBy, calls, greetings, Endpoints.greeters_unsubscribe] using hcalls
  | advertise | withdraw | setGreeter | publish | queue | drop | deliver | failInside => rfl

/-- Who is called: a publisher that is there, through the greeter that it has, and for a subscription
that it reaches. -/
theorem mem_dueFor {encounter : Encounter} {s : Subscription} {call : Greeting G}
    (h : call ∈ dueFor p trace encounter s) :
    ∃ channel greeter, (p, channel) ∈ livePublishers trace ∧ installed p trace = some greeter ∧
      s.channel.toList <+: channel.toList ∧ call = ⟨greeter, encounter, p, s.id⟩ := by
  simp only [dueFor, liveChannel?] at h
  split at h
  · rename_i channel greeter hlive hgreeter
    split at h
    · rename_i hcovers
      obtain ⟨e, he, rfl⟩ := Option.map_eq_some_iff.mp hlive
      obtain rfl : e.1 = p := by simpa using List.find?_some he
      exact ⟨e.2, greeter, List.mem_of_find?_eq_some he, hgreeter, Channel.covers_iff.mp hcovers,
        List.mem_singleton.mp h⟩
    · cases h
  · cases h

theorem length_dueFor_le (p : PeerId) (trace : Trace G) (encounter : Encounter) (s : Subscription) :
    (dueFor p trace encounter s).length ≤ 1 := by
  simp only [dueFor]
  split
  · split <;> simp
  · simp

/-- What a call is made for. -/
inductive Occasion (p : PeerId) (before : Trace G) (call : Greeting G) :
    Action G × Outcome G → Prop
  | joins {channel : String} {running : Bool} {id : PeerId} {greetings : List (Greeting G)}
      (welcomed : call ∈ dueFor p before .welcome ⟨id, channel⟩) :
      Occasion p before call (.subscribe channel running, .joined id greetings)
  | leaves {s : Subscription} {o : Outcome G} (listed : s ∈ liveSubscriptions before)
      (seenOff : call ∈ dueFor p before .farewell s) :
      Occasion p before call (.unsubscribe s.id, o)

theorem occasion_of_mem_due {call : Greeting G} {e : Action G × Outcome G}
    (h : call ∈ due p trace e) : Occasion p trace call e := by
  simp only [due] at h
  split at h
  · exact .joins h
  · obtain ⟨s, hs, hcall⟩ := List.mem_flatMap.mp h
    obtain ⟨hlisted, hid⟩ := List.mem_filter.mp hs
    obtain rfl : s.id = _ := by simpa using hid
    exact .leaves hlisted hcall
  · cases h

theorem length_due_le (hb : Booked trace d) (hn : Numbered n d) (p : PeerId)
    (e : Action G × Outcome G) : (due p trace e).length ≤ 1 := by
  simp only [due]
  split
  · exact length_dueFor_le _ _ _ _
  · rw [hb.filter_liveSubscriptions hn]
    cases d.endpoints.value.subscription? _ with
    | none => simp
    | some s => simpa using length_dueFor_le p trace .farewell s
  · exact Nat.zero_le _

/-- The encounters with a subscription that a publisher is called for in an event. -/
def encountersBy (p s : PeerId) (e : Action G × Outcome G) : List Encounter :=
  ((calledBy p e).filter (·.subscriber = s)).map (·.encounter)

/-- The encounters of a publisher with a subscription, in the order of the calls for them. -/
def encounters (p s : PeerId) (trace : Trace G) : List Encounter :=
  ((called p trace).filter (·.subscriber = s)).map (·.encounter)

theorem encounters_concat (p s : PeerId) (trace : Trace G) (e : Action G × Outcome G) :
    encounters p s (trace ++ [e]) = encounters p s trace ++ encountersBy p s e := by
  simp [encounters, encountersBy, called_concat]

/-- In a step a publisher meets a subscription that joins, or parts with one that is there, or neither. -/
theorem encountersBy_step (hb : Booked trace d) (hn : Numbered n d)
    (hg : d.endpoints.value.Greeted (installed · trace)) (hs : Step d a o d') (p s : PeerId) :
    encountersBy p s (a, o) = [] ∨
    (s ∈ joinedBy (a, o) ∧ encountersBy p s (a, o) = [.welcome]) ∨
    (a = .unsubscribe s ∧ d.isActive s = true ∧ encountersBy p s (a, o) = [.farewell]) := by
  have hcalls := calledBy_step hb hn hg hs p
  have hlength := length_due_le hb hn p (a, o)
  rw [encountersBy, hcalls]
  match hdue : due p trace (a, o) with
  | [] => exact .inl rfl
  | [call] =>
    have hmem : call ∈ due p trace (a, o) := hdue ▸ List.mem_singleton.mpr rfl
    by_cases hsub : call.subscriber = s
    · rw [List.filter_cons_of_pos (by simpa using hsub), List.filter_nil, List.map_singleton]
      cases occasion_of_mem_due hmem with
      | joins welcomed =>
        obtain ⟨channel, greeter, -, -, -, rfl⟩ := mem_dueFor welcomed
        exact .inr (.inl ⟨List.mem_singleton.mpr hsub.symm, rfl⟩)
      | leaves listed seenOff =>
        obtain ⟨channel, greeter, -, -, -, rfl⟩ := mem_dueFor seenOff
        obtain rfl := hsub
        rw [← hb.subscriptions] at listed
        exact .inr (.inr ⟨rfl, hb.active_iff.mpr (List.mem_map_of_mem listed), rfl⟩)
    · rw [List.filter_cons_of_neg (by simpa using hsub)]
      exact .inl rfl
  | first :: second :: rest =>
    rw [hdue, List.length_cons, List.length_cons] at hlength
    omega

/-- How far a publisher and a subscription have got with each other. -/
structure Acquainted (p s : PeerId) (trace : Trace G) (d : Domain G) : Prop where
  strangers : s ∉ joinedIds trace → encounters p s trace = [] ∧ d.isActive s = false
  present : d.isActive s = true → (encounters p s trace).Sublist [.welcome]
  once : (encounters p s trace).Sublist [.welcome, .farewell]

namespace Acquainted

variable {s : PeerId}

/-- Who is there after a step has been welcomed at most, or has just come and is a stranger. -/
theorem present_step (h : Acquainted p s trace d) (hr : Recorded n trace d) (hs : Step d a o d')
    (hlt : n + asks a < 2 ^ 64) (ha : d'.isActive s = true) :
    (encounters p s trace).Sublist [.welcome] := by
  by_cases hnew : s ∈ joinedBy (a, o)
  · have hunknown : s ∉ joinedIds trace := fun hm => hr.not_mem_joinedBy hs hlt hm hnew
    rw [(h.strangers hunknown).1]
    exact List.nil_sublist _
  · refine h.present ?_
    rw [← Bool.not_eq_false]
    intro hinactive
    rw [inactive_step hs hinactive hnew] at ha
    cases ha

theorem strangers_step (h : Acquainted p s trace d) (hs : Step d a o d')
    (hunknown : s ∉ joinedIds (trace ++ [(a, o)])) :
    encounters p s trace = [] ∧ d.isActive s = false ∧ d'.isActive s = false := by
  rw [joinedIds_concat, List.mem_append, not_or] at hunknown
  obtain ⟨hnone, hinactive⟩ := h.strangers hunknown.1
  exact ⟨hnone, hinactive, inactive_step hs hinactive hunknown.2⟩

theorem step (h : Acquainted p s trace d) (hr : Recorded n trace d) (hb : Booked trace d)
    (hg : d.endpoints.value.Greeted (installed · trace)) (hs : Step d a o d')
    (hlt : n + asks a < 2 ^ 64) : Acquainted p s (trace ++ [(a, o)]) d' := by
  have hstrangers := h.strangers_step hs
  have hpresent := h.present_step hr hs hlt
  have hconcat := encounters_concat p s trace (a, o)
  rcases encountersBy_step hb hr.toNumbered hg hs p s with
    hnone | ⟨hnew, hmeet⟩ | ⟨rfl, hactive, hpart⟩
  · rw [hnone, List.append_nil] at hconcat
    refine ⟨fun hunknown => ?_, fun ha => hconcat ▸ hpresent ha, hconcat ▸ h.once⟩
    obtain ⟨hnil, -, hinactive⟩ := hstrangers hunknown
    exact ⟨hconcat.trans hnil, hinactive⟩
  · -- whoever joins is new, so there was no encounter before
    have hunknown : s ∉ joinedIds trace := fun hm => hr.not_mem_joinedBy hs hlt hm hnew
    rw [(h.strangers hunknown).1, hmeet, List.nil_append] at hconcat
    refine ⟨fun hstill => ?_, fun _ => hconcat ▸ .refl _, ?_⟩
    · rw [joinedIds_concat] at hstill
      exact absurd (List.mem_append_right _ hnew) hstill
    · rw [hconcat]
      exact List.sublist_append_left [Encounter.welcome] [Encounter.farewell]
  · have hgone := inactive_of_unsubscribe hs
    rw [hpart] at hconcat
    refine ⟨fun hunknown => ?_, fun ha => ?_, ?_⟩
    · rw [(hstrangers hunknown).2.1] at hactive
      cases hactive
    · rw [hgone] at ha
      cases ha
    · rw [hconcat]
      exact (h.present hactive).append_right [.farewell]

end Acquainted

theorem acquainted_run {c : TransportConfig} {actions : List (Action G)}
    (hrun : (start c).run actions = (trace, d)) (hn : asked actions < 2 ^ 64)
    (hsafe : .failInside ∉ actions) (p s : PeerId) : Acquainted p s trace d := by
  refine (booked_induction (P := fun trace d => Acquainted p s trace d ∧
    d.endpoints.value.Greeted (installed · trace)) ?_ ?_ hrun hn hsafe).1
  · exact ⟨⟨fun _ => ⟨rfl, rfl⟩, fun _ => List.nil_sublist _, List.nil_sublist _⟩, nofun⟩
  · rintro n trace d₁ a o d₂ hr hb hlt hs ⟨ih, hg⟩
    exact ⟨ih.step hr hb hg hs hlt, greeted_step hg hr.toNumbered hs hb.unpoisoned hlt⟩

/-- All calls that are due to a publisher, in the order of the events that they are for. -/
def dueIn (p : PeerId) (trace : Trace G) : List (Greeting G) :=
  (withPast trace).flatMap fun x => due p x.1 x.2

theorem dueIn_concat (p : PeerId) (trace : Trace G) (e : Action G × Outcome G) :
    dueIn p (trace ++ [e]) = dueIn p trace ++ due p trace e := by
  simp [dueIn, withPast_concat]

theorem called_run {c : TransportConfig} {actions : List (Action G)}
    (hrun : (start c).run actions = (trace, d)) (hn : asked actions < 2 ^ 64)
    (hsafe : .failInside ∉ actions) (p : PeerId) : called p trace = dueIn p trace := by
  refine (booked_induction (P := fun trace d => called p trace = dueIn p trace ∧
    d.endpoints.value.Greeted (installed · trace)) ?_ ?_ hrun hn hsafe).1
  · exact ⟨rfl, nofun⟩
  · rintro n trace d₁ a o d₂ hr hb hlt hs ⟨ih, hg⟩
    refine ⟨?_, greeted_step hg hr.toNumbered hs hb.unpoisoned hlt⟩
    rw [called_concat, dueIn_concat, ih, calledBy_step hb hr.toNumbered hg hs]

theorem Shut.calls (h : Shut d o d') : calls o = [] := by
  cases o with
  | joined id greetings => exact absurd rfl (h.joins id greetings)
  | gone greetings => exact h.greets greetings rfl
  | silent | refused | started | passed | delivered => rfl

theorem called_of_failInside {actions : List (Action G)} (hrun : d.failInside.run actions = (trace, d'))
    (p : PeerId) : called p trace = [] := by
  refine run_induction (P := fun _ trace _ => called p trace = []) rfl ?_ hrun
  intro actions trace d₁ a o d₂ hbefore hs ih
  rw [called_concat, ih, calledBy, (shut_step hs (sealed_run hbefore).poisoned).calls]
  rfl

/-- When a greeter is called, its publisher has the subscription that is welcomed among its
subscribers, and the one that is seen off no more. -/
theorem subscribersOf_of_occasion {call : Greeting G} (h : Occasion p trace call (a, o))
    (hb : Booked (trace ++ [(a, o)]) d') (hn : Numbered n d') :
    call.subscriber ∈ d'.subscribersOf p ↔ call.encounter = .welcome := by
  cases h with
  | @joins channel running id greetings welcomed =>
    obtain ⟨published, greeter, hlive, -, hprefix, rfl⟩ := mem_dueFor welcomed
    have hstill : (p, published) ∈
        livePublishers (trace ++ [(.subscribe channel running, .joined id greetings)]) := by
      rw [livePublishers, List.foldl_append]
      exact hlive
    have hlisted : (⟨id, channel⟩ : Subscription) ∈
        liveSubscriptions (trace ++ [(.subscribe channel running, .joined id greetings)]) := by
      rw [liveSubscriptions, List.foldl_append]
      exact List.mem_append_right _ List.mem_cons_self
    have hsees := (hb.seesSubscribers hn hstill).subscribers id
    exact iff_of_true (hsees.mpr ⟨_, hlisted, rfl, hprefix⟩) rfl
  | @leaves s _ listed seenOff =>
    obtain ⟨published, greeter, hlive, -, -, rfl⟩ := mem_dueFor seenOff
    have hstill : (p, published) ∈ livePublishers (trace ++ [(.unsubscribe s.id, o)]) := by
      rw [livePublishers, List.foldl_append]
      exact hlive
    have hsees := (hb.seesSubscribers hn hstill).subscribers s.id
    refine iff_of_false ?_ (by simp)
    rw [hsees]
    rintro ⟨t, ht, hid, -⟩
    rw [liveSubscriptions, List.foldl_append] at ht
    exact absurd hid (by simpa using (List.mem_filter.mp ht).2)

/-- A typed subscriber that is closed cancels its subscription, and closed again does nothing. -/
theorem close_cancels {M : Type} {sub : TypedSubscriber M} {id : PeerId} (h : sub.raw = some id)
    (d : Domain G) :
    d.perform (.unsubscribe id) = (.gone (sub.close d).2.1, (sub.close d).2.2) ∧
      ∀ d' : Domain G, ((sub.close d).1.close d').2 = ([], d') := by
  simp [TypedSubscriber.close, h, perform]

/-- After every run in which no task fails inside the lock and the identities do not run out: for a
publisher the calls were made that were due, each to the greeter installed then and in the order of the
events; a subscription was welcomed at most once, seen off at most once, and not welcomed after that; and
at each call the publisher had a subscription among its subscribers exactly if it was being welcomed. To
close a typed subscriber is to cancel its subscription. Once a task fails inside the lock, no greeter is
called any more. -/
theorem greeters_are_called_when_due {c : TransportConfig} {actions : List (Action G)}
    (hrun : (start c).run actions = (trace, d)) (hn : asked actions < 2 ^ 64)
    (hsafe : .failInside ∉ actions) (p : PeerId) :
    called p trace = dueIn p trace ∧
    (∀ s, (encounters p s trace).Sublist [.welcome, .farewell]) ∧
    (∀ first a rest before d₁ o d₂, actions = first ++ a :: rest →
      (start c).run first = (before, d₁) → d₁.perform a = (o, d₂) →
      ∀ call ∈ calledBy p (a, o), call.subscriber ∈ d₂.subscribersOf p ↔ call.encounter = .welcome) ∧
    (∀ (M : Type) (sub : TypedSubscriber M) (id : PeerId) (d : Domain G), sub.raw = some id →
      d.perform (.unsubscribe id) = (.gone (sub.close d).2.1, (sub.close d).2.2) ∧
        ∀ d' : Domain G, ((sub.close d).1.close d').2 = ([], d')) ∧
    ∀ more after d', d.failInside.run more = (after, d') → called p after = [] := by
  refine ⟨called_run hrun hn hsafe p, fun s => (acquainted_run hrun hn hsafe p s).once, ?_,
    fun M sub id d h => close_cancels h d, fun _ _ _ hlater => called_of_failInside hlater p⟩
  rintro first a rest before d₁ o d₂ rfl hfirst hperform call hcall
  have hnow : (start c).run (first ++ [a]) = (before ++ [(a, o)], d₂) := by
    rw [run_append, hfirst]
    simp [run, hperform]
  rw [← List.singleton_append, ← List.append_assoc] at hn hsafe
  have hlt := Nat.lt_of_le_of_lt (asked_le_append _ _) hn
  have hsafe' : .failInside ∉ first ++ [a] := fun hm => hsafe (List.mem_append_left _ hm)
  have hbefore : .failInside ∉ first := fun hm => hsafe' (List.mem_append_left _ hm)
  have hle := asked_le_append first [a]
  have hr := recorded_run hfirst (by omega)
  have hb := booked_run hfirst (by omega) hbefore
  have hg := greeted_run hfirst (by omega) hbefore
  have hs := step_perform d₁ a
  rw [hperform] at hs
  rw [calledBy_step hb hr.toNumbered hg hs] at hcall
  exact subscribersOf_of_occasion (occasion_of_mem_due hcall) (booked_run hnow hlt hsafe')
    (recorded_run hnow hlt).toNumbered

/-- A greeter is replaced and cleared while subscriptions come and go, one of them twice cancelled and
one of them to another channel. -/
def greeted : List (Action String) :=
  [.advertise "fooChannel", .setGreeter ⟨1⟩ (some "desk"), .subscribe "foo" true,
    .subscribe "bar" true, .setGreeter ⟨1⟩ (some "door"), .unsubscribe ⟨2⟩, .unsubscribe ⟨2⟩,
    .subscribe "" true, .setGreeter ⟨1⟩ none, .unsubscribe ⟨4⟩]

theorem greeters_are_called_when_due_sample :
    ∃ trace d, (start {}).run greeted = (trace, d) ∧ asked greeted < 2 ^ 64 ∧
      .failInside ∉ greeted ∧
      called ⟨1⟩ trace = [⟨"desk", .welcome, ⟨1⟩, ⟨2⟩⟩, ⟨"door", .farewell, ⟨1⟩, ⟨2⟩⟩,
        ⟨"door", .welcome, ⟨1⟩, ⟨4⟩⟩] ∧
      called ⟨1⟩ trace = dueIn ⟨1⟩ trace ∧ encounters ⟨1⟩ ⟨2⟩ trace = [.welcome, .farewell] ∧
      (encounters ⟨1⟩ ⟨2⟩ trace).Sublist [.welcome, .farewell] := by
  have hn : asked greeted < 2 ^ 64 := by decide
  have hsafe : .failInside ∉ greeted := by simp [greeted]
  obtain ⟨hcalled, honce, -⟩ := greeters_are_called_when_due (c := {}) rfl hn hsafe ⟨1⟩
  exact ⟨_, _, rfl, hn, hsafe, rfl, hcalled, rfl, honce ⟨2⟩⟩

end Domain

end TypedBus
