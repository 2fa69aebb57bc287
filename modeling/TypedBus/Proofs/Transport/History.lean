import TypedBus.Proofs.Transport.Identity

namespace TypedBus.Domain

variable {G : Type} {d d' : Domain G} {a : Action G} {o : Outcome G} {trace : Trace G}

def withPastFrom (before : Trace G) : Trace G → List (Trace G × (Action G × Outcome G))
  | [] => []
  | e :: after => (before, e) :: withPastFrom (before ++ [e]) after

/-- The events of a record, each with those before it. -/
def withPast (trace : Trace G) : List (Trace G × (Action G × Outcome G)) := withPastFrom [] trace

theorem withPastFrom_concat (before after : Trace G) (e : Action G × Outcome G) :
    withPastFrom before (after ++ [e]) = withPastFrom before after ++ [(before ++ after, e)] := by
  induction after generalizing before with
  | nil => simp [withPastFrom]
  | cons x after ih => simp [withPastFrom, ih]

theorem withPast_concat (trace : Trace G) (e : Action G × Outcome G) :
    withPast (trace ++ [e]) = withPast trace ++ [(trace, e)] :=
  withPastFrom_concat [] trace e

def joinedBy : Action G × Outcome G → List PeerId
  | (_, .joined id _) => [id]
  | _ => []

/-- All identities that were handed out, in the order in which they were. -/
def joinedIds (trace : Trace G) : List PeerId := trace.flatMap joinedBy

def advertisedBy (id : PeerId) : Action G × Outcome G → Option String
  | (.advertise channel, .joined joined _) => if joined = id then some channel else none
  | _ => none

/-- The channel of a publisher that has joined. -/
def channelIn (trace : Trace G) (id : PeerId) : Option String := trace.findSome? (advertisedBy id)

theorem joinedIds_concat (trace : Trace G) (e : Action G × Outcome G) :
    joinedIds (trace ++ [e]) = joinedIds trace ++ joinedBy e := by
  simp [joinedIds]

theorem channelIn_append {id : PeerId} {channel : String} (h : channelIn trace id = some channel)
    (later : Trace G) : channelIn (trace ++ later) id = some channel := by
  rw [channelIn] at h
  rw [channelIn, List.findSome?_append, h]
  rfl

theorem channelIn_eq_none {id : PeerId} (h : id ∉ joinedIds trace) : channelIn trace id = none := by
  apply List.findSome?_eq_none_iff.mpr
  rintro ⟨a, o⟩ he
  simp only [advertisedBy]
  split
  · rename_i joined _ heq
    cases heq
    refine if_neg ?_
    rintro rfl
    exact h (List.mem_flatMap.mpr ⟨_, he, by simp [joinedBy]⟩)
  · rfl

def publishersAfter (publishers : List (PeerId × String)) :
    Action G × Outcome G → List (PeerId × String)
  | (.advertise channel, .joined id _) => publishers ++ [(id, channel)]
  | (.withdraw id, _) => publishers.filter (·.1 ≠ id)
  | _ => publishers

/-- The publishers that have joined and not left. -/
def livePublishers (trace : Trace G) : List (PeerId × String) := trace.foldl publishersAfter []

def liveChannel? (p : PeerId) (trace : Trace G) : Option String :=
  ((livePublishers trace).find? (·.1 = p)).map (·.2)

def subscriptionsAfter (subscriptions : List Subscription) :
    Action G × Outcome G → List Subscription
  | (.subscribe channel _, .joined id _) => subscriptions ++ [⟨id, channel⟩]
  | (.unsubscribe id, _) => subscriptions.filter (·.id ≠ id)
  | _ => subscriptions

/-- The subscriptions that have begun and not ended. -/
def liveSubscriptions (trace : Trace G) : List Subscription := trace.foldl subscriptionsAfter []

theorem config_step (hs : Step d a o d') : d'.config = d.config := by
  cases hs <;> rfl

theorem roster_step_of_open (hs : Step d a o d') (hp : d.endpoints.poisoned = false) :
    d'.endpoints.value.roster = publishersAfter d.endpoints.value.roster (a, o) := by
  cases hs with
  | idle idle =>
    cases idle with
    | @withdraw id absent =>
      have hnone := absent hp
      refine (List.filter_eq_self.mpr ?_).symm
      rintro e he
      obtain ⟨p, hm, rfl⟩ := List.mem_map.mp he
      simpa using List.find?_eq_none.mp hnone p hm
    | setGreeter | subscribe | unsubscribe | publish | pass | wait | deliver => rfl
  | @shutOut a e hasks _ => cases a <;> first | rfl | cases hasks
  | advertise => exact Endpoints.roster_advertise _ _ _
  | withdraw => exact Endpoints.roster_withdraw _ _
  | setGreeter => exact Endpoints.roster_setGreeter _ _ _
  | subscribe => exact Endpoints.roster_subscribe _ _ _
  | unsubscribe => exact Endpoints.roster_unsubscribe _ _
  | cut | publish | queue | drop | deliver | failInside => rfl

theorem roster_step_of_poisoned (hs : Step d a o d') (hp : d.endpoints.poisoned = true) :
    d'.endpoints.value.roster = d.endpoints.value.roster :=
  congrArg Endpoints.roster (shut_step hs hp).endpoints

/-- The publishers after a step are those before it, and the one that it brings. -/
theorem mem_roster_step (hs : Step d a o d') {e : PeerId × String}
    (he : e ∈ d'.endpoints.value.roster) :
    e ∈ d.endpoints.value.roster ∨ a = .advertise e.2 ∧ ∃ greetings, o = .joined e.1 greetings := by
  cases hp : d.endpoints.poisoned with
  | true => exact .inl (roster_step_of_poisoned hs hp ▸ he)
  | false =>
    rw [roster_step_of_open hs hp] at he
    simp only [publishersAfter] at he
    split at he
    · rename_i channel id greetings heq
      cases heq
      rcases List.mem_append.mp he with he | he
      · exact .inl he
      · obtain rfl := List.mem_singleton.mp he
        exact .inr ⟨rfl, greetings, rfl⟩
    · exact .inl (List.mem_filter.mp he).1
    · exact .inl he

/-- A domain after a run, of which `n` identities have been asked for. -/
structure Recorded (n : Nat) (trace : Trace G) (d : Domain G) : Prop extends Numbered n d where
  joined : Rising n (joinedIds trace)
  channels : ∀ e ∈ d.endpoints.value.roster, channelIn trace e.1 = some e.2

namespace Recorded

variable {n : Nat}

theorem start (c : TransportConfig) : Recorded 0 [] (Domain.start c : Domain G) where
  toNumbered := .start c
  joined := .nil 0
  channels := by simp [Domain.start, Endpoints.roster]

theorem joined_step (h : Recorded n trace d) (hs : Step d a o d') (hn : n + asks a < 2 ^ 64) :
    Rising (n + asks a) (joinedIds (trace ++ [(a, o)])) := by
  rw [joinedIds_concat]
  cases hs with
  | idle idle =>
    cases idle <;> simpa [joinedBy] using h.joined.mono (by omega)
  | advertise => exact h.joined.concat (h.next_eq hn)
  | subscribe => exact h.joined.concat (h.next_eq hn)
  | shutOut | withdraw | setGreeter | cut | unsubscribe | publish | queue | drop | deliver |
    failInside => simpa [joinedBy] using h.joined.mono (by omega)

theorem not_mem_joinedBy (h : Recorded n trace d) (hs : Step d a o d') (hn : n + asks a < 2 ^ 64)
    {id : PeerId} (hid : id ∈ joinedIds trace) : id ∉ joinedBy (a, o) := by
  have hd := (h.joined_step hs hn).nodup
  rw [joinedIds_concat] at hd
  intro hm
  exact (List.nodup_append.mp hd).2.2 id hid id hm rfl

theorem channels_step (h : Recorded n trace d) (hs : Step d a o d') (hn : n + asks a < 2 ^ 64) :
    ∀ e ∈ d'.endpoints.value.roster, channelIn (trace ++ [(a, o)]) e.1 = some e.2 := by
  intro e he
  rcases mem_roster_step hs he with he | ⟨rfl, greetings, rfl⟩
  · exact channelIn_append (h.channels e he) _
  · have hnew : e.1 ∉ joinedIds trace := fun hm =>
      h.not_mem_joinedBy hs hn hm (List.mem_singleton.mpr rfl)
    have hnone := channelIn_eq_none hnew
    rw [channelIn] at hnone
    rw [channelIn, List.findSome?_append, hnone]
    simp [advertisedBy]

theorem step (h : Recorded n trace d) (hs : Step d a o d') (hn : n + asks a < 2 ^ 64) :
    Recorded (n + asks a) (trace ++ [(a, o)]) d' where
  toNumbered := h.toNumbered.step hs hn
  joined := h.joined_step hs hn
  channels := h.channels_step hs hn

end Recorded

theorem recorded_run {c : TransportConfig} {actions : List (Action G)}
    (hrun : (start c).run actions = (trace, d)) (hn : asked actions < 2 ^ 64) :
    Recorded (asked actions) trace d := by
  refine run_induction (P := fun actions trace d =>
    asked actions < 2 ^ 64 → Recorded (asked actions) trace d) ?_ ?_ hrun hn
  · intro _
    exact .start c
  · intro actions trace d₁ a o d₂ _ hs ih hn
    rw [asked_concat] at hn ⊢
    exact (ih (by omega)).step hs hn

end TypedBus.Domain
