import TypedBus.Proofs.Transport.History

namespace TypedBus.Domain

variable {G : Type} {d d' : Domain G} {a : Action G} {o : Outcome G} {trace : Trace G} {n : Nat}
  {s : PeerId}

def receivedBy (s : PeerId) : Action G × Outcome G → List Letter
  | (.deliver id, .delivered letter) => if id = s then [letter] else []
  | _ => []

/-- What the receiver of a subscription was handed, the oldest letter first. -/
def received (s : PeerId) (trace : Trace G) : List Letter := trace.flatMap (receivedBy s)

def sentBy (s : PeerId) : Action G × Outcome G → List Letter
  | (.pass _ route, .passed letter .queued) => if route = s then [letter] else []
  | _ => []

/-- What was sent to a subscription, that is put into its queue. -/
def sent (s : PeerId) (trace : Trace G) : List Letter := trace.flatMap (sentBy s)

theorem received_append (front back : Trace G) :
    received s (front ++ back) = received s front ++ received s back := by
  simp [received]

theorem received_concat (e : Action G × Outcome G) :
    received s (trace ++ [e]) = received s trace ++ receivedBy s e := by
  simp [received]

theorem sent_concat (e : Action G × Outcome G) :
    sent s (trace ++ [e]) = sent s trace ++ sentBy s e := by
  simp [sent]

theorem queue_of_inbox? (h : d'.inbox? s = d.inbox? s) : d'.queue s = d.queue s := by
  rw [queue, queue, h]

theorem queue_of_inactive (h : d.isActive s = false) : d.queue s = [] := by
  rw [isActive, Option.isSome_eq_false_iff, Option.isNone_iff_eq_none] at h
  rw [queue, h]
  rfl

theorem isActive_of_queue {letter : Letter} {rest : List Letter} (h : d.queue s = letter :: rest) :
    d.isActive s = true := by
  rw [← Bool.not_eq_false]
  intro hf
  rw [queue_of_inactive hf] at h
  cases h

theorem queue_setQueue (h : d.isActive s = true) (id : PeerId) (queue : List Letter) :
    (d.setQueue id queue).queue s = if s = id then queue else d.queue s := by
  obtain ⟨b, hb⟩ := Option.isSome_iff_exists.mp h
  have hs : b.owner = s := by simpa using List.find?_some hb
  have hkey : (fun b : Inbox => decide (b.owner = s)) ∘
      (fun b => if b.owner = id then { b with queue } else b) = fun b => decide (b.owner = s) := by
    funext c
    simp only [Function.comp_apply]
    split <;> rfl
  have hset : (d.setQueue id queue).inbox? s =
      some (if b.owner = id then { b with queue } else b) := by
    rw [inbox?, setQueue, List.find?_map, hkey, ← inbox?, hb]
    rfl
  rw [Domain.queue, Domain.queue, hset, hb, hs]
  by_cases he : s = id <;> simp [he]

theorem isActive_setQueue (id other : PeerId) (queue : List Letter) :
    (d.setQueue id queue).isActive other = d.isActive other := by
  rw [Bool.eq_iff_iff, isActive_iff, isActive_iff, owners_setQueue]

theorem filter_setQueue (d : Domain G) (id : PeerId) (queue : List Letter) :
    (d.setQueue id queue).inboxes.filter (·.owner ≠ id) = d.inboxes.filter (·.owner ≠ id) := by
  have hkey : (fun b : Inbox => decide (b.owner ≠ id)) ∘
      (fun b => if b.owner = id then { b with queue } else b) = fun b => decide (b.owner ≠ id) := by
    funext b
    simp only [Function.comp_apply]
    split <;> rfl
  rw [setQueue, List.filter_map, hkey]
  conv_rhs => rw [← List.map_id (d.inboxes.filter _)]
  apply List.map_congr_left
  intro b hb
  exact if_neg (of_decide_eq_true (List.mem_filter.mp hb).2)

theorem inbox?_append (h : d.isActive s = true) (b : Inbox) :
    (d.inboxes ++ [b]).find? (·.owner = s) = d.inbox? s := by
  obtain ⟨c, hc⟩ := Option.isSome_iff_exists.mp h
  rw [inbox?] at hc ⊢
  rw [List.find?_append, hc]
  rfl

theorem inbox?_filter {id : PeerId} (h : s ≠ id) :
    (d.inboxes.filter (·.owner ≠ id)).find? (·.owner = s) = d.inbox? s := by
  rw [List.find?_filter, inbox?]
  congr 1
  funext b
  by_cases hb : b.owner = s <;> simp [hb, h]

theorem isActive_step (hs : Step d a o d') (h : d.isActive s = true) (hstay : a ≠ .unsubscribe s) :
    d'.isActive s = true := by
  have hne : ∀ id, a = .unsubscribe id → s ≠ id := by
    rintro id rfl rfl
    exact hstay rfl
  cases hs with
  | idle | shutOut | advertise | withdraw | setGreeter | publish | drop | failInside => exact h
  | subscribe => exact (congrArg Option.isSome (inbox?_append h _)).trans h
  | cut | unsubscribe => exact (congrArg Option.isSome (inbox?_filter (hne _ rfl))).trans h
  | queue | deliver =>
    rw [isActive_iff] at h ⊢
    exact (owners_setQueue _ _ _).symm ▸ h

/-- What a receiver is handed in a step comes off the front of its queue, and what is sent to it
joins at the end. -/
theorem queue_step (hs : Step d a o d') (h : d.isActive s = true) (hstay : a ≠ .unsubscribe s) :
    receivedBy s (a, o) ++ d'.queue s = d.queue s ++ sentBy s (a, o) := by
  have hne : ∀ id, a = .unsubscribe id → s ≠ id := by
    rintro id rfl rfl
    exact hstay rfl
  have same : d'.inbox? s = d.inbox? s → receivedBy s (a, o) = [] → sentBy s (a, o) = [] →
      receivedBy s (a, o) ++ d'.queue s = d.queue s ++ sentBy s (a, o) := by
    intro hi hr ht
    rw [queue_of_inbox? hi, hr, ht, List.nil_append, List.append_nil]
  cases hs with
  | idle idle => cases idle <;> exact same rfl rfl rfl
  | @shutOut a => cases a <;> exact same rfl rfl rfl
  | advertise | withdraw | setGreeter | publish | drop | failInside => exact same rfl rfl rfl
  | subscribe => exact same (inbox?_append h _) rfl rfl
  | cut | unsubscribe => exact same (inbox?_filter (hne _ rfl)) rfl rfl
  | @queue ticket route p _ _ _ _ =>
    change (d.setQueue route _).queue s = _
    rw [queue_setQueue h]
    by_cases he : s = route
    · subst he
      simp [sentBy]
    · simp [sentBy, he, Ne.symm he]
  | @deliver id letter rest first =>
    rw [queue_setQueue h]
    by_cases he : s = id
    · subst he
      simp [receivedBy, sentBy, first]
    · simp [receivedBy, sentBy, he, Ne.symm he]

/-- So the letters that a receiver has been handed and those that are left are always those that were in its
queue and those that were sent to it. -/
theorem fifo_concat {queued : List Letter} (hs : Step d a o d') (h : d.isActive s = true)
    (hstay : a ≠ .unsubscribe s) (hfifo : received s trace ++ d.queue s = queued ++ sent s trace) :
    received s (trace ++ [(a, o)]) ++ d'.queue s = queued ++ sent s (trace ++ [(a, o)]) := by
  rw [received_concat, sent_concat, List.append_assoc, queue_step hs h hstay, ← List.append_assoc,
    hfifo, List.append_assoc]

/-- A receiver is handed nothing but what is in its queue. -/
theorem receivedBy_subset (hs : Step d a o d') (s : PeerId) : receivedBy s (a, o) ⊆ d.queue s := by
  cases hs with
  | idle idle => cases idle <;> exact List.nil_subset _
  | @deliver id letter rest first =>
    simp only [receivedBy]
    split
    · rename_i he
      subst he
      rw [first]
      exact List.cons_subset_cons letter (List.nil_subset rest)
    · exact List.nil_subset _
  | @shutOut a => cases a <;> exact List.nil_subset _
  | advertise | withdraw | setGreeter | subscribe | cut | unsubscribe | publish | queue | drop |
    failInside => exact List.nil_subset _

theorem receivedBy_of_inactive (hs : Step d a o d') (h : d.isActive s = false) :
    receivedBy s (a, o) = [] :=
  List.subset_nil.mp (queue_of_inactive h ▸ receivedBy_subset hs s)

theorem inactive_step (hs : Step d a o d') (h : d.isActive s = false) (hnew : s ∉ joinedBy (a, o)) :
    d'.isActive s = false := by
  rw [← Bool.not_eq_true, isActive_iff] at h ⊢
  cases hs with
  | idle | shutOut | advertise | withdraw | setGreeter | publish | drop | failInside => exact h
  | subscribe =>
    rw [List.map_append, List.mem_append, not_or]
    exact ⟨h, hnew⟩
  | cut | unsubscribe => exact fun hm => h (((List.filter_sublist).map _).subset hm)
  | queue | deliver => exact (owners_setQueue _ _ _).symm ▸ h

theorem inactive_of_unsubscribe (hs : Step d (.unsubscribe s) o d') : d'.isActive s = false := by
  have gone : s ∉ (d.inboxes.filter (·.owner ≠ s)).map (·.owner) := by
    intro hm
    obtain ⟨b, hb, rfl⟩ := List.mem_map.mp hm
    simpa using (List.mem_filter.mp hb).2
  cases hs with
  | idle idle =>
    cases idle with
    | unsubscribe inactive => exact inactive
  | shutOut hasks _ => cases hasks
  | cut | unsubscribe =>
    rw [← Bool.not_eq_true, isActive_iff]
    exact gone

theorem bounded_step (h : d.Bounded) (hs : Step d a o d') : d'.Bounded := by
  cases hs with
  | idle | shutOut | advertise | withdraw | setGreeter | publish | drop | failInside => exact h
  | subscribe =>
    intro b hb
    rcases List.mem_append.mp hb with hb | hb
    · exact h b hb
    · obtain rfl := List.mem_singleton.mp hb
      exact Nat.zero_le _
  | cut | unsubscribe => exact fun b hb => h b (List.mem_filter.mp hb).1
  | @queue ticket route p _ _ _ room =>
    refine bounded_setQueue h route ?_
    rw [List.length_append, List.length_singleton]
    omega
  | @deliver id letter rest first =>
    refine bounded_setQueue h id ?_
    obtain ⟨b, hb⟩ := Option.isSome_iff_exists.mp (isActive_of_queue first)
    rw [queue, hb] at first
    have hle := h b (List.mem_of_find?_eq_some hb)
    change b.queue = letter :: rest at first
    rw [first, List.length_cons] at hle
    omega

theorem bounded_run {c : TransportConfig} {actions : List (Action G)}
    (hrun : (start c).run actions = (trace, d)) :
    d.config = c ∧ d.Bounded := by
  refine run_induction (P := fun _ _ d => d.config = c ∧ d.Bounded) ?_ ?_ hrun
  · refine ⟨rfl, ?_⟩
    intro b hb
    cases hb
  · rintro actions trace d₁ a o d₂ - hs ⟨hc, hb⟩
    exact ⟨(config_step hs).trans hc, bounded_step hb hs⟩

theorem queue_length_le (h : d.Bounded) (id : PeerId) : (d.queue id).length ≤ d.capacity := by
  rw [queue]
  cases hb : d.inbox? id with
  | none => exact Nat.zero_le _
  | some b => exact h b (List.mem_of_find?_eq_some hb)

end TypedBus.Domain
