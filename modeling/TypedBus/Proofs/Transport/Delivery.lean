import TypedBus.Proofs.Transport.Publications

namespace TypedBus.Domain

variable {G : Type} {d d' : Domain G} {a : Action G} {o : Outcome G} {trace before after : Trace G}
  {n : Nat} {s : Subscription}

theorem listed_step (hs : Step d a o d') (hlisted : s ∈ d.endpoints.value.subscriptions)
    (hstay : a ≠ .unsubscribe s.id) : s ∈ d'.endpoints.value.subscriptions := by
  cases hs with
  | idle | shutOut | advertise | withdraw | setGreeter | cut | publish | queue | drop | deliver |
    failInside => exact hlisted
  | subscribe => exact List.mem_append_left _ hlisted
  | @unsubscribe id t _ _ found =>
    obtain rfl := Endpoints.id_of_subscription? found
    refine List.mem_filter.mpr ⟨hlisted, ?_⟩
    have hne : s.id ≠ t.id := fun he => hstay (congrArg Action.unsubscribe he.symm)
    simpa using hne

/-- A subscription that is not cancelled while `after` happens, and what comes to it: at first some
letters were queued for it and some were on their way. -/
structure Following (s : Subscription) (queued waiting : List Letter) (trace after : Trace G)
    (d : Domain G) : Prop where
  active : d.isActive s.id = true
  listed : s ∈ d.endpoints.value.subscriptions
  fifo : received s.id after ++ d.queue s.id = queued ++ sent s.id after
  complete : (sent s.id after ++ pending s.id d.publications).Perm
    (waiting ++ heard s.channel trace after)

namespace Following

variable {queued waiting : List Letter}

theorem start (active : d.isActive s.id = true) (listed : s ∈ d.endpoints.value.subscriptions)
    (trace : Trace G) :
    Following s (d.queue s.id) (pending s.id d.publications) trace [] d where
  active := active
  listed := listed
  fifo := (List.append_nil _).symm
  complete := by
    change ([] ++ pending s.id d.publications).Perm (pending s.id d.publications ++ [])
    rw [List.nil_append, List.append_nil]

theorem join (hn : Numbered n d) {running : Bool} {greetings : List (Greeting G)}
    (hlt : n + asks (.subscribe s.channel running : Action G) < 2 ^ 64)
    (hs : Step d (.subscribe s.channel running) (.joined s.id greetings) d') (trace : Trace G) :
    Following s [] [] trace [] d' := by
  obtain ⟨id, channel⟩ := s
  cases hs with
  | subscribe =>
    have hid := hn.next_eq hlt
    have hqueue : d.inboxes.find? (·.owner = d.nextId) = none := by
      apply List.find?_eq_none.mpr
      intro b hb he
      refine hn.owners.not_mem hid (List.mem_map.mpr ⟨b, hb, ?_⟩)
      simpa using he
    have hpending : d.publications.filter (fun q => decide (d.nextId ∈ q.routes)) = [] := by
      apply List.filter_eq_nil_iff.mpr
      intro q hq
      simpa using (hn.routes q hq).not_mem hid
    refine ⟨?_, ?_, ?_, ?_⟩
    · rw [isActive_iff, List.map_append]
      exact List.mem_append_right _ List.mem_cons_self
    · exact List.mem_append_right _ List.mem_cons_self
    · change [] ++ _ = []
      rw [List.nil_append, queue, inbox?, List.find?_append, hqueue]
      simp
    · change ([] ++ pending d.nextId d.publications).Perm []
      rw [pending, hpending]
      exact .nil
  | idle idle => cases idle

/-- Whatever happens to others, a subscription gets what it hears. -/
theorem step (h : Following s queued waiting trace after d) (hr : Recorded n trace d)
    (hp : Posted trace d) (hafter : published after ⊆ published trace) (hs : Step d a o d')
    (hstay : a ≠ .unsubscribe s.id) :
    Following s queued waiting (trace ++ [(a, o)]) (after ++ [(a, o)]) d' where
  active := isActive_step hs h.active hstay
  listed := listed_step hs h.listed hstay
  fifo := fifo_concat hs h.active hstay h.fifo
  complete := by
    rw [hp.heard_concat hafter, sent_concat, List.append_assoc]
    refine ((perm_step hr hs h.listed h.active).append_left (sent s.id after)).trans ?_
    rw [← List.append_assoc, ← List.append_assoc]
    exact h.complete.append_right _

/-- What is so at one time of a run is so later, as long as the subscription stays. -/
theorem run {c : TransportConfig} {earlier actions : List (Action G)}
    (h : Following s queued waiting trace [] d) (hstart : (Domain.start c).run earlier = (trace, d))
    (hrun : d.run actions = (after, d')) (hn : asked (earlier ++ actions) < 2 ^ 64)
    (hstay : ∀ o, (.unsubscribe s.id, o) ∉ after) :
    Following s queued waiting (trace ++ after) after d' := by
  refine run_induction (P := fun actions after d' => asked (earlier ++ actions) < 2 ^ 64 →
    (∀ o, (.unsubscribe s.id, o) ∉ after) →
    Following s queued waiting (trace ++ after) after d') ?_ ?_ hrun hn hstay
  · intro _ _
    rw [List.append_nil]
    exact h
  · intro actions after d₁ a o d₂ hrun hs ih hn hstay
    rw [← List.append_assoc, asked_concat] at hn
    have hall : (Domain.start c).run (earlier ++ actions) = (trace ++ after, d₁) := by
      rw [run_append, hstart, hrun]
    have hbefore := ih (by omega) fun o hm => hstay o (List.mem_append_left _ hm)
    rw [← List.append_assoc]
    refine hbefore.step (recorded_run hall (by omega)) (posted_run hall (by omega)) ?_ hs ?_
    · rw [published_append]
      exact List.subset_append_right _ _
    · rintro rfl
      exact hstay o (List.mem_append_right _ List.mem_cons_self)

end Following

theorem filter_ticket_eq_nil {letters : List Letter} {ticket : Nat}
    (h : ∀ l ∈ letters, l.ticket ≠ ticket) : letters.filter (·.ticket = ticket) = [] := by
  apply List.filter_eq_nil_iff.mpr
  intro l hl
  simpa using h l hl

/-- A letter that is on its way to a subscription has been received exactly once when its publication
is done and the queue is empty. -/
theorem Following.received_once {queued waiting : List Letter}
    (h : Following s queued waiting trace after d) (letter : Letter)
    (hqueued : ∀ l ∈ queued, l.ticket ≠ letter.ticket)
    (hwaiting : waiting.filter (·.ticket = letter.ticket) = [letter])
    (hheard : ∀ l ∈ heard s.channel trace after, l.ticket ≠ letter.ticket)
    (hdone : d.publication? letter.ticket = none) (hempty : d.queue s.id = []) :
    (received s.id after).filter (·.ticket = letter.ticket) = [letter] := by
  have hpending : (pending s.id d.publications).filter (·.ticket = letter.ticket) = [] := by
    apply filter_ticket_eq_nil
    intro l hl
    obtain ⟨q, hq, rfl⟩ := List.mem_map.mp hl
    exact fun he => List.find?_eq_none.mp hdone q (List.mem_filter.mp hq).1 (decide_eq_true he)
  have hsent := h.complete.filter fun l => decide (l.ticket = letter.ticket)
  rw [List.filter_append, List.filter_append, hpending, hwaiting, filter_ticket_eq_nil hheard,
    List.append_nil, List.append_nil] at hsent
  have hfifo := h.fifo
  rw [hempty, List.append_nil] at hfifo
  rw [hfifo, List.filter_append, filter_ticket_eq_nil hqueued, List.nil_append]
  exact List.perm_singleton.mp hsent

/-- A publication that a subscription hears has been received exactly once when it is done and the
queue of the subscription is empty. -/
theorem letter_is_received {c : TransportConfig} {actions later : List (Action G)} {p : PeerId}
    {m : Message} {ticket : Nat} {channel : String} {d'' : Domain G}
    (hrun : (start c).run actions = (trace, d)) (hchannel : d.channelOf? p = some channel)
    (hpublish : d.perform (.publish p m) = (.started ticket, d')) (active : d.isActive s.id = true)
    (listed : s ∈ d.endpoints.value.subscriptions)
    (hcovers : Channel.covers s.channel channel = true) (hlater : d'.run later = (after, d''))
    (hn : asked (actions ++ later) < 2 ^ 64) (hstay : ∀ o, (.unsubscribe s.id, o) ∉ after)
    (hdone : d''.publication? ticket = none) (hempty : d''.queue s.id = []) :
    (received s.id after).filter (·.ticket = ticket) = [⟨ticket, p, m⟩] := by
  have hle := asked_le_append actions later
  have hr := recorded_run hrun (by omega)
  have hp := posted_run hrun (by omega)
  have hs := step_perform d (.publish p m)
  have hstarted : (start c).run (actions ++ [.publish p m]) =
      (trace ++ [(.publish p m, .started ticket)], d') := by
    rw [run_append, hrun]
    simp [Domain.run, hpublish]
  rw [hpublish] at hs
  rcases publishedBy_step hs with ⟨hnone, -⟩ | ⟨q, m', channel', he, found, hnew, -, hpublications⟩
  · cases hnone
  · cases he
    cases hnew
    obtain rfl := Option.some.inj (found.symm.trans hchannel)
    have hne : (.publish p m : Action G) ≠ .unsubscribe s.id := by
      intro he
      cases he
    have hsame : d'.queue s.id = d.queue s.id := by
      simpa [receivedBy, sentBy] using queue_step hs active hne
    have hnow : asked ((actions ++ [.publish p m]) ++ later) < 2 ^ 64 := by
      simpa [asked, asks, Action.asksId] using hn
    have hall : (start c).run ((actions ++ [.publish p m]) ++ later) =
        ((trace ++ [(.publish p m, .started d.nextTicket)]) ++ after, d'') := by
      rw [run_append, hstarted, hlater]
    have hf := (Following.start (isActive_step hs active hne) (listed_step hs listed hne) _).run
      hstarted hlater hnow hstay
    -- the ticket is new: neither the queue nor what is under way has it, and nothing later gets it
    refine hf.received_once ⟨d.nextTicket, p, m⟩ ?_ ?_ ?_ hdone hempty
    · intro l hl
      exact Nat.ne_of_lt (hp.ticket_lt_of_mem_queue (hsame ▸ hl))
    · have hroute := (hr.mem_routes listed channel').mpr hcovers
      have hold : (pending s.id d.publications).filter (·.ticket = d.nextTicket) = [] :=
        filter_ticket_eq_nil fun l hl => Nat.ne_of_lt (hr.ticket_lt_of_mem_pending hl)
      rw [hpublications, pending_append, pending_publicationsOf, if_pos hroute, List.filter_append,
        hold]
      simp
    · intro l hl
      have hposted := posted_run hall hnow
      rw [List.append_assoc, List.singleton_append] at hposted
      exact (Nat.ne_of_lt (hposted.ticket_lt_of_later rfl (List.mem_filter.mp hl).1)).symm

/-- Before a subscription joins, nothing is handed to its receiver. -/
theorem unknown_run {c : TransportConfig} {actions : List (Action G)} {id : PeerId}
    (hrun : (start c).run actions = (trace, d)) (hnew : id ∉ joinedIds trace) :
    received id trace = [] ∧ d.isActive id = false := by
  refine run_induction (P := fun _ trace d => id ∉ joinedIds trace →
    received id trace = [] ∧ d.isActive id = false) ?_ ?_ hrun hnew
  · intro _
    exact ⟨rfl, rfl⟩
  · intro actions trace d₁ a o d₂ _ hs ih hnew
    rw [joinedIds_concat, List.mem_append, not_or] at hnew
    obtain ⟨hnone, hinactive⟩ := ih hnew.1
    refine ⟨?_, inactive_step hs hinactive hnew.2⟩
    rw [received_concat, hnone, receivedBy_of_inactive hs hinactive, List.nil_append]

theorem Following.once (h : Following s [] [] trace after d) (hp : Posted trace d)
    (hafter : (heard s.channel trace after).Sublist (published trace)) :
    ((received s.id after ++ d.queue s.id).map (·.ticket)).Nodup := by
  have hheard : ((heard s.channel trace after).map (·.ticket)).Nodup :=
    (hp.tickets.imp fun hlt => Nat.ne_of_lt hlt).sublist (hafter.map _)
  have hall := (h.complete.map (·.ticket)).nodup_iff.mpr hheard
  rw [h.fifo]
  exact hall.sublist ((List.sublist_append_left _ _).map _)

end TypedBus.Domain
