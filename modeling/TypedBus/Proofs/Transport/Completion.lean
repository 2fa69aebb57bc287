import TypedBus.Proofs.Transport.Queues

namespace TypedBus.Domain

variable {G : Type} {d d' d'' : Domain G} {a : Action G} {o : Outcome G} {trace : Trace G} {n : Nat}

/-- Passing on and delivering, what goes on by itself. -/
def movesOn : Action G → Bool
  | .pass _ _ | .deliver _ => true
  | _ => false

/-- A domain gets from one state to another by itself. -/
inductive Settles : Domain G → Domain G → Prop
  | refl (d : Domain G) : Settles d d
  | step {d d' : Domain G} (a : Action G) (moves : movesOn a = true)
      (rest : Settles (d.perform a).2 d') : Settles d d'

namespace Settles

theorem trans (h : Settles d d') (h' : Settles d' d'') : Settles d d'' := by
  induction h with
  | refl => exact h'
  | step a moves _ ih => exact .step a moves (ih h')

theorem single (moves : movesOn a = true) : Settles d (d.perform a).2 := .step a moves (.refl _)

theorem run (h : Settles d d') :
    ∃ actions : List (Action G), (∀ a ∈ actions, movesOn a = true) ∧ (d.run actions).2 = d' := by
  induction h with
  | refl d => exact ⟨[], by simp, rfl⟩
  | step a moves _ ih =>
    obtain ⟨actions, hall, hrun⟩ := ih
    exact ⟨a :: actions, List.forall_mem_cons.mpr ⟨moves, hall⟩, hrun⟩

theorem numbered (h : Settles d d') (hn : Numbered n d) (hlt : n < 2 ^ 64) : Numbered n d' := by
  induction h with
  | refl => exact hn
  | step a moves _ ih =>
    have hasks : asks a = 0 := by
      cases a <;> first | rfl | cases moves
    have hstep := hn.step (step_perform _ a) (by omega)
    rw [hasks] at hstep
    exact ih hstep

theorem bounded (h : Settles d d') (hb : d.Bounded) : d'.Bounded := by
  induction h with
  | refl => exact hb
  | step a _ _ ih => exact ih (bounded_step hb (step_perform _ a))

end Settles

/-- Publications that have nowhere to go are not kept. -/
def Busy (d : Domain G) : Prop := ∀ q ∈ d.publications, q.routes ≠ []

theorem routes_publicationsOf {letter : Letter} {routes : List PeerId} {q : Publication}
    (h : q ∈ publicationsOf letter routes) : q.routes ≠ [] := by
  unfold publicationsOf at h
  split at h
  · cases h
  · rename_i hne
    obtain rfl := List.mem_singleton.mp h
    exact hne

theorem routes_clearRoute {publications : List Publication}
    (h : ∀ q ∈ publications, q.routes ≠ []) (ticket : Nat) (route : PeerId) :
    ∀ q ∈ clearRoute publications ticket route, q.routes ≠ [] := by
  induction publications with
  | nil => exact h
  | cons p publications ih =>
    obtain ⟨hp, hrest⟩ := List.forall_mem_cons.mp h
    intro q hq
    rw [clearRoute_cons] at hq
    rcases List.mem_append.mp hq with hq | hq
    · split at hq
      · exact routes_publicationsOf hq
      · obtain rfl := List.mem_singleton.mp hq
        exact hp
    · exact ih hrest q hq

theorem Busy.step (h : d.Busy) (hs : Step d a o d') : d'.Busy := by
  cases hs with
  | idle | shutOut | advertise | withdraw | setGreeter | subscribe | cut | unsubscribe | deliver |
    failInside => exact h
  | publish =>
    intro q hq
    rcases List.mem_append.mp hq with hq | hq
    · exact h q hq
    · exact routes_publicationsOf hq
  | queue | drop => exact routes_clearRoute h _ _

theorem busy_run {c : TransportConfig} {actions : List (Action G)}
    (hrun : (start c).run actions = (trace, d)) : d.Busy := by
  refine run_induction (P := fun _ _ d => d.Busy) ?_ ?_ hrun
  · intro q hq
    cases hq
  · intro actions trace d₁ a o d₂ _ hs ih
    exact ih.step hs

/-- A publication that has lost a route is found with those that are left, if there are any. -/
theorem find?_clearRoute {publications : List Publication}
    (h : (publications.map (·.ticket)).Pairwise (· < ·)) {ticket : Nat} {q : Publication}
    (hq : publications.find? (·.ticket = ticket) = some q) (route : PeerId) :
    (clearRoute publications ticket route).find? (·.ticket = ticket) =
      (publicationsOf q.letter (q.routes.erase route)).head? := by
  induction publications with
  | nil => cases hq
  | cons p publications ih =>
    rw [List.map_cons, List.pairwise_cons] at h
    rw [clearRoute_cons, List.find?_append]
    by_cases hp : p.ticket = ticket
    · have hnone : (clearRoute publications ticket route).find? (·.ticket = ticket) = none := by
        apply List.find?_eq_none.mpr
        intro r hr he
        have hlt := h.1 r.ticket ((tickets_clearRoute _ _ _).subset (List.mem_map_of_mem hr))
        simp only [decide_eq_true_eq] at he
        omega
      rw [List.find?_cons_of_pos (by simpa using hp)] at hq
      obtain rfl := Option.some.inj hq
      rw [if_pos hp, hnone, Option.or_none]
      unfold publicationsOf
      split
      · rfl
      · exact List.find?_cons_of_pos (decide_eq_true hp)
    · rw [List.find?_cons_of_neg (by simpa using hp)] at hq
      rw [if_neg hp, List.find?_singleton, if_neg (by simpa using hp), Option.none_or]
      exact ih h.2 hq

/-- Where there is room, or nobody any more, a publication gets rid of a route. -/
theorem publications_pass {ticket : Nat} {route : PeerId} {q : Publication}
    (hq : d.publication? ticket = some q) (hr : route ∈ q.routes)
    (hroom : d.isActive route = true → (d.queue route).length < d.capacity) :
    (d.perform (.pass ticket route)).2.publications = clearRoute d.publications ticket route := by
  simp only [perform, pass, hq, hr, not_true_eq_false, if_false]
  cases hb : d.inbox? route with
  | none => rfl
  | some b =>
    have hactive : d.isActive route = true := by rw [isActive, hb]; rfl
    have hlt := hroom hactive
    rw [queue, hb] at hlt
    change b.queue.length < d.capacity at hlt
    simp only [hlt, if_true]
    rfl

theorem makes_room (hb : d.Bounded) (route : PeerId) :
    ∃ d', Settles d d' ∧ d'.publications = d.publications ∧
      (d'.isActive route = true → (d'.queue route).length < d'.capacity) := by
  have hpos : 1 ≤ d.capacity := Nat.le_max_right _ _
  have hle := queue_length_le hb route
  cases hq : d.queue route with
  | nil =>
    refine ⟨d, .refl d, rfl, fun _ => ?_⟩
    rw [hq]
    exact hpos
  | cons letter rest =>
    have hperform : (d.perform (.deliver route)).2 = d.setQueue route rest := by
      simp only [perform, deliver, hq]
    refine ⟨d.setQueue route rest, hperform ▸ .single rfl, rfl, fun hactive => ?_⟩
    rw [isActive_setQueue] at hactive
    rw [queue_setQueue hactive, if_pos rfl]
    rw [hq, List.length_cons] at hle
    exact hle

/-- A publication can be carried to its end, whatever is in the way. -/
theorem completes (hn : Numbered n d) (hlt : n < 2 ^ 64) (hb : d.Bounded) (hbusy : d.Busy)
    (ticket : Nat) : ∃ d', Settles d d' ∧ d'.publication? ticket = none := by
  cases hq : d.publication? ticket with
  | none => exact ⟨d, .refl d, hq⟩
  | some q =>
    induction hk : q.routes.length generalizing d q with
    | zero =>
      have hne := hbusy q (List.mem_of_find?_eq_some hq)
      exact absurd (List.eq_nil_of_length_eq_zero hk) hne
    | succ k ih =>
      -- room is made at the first route, which is then behind the publication
      obtain ⟨route, rest, hroutes⟩ := List.exists_cons_of_length_eq_add_one hk
      obtain ⟨d₁, hsettles, hsame, hroom⟩ := makes_room hb route
      have hn₁ := hsettles.numbered hn hlt
      have hq₁ : d₁.publication? ticket = some q := by rw [publication?, hsame]; exact hq
      have hmem : route ∈ q.routes := hroutes ▸ List.mem_cons_self
      have hpass := publications_pass hq₁ hmem hroom
      have hsettles₂ : Settles d (d₁.perform (.pass ticket route)).2 :=
        hsettles.trans (.single rfl)
      have hfind := find?_clearRoute hn₁.tickets hq₁ route
      rw [← hpass, hroutes, List.erase_cons_head] at hfind
      cases hrest : rest with
      | nil =>
        rw [hrest] at hfind
        exact ⟨_, hsettles₂, hfind⟩
      | cons next others =>
        rw [hrest] at hfind
        have hbusy₂ : (d₁.perform (.pass ticket route)).2.Busy := by
          unfold Busy
          rw [hpass, hsame]
          exact routes_clearRoute hbusy ticket route
        have hlength : (next :: others).length = k := by
          rw [hroutes, List.length_cons, hrest] at hk
          omega
        obtain ⟨d', hrest', hdone⟩ := ih (hsettles₂.numbered hn hlt) (hsettles₂.bounded hb) hbusy₂
          _ hfind hlength
        exact ⟨d', hsettles₂.trans hrest', hdone⟩

theorem drains (d : Domain G) (id : PeerId) :
    ∃ d', Settles d d' ∧ d'.publications = d.publications ∧ d'.queue id = [] := by
  induction hk : (d.queue id).length generalizing d with
  | zero => exact ⟨d, .refl d, rfl, List.eq_nil_of_length_eq_zero hk⟩
  | succ k ih =>
    obtain ⟨letter, rest, hq⟩ := List.exists_cons_of_length_eq_add_one hk
    have hactive := isActive_of_queue hq
    have hperform : (d.perform (.deliver id)).2 = d.setQueue id rest := by
      simp only [perform, deliver, hq]
    have hlength : ((d.setQueue id rest).queue id).length = k := by
      rw [queue_setQueue hactive, if_pos rfl]
      rw [hq, List.length_cons] at hk
      omega
    obtain ⟨d', hsettles, hsame, hempty⟩ := ih _ hlength
    exact ⟨d', (hperform ▸ Settles.single rfl : Settles d _).trans hsettles, hsame, hempty⟩

/-- After any run a publication can be carried to its end and a queue be emptied. -/
theorem finishes {c : TransportConfig} {actions : List (Action G)}
    (hrun : (start c).run actions = (trace, d)) (hn : asked actions < 2 ^ 64) (ticket : Nat)
    (id : PeerId) :
    ∃ finish : List (Action G), (∀ a ∈ finish, movesOn a = true) ∧
      (d.run finish).2.publication? ticket = none ∧ (d.run finish).2.queue id = [] := by
  have hnumbered := (recorded_run hrun hn).toNumbered
  obtain ⟨d₁, hcompletes, hdone⟩ :=
    completes hnumbered hn (bounded_run hrun).2 (busy_run hrun) ticket
  obtain ⟨d₂, hdrains, hsame, hempty⟩ := drains d₁ id
  obtain ⟨finish, hall, rfl⟩ := (hcompletes.trans hdrains).run
  refine ⟨finish, hall, ?_, hempty⟩
  rw [publication?, hsame]
  exact hdone

end TypedBus.Domain
