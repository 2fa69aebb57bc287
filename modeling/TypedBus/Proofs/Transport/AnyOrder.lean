import TypedBus.Proofs.Transport.Fanout
import TypedBus.Proofs.Transport.Tours
import TypedBus.Registry.Basic

namespace TypedBus

def sortTexts (texts : List String) : List String := texts.mergeSort fun a b => decide (a ≤ b)

/-- The keys of a map, collected along a tour and sorted, are its keys. -/
theorem sortTexts_visit_keys {α : Type} (t : Tour) (m : TextMap α) :
    sortTexts (t.visit m.keys) = m.keys := by
  have hkeys : m.keys.Pairwise fun a b => decide (a ≤ b) = true :=
    List.pairwise_map.mpr (m.ordered.imp fun hlt => decide_eq_true (String.not_lt.mp (String.lt_asymm hlt)))
  calc sortTexts (t.visit m.keys)
    _ = sortTexts m.keys := mergeSort_eq_of_perm (· ≤ ·) (fun _ _ _ => String.le_trans)
      String.le_total (fun _ _ => String.le_antisymm) (t.visit_perm m.keys)
    _ = m.keys := List.mergeSort_of_pairwise hkeys

/-- The registered tags, collected along a tour and sorted. -/
def Registry.tagsAlong {M : Type} (t : Tour) (r : Registry M) : Except TypedError (List String) :=
  r.read.map fun types => sortTexts (t.visit types.keys)

def Catalog.namesAlong {M : Type} (t : Tour) (catalog : Catalog M) : List String :=
  sortTexts (t.visit catalog.types.keys)

theorem Registry.tagsAlong_eq {M : Type} (t : Tour) (r : Registry M) : r.tagsAlong t = r.tags := by
  simp only [tagsAlong, tags, sortTexts_visit_keys]

theorem Catalog.namesAlong_eq {M : Type} (t : Tour) (catalog : Catalog M) :
    catalog.namesAlong t = catalog.names :=
  sortTexts_visit_keys t catalog.types

namespace Domain

variable {G : Type} {d : Domain G} {a : Action G} {o o' : Outcome G} {n : Nat} {p : PeerId}

/-- Where a publisher's messages go, as the subscriptions are come across. -/
def routesFrom (t : Tours) (d : Domain G) (publisher : PeerId) : List PeerId :=
  match d.channelOf? publisher with
  | some channel => d.endpoints.value.routesAlong t channel
  | none => []

/-- The rest of the work for an action: a publication that has started is passed on to all of its routes,
one after the other. -/
def passesFor (t : Tours) (d : Domain G) : Action G × Outcome G → List (Action G)
  | (.publish publisher _, .started ticket) => (d.routesFrom t publisher).map (.pass ticket)
  | _ => []

/-- All the work for an action along the tours of the tables that it goes through. -/
def workAlong (t : Tours) (d : Domain G) (a : Action G) : Trace G × Domain G :=
  let (o, d) := d.performAlong t a
  let (trace, d) := d.run (passesFor t d (a, o))
  ((a, o) :: trace, d)

/-- Actions that are worked through one after the other, each along tours of its own. -/
def runAlong (d : Domain G) : List (Tours × Action G) → Trace G × Domain G
  | [] => ([], d)
  | (t, a) :: steps =>
    let (front, d) := d.workAlong t a
    let (back, d) := runAlong d steps
    (front ++ back, d)

variable {t t' : Tours}

theorem called_append (p : PeerId) (front back : Trace G) :
    called p (front ++ back) = called p front ++ called p back :=
  List.flatMap_append

theorem received_run_passes (s : PeerId) (ticket : Nat) (routes : List PeerId) (d : Domain G) :
    received s (d.run (routes.map (.pass ticket))).1 = [] := by
  induction routes generalizing d with
  | nil => rfl
  | cons route routes ih => exact ih (d.perform (.pass ticket route)).2

theorem calls_perform_pass (d : Domain G) (ticket : Nat) (route : PeerId) :
    calls (d.perform (.pass ticket route)).1 = [] := by
  have hs := step_perform d (.pass ticket route)
  generalize (d.perform (.pass ticket route)).1 = o at hs ⊢
  generalize (d.perform (.pass ticket route)).2 = d' at hs
  cases hs with
  | idle idle => cases idle <;> rfl
  | shutOut asks => cases asks
  | queue | drop => rfl

theorem called_run_passes (p : PeerId) (ticket : Nat) (routes : List PeerId) (d : Domain G) :
    called p (d.run (routes.map (.pass ticket))).1 = [] := by
  induction routes generalizing d with
  | nil => rfl
  | cons route routes ih =>
    have hfirst : calledBy p (.pass ticket route, (d.perform (.pass ticket route)).1) = [] := by
      rw [calledBy, calls_perform_pass]
      rfl
    simp only [List.map_cons, run, called, List.flatMap_cons, hfirst, List.nil_append]
    exact ih (d.perform (.pass ticket route)).2

/-- The passes of a publication are among what goes on by itself. -/
theorem passesFor_cases (t : Tours) (d : Domain G) (e : Action G × Outcome G) :
    ∃ (ticket : Nat) (routes : List PeerId), passesFor t d e = routes.map (.pass ticket) := by
  unfold passesFor
  split
  · exact ⟨_, _, rfl⟩
  · exact ⟨0, [], rfl⟩

theorem received_workAlong (s : PeerId) (t : Tours) (d : Domain G) (a : Action G) :
    received s (d.workAlong t a).1 = receivedBy s (a, (d.perform a).1) := by
  obtain ⟨ticket, routes, hpasses⟩ :=
    passesFor_cases t (d.performAlong t a).2 (a, (d.performAlong t a).1)
  have hfirst : receivedBy s (a, (d.performAlong t a).1) = receivedBy s (a, (d.perform a).1) := by
    cases a <;> rfl
  simp only [workAlong, received, List.flatMap_cons, hfirst, hpasses]
  rw [← received, received_run_passes, List.append_nil]

theorem called_workAlong_eq (p : PeerId) (t : Tours) (d : Domain G) (a : Action G) :
    called p (d.workAlong t a).1 = calledBy p (a, (d.performAlong t a).1) := by
  obtain ⟨ticket, routes, hpasses⟩ :=
    passesFor_cases t (d.performAlong t a).2 (a, (d.performAlong t a).1)
  simp only [workAlong, called, List.flatMap_cons, hpasses]
  rw [← called, called_run_passes, List.append_nil]

theorem calls_perm (h : Outcome.Alike o o') : (calls o).Perm (calls o') := by
  cases h with
  | refl => exact .refl _
  | joined perm => exact perm
  | gone perm => exact perm

/-- For one subscription a publisher is called once at most. -/
theorem length_filter_greetings_le {e : Endpoints G} (h : (e.publishers.map (·.id)).Nodup)
    (encounter : Encounter) (s : Subscription) (p : PeerId) :
    ((greetings e encounter s).filter (·.publisher = p)).length ≤ 1 := by
  rw [filter_greetings h]
  cases e.publisher? p with
  | none => exact Nat.zero_le 1
  | some q => exact List.length_filterMap_le _ _

theorem length_calledBy_le {d' : Domain G} (h : (d.endpoints.value.publishers.map (·.id)).Nodup)
    (hs : Step d a o d') (p : PeerId) : (calledBy p (a, o)).length ≤ 1 := by
  cases hs with
  | idle idle => cases idle <;> exact Nat.zero_le 1
  | @subscribe channel =>
    have hone := length_filter_greetings_le h .welcome ⟨d.nextId, channel⟩ p
    simpa only [calledBy, calls, greetings, Endpoints.greeters_subscribe] using hone
  | @unsubscribe id s =>
    have hone := length_filter_greetings_le h .farewell s p
    simpa only [calledBy, calls, greetings, Endpoints.greeters_unsubscribe] using hone
  | shutOut | advertise | withdraw | setGreeter | cut | publish | queue | drop | deliver | failInside =>
    exact Nat.zero_le 1

theorem eq_of_perm_of_length_le {α : Type} {l l' : List α} (h : l.Perm l') (hlength : l'.length ≤ 1) :
    l = l' := by
  match l', hlength with
  | [], _ => exact h.eq_nil
  | [x], _ => exact List.perm_singleton.mp h

/-- A greeter is called as it would be if the tables were gone through as they are listed. -/
theorem called_workAlong (hn : Numbered n d) (t : Tours) (a : Action G) (p : PeerId) :
    called p (d.workAlong t a).1 = calledBy p (a, (d.perform a).1) := by
  rw [called_workAlong_eq]
  have hperm := (calls_perm (performAlong_alike t d a).1).filter fun g => decide (g.publisher = p)
  exact eq_of_perm_of_length_le hperm (length_calledBy_le hn.publisherIds_nodup (step_perform d a) p)

theorem workAlong_of_not_publish (h : ∀ p m, a ≠ .publish p m) (t : Tours) (d : Domain G) :
    d.workAlong t a = ([(a, (d.performAlong t a).1)], (d.performAlong t a).2) := by
  cases a with
  | publish p m => exact absurd rfl (h p m)
  | _ => rfl

theorem publications_step {d' : Domain G} (h : d.publications = []) (hs : Step d a o d')
    (hother : ∀ p m, a ≠ .publish p m) : d'.publications = [] := by
  cases hs with
  | @publish id m => exact absurd rfl (hother id m)
  | queue found | drop found =>
    rw [publication?, h] at found
    cases found
  | idle | shutOut | advertise | withdraw | setGreeter | subscribe | cut | unsubscribe | deliver |
    failInside => exact h

/-- A publication that is refused leaves the domain as it is; one that has started is on its way to its
routes, in whatever order they are come across. -/
theorem publish_cases (d : Domain G) (p : PeerId) (m : Message) :
    (∃ e, d.perform (.publish p m) = (.refused e, d)) ∨
      ∃ letter routes d', d.perform (.publish p m) = (.started letter.ticket, d') ∧
        d'.publications = d.publications ++ publicationsOf letter routes ∧
        ∀ t, (d'.routesFrom t p).Perm routes := by
  have hs := step_perform d (.publish p m)
  generalize d.perform (.publish p m) = answer at hs ⊢
  obtain ⟨o, d'⟩ := answer
  cases hs with
  | idle idle =>
    cases idle with
    | publish => exact .inl ⟨_, rfl⟩
  | shutOut asks => cases asks
  | @publish _ _ channel unpoisoned found accepted =>
    refine .inr ⟨⟨d.nextTicket, p, m⟩, d.endpoints.value.routes channel, _, rfl, rfl, fun t => ?_⟩
    have hroutes := d.endpoints.value.routesAlong_perm t channel
    unfold routesFrom
    change (match d.channelOf? p with
      | some channel => d.endpoints.value.routesAlong t channel
      | none => []).Perm _
    rwa [found]

theorem foldl_sendTo_publications (letter : Letter) (order : List PeerId) (d : Domain G) :
    (order.foldl (sendTo letter) d).publications = d.publications := by
  induction order generalizing d with
  | nil => rfl
  | cons route order ih =>
    rw [List.foldl_cons, ih]
    unfold sendTo
    split <;> rfl

/-- What the second of two runs has from the first: that no letter waits, the domain that is left and what
the receivers were handed. -/
structure Same (left right : Trace G × Domain G) : Prop where
  free : Unhindered right.1
  domain : right.2 = left.2
  received : ∀ s, Domain.received s right.1 = Domain.received s left.1

theorem waits_eq (h : Outcome.Alike o o') : waits o = waits o' := by
  cases h <;> rfl

/-- The work for a publication that has started, with nothing else on its way. -/
theorem workAlong_of_started {m : Message} {letter : Letter} {routes : List PeerId} {d' : Domain G}
    (hstarted : d.perform (.publish p m) = (.started letter.ticket, d'))
    (hsole : d'.publications = publicationsOf letter routes) (hroutes : (d'.routesFrom t p).Perm routes) :
    (Unhindered (d.workAlong t (.publish p m)).1 ↔ d'.HasRoom (d'.routesFrom t p)) ∧
      (d'.HasRoom (d'.routesFrom t p) → (d.workAlong t (.publish p m)).2 =
        (d'.routesFrom t p).foldl (sendTo letter) { d' with publications := [] }) := by
  obtain ⟨hiff, hfinal⟩ := run_passes hroutes hsole
  simp only [workAlong, performAlong, hstarted, passesFor]
  refine ⟨?_, hfinal⟩
  rw [Unhindered, List.forall_mem_cons, and_iff_right (by rfl)]
  exact hiff

theorem received_workAlong_same (s : PeerId) (t t' : Tours) (d : Domain G) (a : Action G) :
    received s (d.workAlong t' a).1 = received s (d.workAlong t a).1 := by
  rw [received_workAlong, received_workAlong]

theorem workAlong_publish_same {m : Message} (h : d.publications = []) (t t' : Tours)
    (hfree : Unhindered (d.workAlong t (.publish p m)).1) :
    (d.workAlong t (.publish p m)).2.publications = [] ∧
      Same (d.workAlong t (.publish p m)) (d.workAlong t' (.publish p m)) := by
  have hreceived (s : PeerId) := received_workAlong_same s t t' d (.publish p m)
  rcases publish_cases d p m with ⟨e, hrefused⟩ | ⟨letter, routes, d', hstarted, hafter, hroutes⟩
  · have hwork (t : Tours) : d.workAlong t (.publish p m) = ([(.publish p m, .refused e)], d) := by
      simp only [workAlong, performAlong, hrefused, passesFor, run]
    rw [hwork] at hfree
    refine ⟨?_, ?_, ?_, hreceived⟩
    · rwa [hwork]
    · rwa [hwork]
    · rw [hwork, hwork]
  · rw [h, List.nil_append] at hafter
    obtain ⟨hiff, hfinal⟩ := workAlong_of_started hstarted hafter (hroutes t)
    obtain ⟨hiff', hfinal'⟩ := workAlong_of_started hstarted hafter (hroutes t')
    have horder : (d'.routesFrom t p).Perm (d'.routesFrom t' p) := (hroutes t).trans (hroutes t').symm
    have hroom := hiff.mp hfree
    have hroom' := (hasRoom_perm horder).mp hroom
    refine ⟨?_, hiff'.mpr hroom', ?_, hreceived⟩
    · rw [hfinal hroom, foldl_sendTo_publications]
    · rw [hfinal hroom, hfinal' hroom', foldl_sendTo_perm horder]

theorem workAlong_other_same (hother : ∀ p m, a ≠ .publish p m) (h : d.publications = [])
    (t t' : Tours) (hfree : Unhindered (d.workAlong t a).1) :
    (d.workAlong t a).2.publications = [] ∧ Same (d.workAlong t a) (d.workAlong t' a) := by
  have hreceived (s : PeerId) := received_workAlong_same s t t' d a
  obtain ⟨halike, hdomain⟩ := performAlong_alike t d a
  obtain ⟨halike', hdomain'⟩ := performAlong_alike t' d a
  simp only [workAlong_of_not_publish hother] at hfree hreceived ⊢
  have hwaits : waits (d.perform a).1 = false := by
    rw [← waits_eq halike]
    exact hfree _ List.mem_cons_self
  refine ⟨?_, ?_, ?_, hreceived⟩
  · rw [hdomain]
    exact publications_step h (step_perform d a) hother
  · intro e he
    obtain rfl := List.mem_singleton.mp he
    rw [waits_eq halike', hwaits]
  · rw [hdomain, hdomain']

/-- With no letters on their way and none that has to wait, the tours of an action make no difference. -/
theorem workAlong_same (h : d.publications = []) (t t' : Tours) (a : Action G)
    (hfree : Unhindered (d.workAlong t a).1) :
    (d.workAlong t a).2.publications = [] ∧ Same (d.workAlong t a) (d.workAlong t' a) := by
  cases a with
  | publish p m => exact workAlong_publish_same h t t' hfree
  | _ => exact workAlong_other_same (by rintro _ _ ⟨⟩) h t t' hfree

theorem settles_run {actions : List (Action G)} (h : ∀ a ∈ actions, movesOn a = true) (d : Domain G) :
    Settles d (d.run actions).2 := by
  induction actions generalizing d with
  | nil => exact .refl d
  | cons a actions ih =>
    obtain ⟨ha, hactions⟩ := List.forall_mem_cons.mp h
    exact .step a ha (ih hactions (d.perform a).2)

/-- The work for an action along tours leaves a domain that a run leaves. -/
theorem workAlong_snd (t : Tours) (d : Domain G) (a : Action G) :
    (d.workAlong t a).2 =
      (d.run (a :: passesFor t (d.perform a).2 (a, (d.performAlong t a).1))).2 := by
  simp only [workAlong, run, (performAlong_alike t d a).2]

/-- So whatever runs come to, runs along tours come to as well. -/
theorem exists_run_runAlong (steps : List (Tours × Action G)) (d : Domain G) :
    ∃ actions, (d.run actions).2 = (d.runAlong steps).2 := by
  induction steps generalizing d with
  | nil => exact ⟨[], rfl⟩
  | cons step steps ih =>
    obtain ⟨t, a⟩ := step
    obtain ⟨actions, hrun⟩ := ih (d.workAlong t a).2
    refine ⟨a :: passesFor t (d.perform a).2 (a, (d.performAlong t a).1) ++ actions, ?_⟩
    rw [run_append, ← workAlong_snd, hrun]
    rfl

theorem numbered_workAlong (hn : Numbered n d) (t : Tours) (hlt : n + asks a < 2 ^ 64) :
    Numbered (n + asks a) (d.workAlong t a).2 := by
  have hperformed : Numbered (n + asks a) (d.perform a).2 := hn.step (step_perform d a) hlt
  obtain ⟨ticket, routes, hpasses⟩ :=
    passesFor_cases t (d.perform a).2 (a, (d.performAlong t a).1)
  have hmoves : ∀ b ∈ routes.map (Action.pass (G := G) ticket), movesOn b = true := by
    intro b hb
    obtain ⟨route, -, rfl⟩ := List.mem_map.mp hb
    rfl
  rw [workAlong_snd, hpasses]
  exact (settles_run hmoves _).numbered hperformed hlt

/-- Two runs with the same actions, each along tours of its own, come to the same if in one of them no letter
has to wait; and as long as no two publishers share an identity, they call every greeter in the same
order. -/
theorem runAlong_same {steps steps' : List (Tours × Action G)} (h : d.publications = [])
    (hsame : steps.map (·.2) = steps'.map (·.2)) (hfree : Unhindered (d.runAlong steps).1) :
    Same (d.runAlong steps) (d.runAlong steps') ∧
      ∀ n, Numbered n d → n + asked (steps.map (·.2)) < 2 ^ 64 →
        ∀ p, called p (d.runAlong steps').1 = called p (d.runAlong steps).1 := by
  induction steps generalizing d steps' with
  | nil =>
    obtain rfl := List.map_eq_nil_iff.mp hsame.symm
    exact ⟨⟨hfree, rfl, fun _ => rfl⟩, fun _ _ _ _ => rfl⟩
  | cons step steps ih =>
    obtain ⟨t, a⟩ := step
    cases steps' with
    | nil => cases hsame
    | cons step' steps' =>
      obtain ⟨t', a'⟩ := step'
      obtain ⟨rfl, hrest⟩ := List.cons.inj hsame
      simp only [runAlong] at hfree ⊢
      obtain ⟨hfirst, hlater⟩ := unhindered_append.mp hfree
      obtain ⟨hquiet, hwork⟩ := workAlong_same h t t' a hfirst
      obtain ⟨hrun, hcalls⟩ := ih hquiet hrest hlater
      -- the second run goes on from the same domain, so nothing need be known of its letters
      rw [hwork.domain]
      constructor
      · refine ⟨unhindered_append.mpr ⟨hwork.free, hrun.free⟩, hrun.domain, fun s => ?_⟩
        rw [received_append, received_append, hwork.received, hrun.received]
      · intro n hn hlt p
        have hasked : asked (a :: steps.map (·.2)) = asks a + asked (steps.map (·.2)) := rfl
        rw [List.map_cons, hasked] at hlt
        have hnext := numbered_workAlong hn t (a := a) (by omega)
        have hback := hcalls (n + asks a) hnext (by omega) p
        rw [called_append, called_append, called_workAlong hn, called_workAlong hn, hback]

/-- The order in which the tables of a domain and of a registry are gone through cannot be told from
anything. Whatever the tours of each action, two runs of the same actions in which, as far as one of them
goes, no letter has to wait end in the same domain, that is with the same endpoints, the same numbers
watched, the same metrics and the same queues; they have handed every receiver the same letters and, until
identities run out, made the same calls to the greeter of every publisher. And what is listed sorted is the
same along every tour. -/
theorem iteration_order_is_unobservable {M : Type} (c : TransportConfig)
    {steps steps' : List (Tours × Action G)} (hsame : steps.map (·.2) = steps'.map (·.2))
    (hfree : Unhindered ((start c).runAlong steps).1) :
    Unhindered ((start c).runAlong steps').1 ∧
      ((start c).runAlong steps').2 = ((start c).runAlong steps).2 ∧
      (∀ s, received s ((start c).runAlong steps').1 = received s ((start c).runAlong steps).1) ∧
      (asked (steps.map (·.2)) < 2 ^ 64 → ∀ p,
        called p ((start c).runAlong steps').1 = called p ((start c).runAlong steps).1) ∧
      (∀ (t : Tours) (d : Domain G) p, d.subscribersAlong t p = d.subscribersOf p) ∧
      (∀ (t : Tour) (r : Registry M), r.tagsAlong t = r.tags) ∧
      ∀ (t : Tour) (catalog : Catalog M), catalog.namesAlong t = catalog.names := by
  have hquiet : (start c : Domain G).publications = [] := rfl
  obtain ⟨hrun, hcalls⟩ := runAlong_same hquiet hsame hfree
  refine ⟨hrun.free, hrun.domain, hrun.received, fun hlt p => ?_, subscribersAlong_eq,
    Registry.tagsAlong_eq, Catalog.namesAlong_eq⟩
  rw [← Nat.zero_add (asked _)] at hlt
  exact hcalls 0 (.start c) hlt p

/-- Two publishers with greeters, two subscriptions that hear both, and letters to both before and after one
of them is cancelled. -/
def crossing : List (Action Nat) :=
  [.advertise "x", .advertise "xy", .setGreeter ⟨1⟩ (some 10), .setGreeter ⟨2⟩ (some 20),
    .subscribe "" true, .subscribe "x" true, .publish ⟨1⟩ {}, .publish ⟨2⟩ (.withData [7]),
    .deliver ⟨4⟩, .deliver ⟨4⟩, .unsubscribe ⟨4⟩, .publish ⟨2⟩ {}, .deliver ⟨3⟩]

/-- Along the tours from the first entry to the last and along those from the last to the first, the greeters
are called one before the other or the other way round, but each is called the same. -/
theorem iteration_order_is_unobservable_sample :
    let ahead := (start {}).runAlong (crossing.map (Tours.forward, ·))
    let back := (start {}).runAlong (crossing.map (Tours.backward, ·))
    (crossing.map (Tours.forward, ·)).map (·.2) = (crossing.map (Tours.backward, ·)).map (·.2) ∧
      Unhindered ahead.1 ∧ asked ((crossing.map (Tours.forward, ·)).map (·.2)) < 2 ^ 64 ∧
      back.2 = ahead.2 ∧ back.2.endpoints.value.publishers.map (·.watched) = [1, 1] ∧
      received ⟨4⟩ back.1 = received ⟨4⟩ ahead.1 ∧ (received ⟨4⟩ back.1).map (·.ticket) = [0, 1] ∧
      called ⟨2⟩ back.1 = called ⟨2⟩ ahead.1 ∧
      (called ⟨2⟩ back.1).map (·.subscriber) = [⟨3⟩, ⟨4⟩, ⟨4⟩] ∧
      (ahead.1.flatMap fun e => (calls e.2).map (·.publisher)) = [⟨1⟩, ⟨2⟩, ⟨1⟩, ⟨2⟩, ⟨1⟩, ⟨2⟩] ∧
      (back.1.flatMap fun e => (calls e.2).map (·.publisher)) = [⟨2⟩, ⟨1⟩, ⟨2⟩, ⟨1⟩, ⟨2⟩, ⟨1⟩] := by
  intro ahead back
  have hsame : (crossing.map (Tours.forward, ·)).map (·.2) =
      (crossing.map (Tours.backward, ·)).map (·.2) := rfl
  have hfree : Unhindered ahead.1 := by decide +kernel
  have hfew : asked ((crossing.map (Tours.forward, ·)).map (·.2)) < 2 ^ 64 := by decide
  obtain ⟨-, hdomain, hreceived, hcalled, -⟩ :=
    iteration_order_is_unobservable (M := Inbound) {} hsame hfree
  have hwatched : back.2.endpoints.value.publishers.map (·.watched) = [1, 1] := by decide +kernel
  have htickets : (received ⟨4⟩ back.1).map (·.ticket) = [0, 1] := by decide +kernel
  have hsubscribers : (called ⟨2⟩ back.1).map (·.subscriber) = [⟨3⟩, ⟨4⟩, ⟨4⟩] := by decide +kernel
  exact ⟨hsame, hfree, hfew, hdomain, hwatched, hreceived ⟨4⟩, htickets, hcalled hfew ⟨2⟩,
    hsubscribers, by decide +kernel, by decide +kernel⟩

end Domain

end TypedBus
