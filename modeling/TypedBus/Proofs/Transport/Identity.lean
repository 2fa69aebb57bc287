import Mathlib.Algebra.Ring.Nat
import TypedBus.Proofs.Transport.Step

namespace TypedBus

/-- Some of the identities from one to a number, in ascending order. -/
def Rising (n : Nat) (ids : List PeerId) : Prop :=
  (ids.map (·.value.toNat)).Sublist (List.range' 1 n)

namespace Rising

variable {n : Nat} {ids : List PeerId}

theorem nil (n : Nat) : Rising n [] := List.nil_sublist _

theorem sublist {few : List PeerId} (h : Rising n ids) (hs : few.Sublist ids) : Rising n few :=
  (hs.map _).trans h

theorem mono {k : Nat} (h : Rising n ids) (hk : n ≤ k) : Rising k ids :=
  h.trans (List.range'_sublist_right.mpr hk)

theorem length_le (h : Rising n ids) : ids.length ≤ n := by
  simpa using List.Sublist.length_le h

theorem ascending (h : Rising n ids) : ids.Pairwise fun a b => a.value < b.value := by
  have hp : (List.range' 1 n).Pairwise (· < ·) := List.pairwise_lt_range'
  exact (List.pairwise_map.mp (hp.sublist h)).imp fun hlt => UInt64.lt_iff_toNat_lt.mpr hlt

theorem nodup (h : Rising n ids) : ids.Nodup := by
  refine h.ascending.imp ?_
  rintro a _ hlt rfl
  exact absurd hlt (UInt64.lt_irrefl a.value)

theorem not_mem {id : PeerId} (h : Rising n ids) (hid : id.value.toNat = n + 1) : id ∉ ids := by
  intro hm
  have := List.mem_range'_1.mp (h.subset (List.mem_map_of_mem hm))
  omega

theorem concat {id : PeerId} (h : Rising n ids) (hid : id.value.toNat = n + 1) :
    Rising (n + 1) (ids ++ [id]) := by
  rw [Rising, List.map_append, List.map_singleton, hid, List.range'_1_concat, Nat.add_comm 1 n]
  exact List.Sublist.append h (.refl _)

end Rising

/-- A list with distinct keys is one of its members and those with other keys. -/
theorem perm_cons_filter_ne {α κ : Type} [DecidableEq κ] {key : α → κ} {l : List α} {x : α}
    (hl : (l.map key).Nodup) (hx : x ∈ l) :
    l.Perm (x :: l.filter fun y => decide (key y ≠ key x)) := by
  induction l with
  | nil => cases hx
  | cons y l ih =>
    simp only [List.map_cons, List.nodup_cons] at hl
    by_cases hy : key y = key x
    · have hrest : l.filter (fun z => decide (key z ≠ key x)) = l := by
        apply List.filter_eq_self.mpr
        intro z hz
        have : key z ≠ key x := fun he => hl.1 (hy.trans he.symm ▸ List.mem_map_of_mem hz)
        simpa using this
      have hxy : x = y := by
        rcases List.mem_cons.mp hx with rfl | hx
        · rfl
        · exact absurd (hy ▸ List.mem_map_of_mem hx) hl.1
      rw [List.filter_cons_of_neg (by simpa using hy), hrest, hxy]
    · rcases List.mem_cons.mp hx with rfl | hx
      · exact absurd rfl hy
      · rw [List.filter_cons_of_pos (by simpa using hy)]
        exact ((ih hl.2 hx).cons y).trans (.swap x y _)

namespace Endpoints

variable {G : Type}

/-- The publishers with their channels. -/
def roster (e : Endpoints G) : List (PeerId × String) := e.publishers.map fun p => (p.id, p.channel)

theorem roster_advertise (e : Endpoints G) (id : PeerId) (channel : String) :
    (e.advertise id channel).roster = e.roster ++ [(id, channel)] := by
  simp [roster, advertise]

theorem roster_withdraw (e : Endpoints G) (id : PeerId) :
    (e.withdraw id).roster = e.roster.filter (·.1 ≠ id) := by
  simp [roster, withdraw, List.filter_map, Function.comp_def]

theorem roster_setGreeter (e : Endpoints G) (id : PeerId) (greeter : Option G) :
    (e.setGreeter id greeter).roster = e.roster := by
  simp only [roster, setGreeter, List.map_map]
  apply List.map_congr_left
  intro p _
  simp only [Function.comp_apply]
  split <;> rfl

theorem roster_refresh (e : Endpoints G) (channel : String) :
    (e.refresh channel).roster = e.roster := by
  simp only [roster, refresh, List.map_map]
  apply List.map_congr_left
  intro p _
  simp only [Function.comp_apply]
  split <;> rfl

theorem roster_subscribe (e : Endpoints G) (id : PeerId) (channel : String) :
    (e.subscribe id channel).roster = e.roster :=
  roster_refresh _ channel

theorem roster_unsubscribe (e : Endpoints G) (s : Subscription) :
    (e.unsubscribe s).roster = e.roster :=
  roster_refresh _ s.channel

end Endpoints

namespace Domain

variable {G : Type} {d d' : Domain G} {a : Action G} {o : Outcome G}

theorem mem_clearRoute {publications : List Publication} {ticket : Nat} {route : PeerId}
    {q : Publication} (h : q ∈ clearRoute publications ticket route) :
    ∃ p ∈ publications, q.letter = p.letter ∧ q.routes.Sublist p.routes := by
  obtain ⟨p, hp, hq⟩ := List.mem_filterMap.mp h
  refine ⟨p, hp, ?_⟩
  split at hq
  · split at hq
    · cases hq
    · cases hq
      exact ⟨rfl, List.erase_sublist⟩
  · cases hq
    exact ⟨rfl, .refl _⟩

theorem clearRoute_cons (p : Publication) (publications : List Publication) (ticket : Nat)
    (route : PeerId) :
    clearRoute (p :: publications) ticket route =
      (if p.ticket = ticket then publicationsOf p.letter (p.routes.erase route) else [p]) ++
        clearRoute publications ticket route := by
  simp only [clearRoute, List.filterMap_cons, publicationsOf]
  by_cases ht : p.ticket = ticket
  · cases p.routes.erase route <;> simp [ht]
  · simp [ht]

theorem clearRoute_of_absent {publications : List Publication} {ticket : Nat}
    (h : ∀ p ∈ publications, p.ticket ≠ ticket) (route : PeerId) :
    clearRoute publications ticket route = publications := by
  induction publications with
  | nil => rfl
  | cons p publications ih =>
    obtain ⟨hp, hrest⟩ := List.forall_mem_cons.mp h
    rw [clearRoute_cons, if_neg hp, ih hrest, List.singleton_append]

theorem letters_publicationsOf (letter : Letter) (routes : List PeerId) :
    ((publicationsOf letter routes).map (·.letter)).Sublist [letter] := by
  rw [publicationsOf]
  split
  · exact List.nil_sublist _
  · exact .refl _

theorem letters_clearRoute (publications : List Publication) (ticket : Nat) (route : PeerId) :
    ((clearRoute publications ticket route).map (·.letter)).Sublist
      (publications.map (·.letter)) := by
  induction publications with
  | nil => exact .slnil
  | cons p publications ih =>
    rw [clearRoute_cons, List.map_append]
    have hone : ((if p.ticket = ticket then publicationsOf p.letter (p.routes.erase route)
        else [p]).map (·.letter)).Sublist [p.letter] := by
      split
      · exact letters_publicationsOf _ _
      · exact .refl _
    exact hone.append ih

theorem tickets_clearRoute (publications : List Publication) (ticket : Nat) (route : PeerId) :
    ((clearRoute publications ticket route).map (·.ticket)).Sublist
      (publications.map (·.ticket)) := by
  have h := (letters_clearRoute publications ticket route).map (·.ticket)
  rwa [List.map_map, List.map_map] at h

theorem owners_setQueue (d : Domain G) (id : PeerId) (queue : List Letter) :
    (d.setQueue id queue).inboxes.map (·.owner) = d.inboxes.map (·.owner) := by
  simp only [setQueue, List.map_map]
  apply List.map_congr_left
  intro b _
  simp only [Function.comp_apply]
  split <;> rfl

/-- A domain of which `n` identities have been asked for: all that are in use differ, and so do the
tickets of the publications under way. -/
structure Numbered (n : Nat) (d : Domain G) : Prop where
  next : d.nextId.value.toNat = (n + 1) % 2 ^ 64
  publishers : Rising n (d.endpoints.value.roster.map (·.1))
  subscriptions : Rising n (d.endpoints.value.subscriptions.map (·.id))
  owners : Rising n (d.inboxes.map (·.owner))
  routes : ∀ q ∈ d.publications, Rising n q.routes
  tickets : (d.publications.map (·.ticket)).Pairwise (· < ·)
  issued : ∀ q ∈ d.publications, q.ticket < d.nextTicket

def asks (a : Action G) : Nat := if a.asksId then 1 else 0

/-- How many identities a list of actions asks for. -/
def asked (actions : List (Action G)) : Nat := (actions.map asks).sum

theorem asked_concat (actions : List (Action G)) (a : Action G) :
    asked (actions ++ [a]) = asked actions + asks a := by
  simp [asked]

theorem asked_le_append (front back : List (Action G)) : asked front ≤ asked (front ++ back) := by
  unfold asked
  rw [List.map_append, List.sum_append]
  exact Nat.le_add_right _ _

namespace Numbered

variable {n : Nat}

theorem start (c : TransportConfig) : Numbered 0 (Domain.start c : Domain G) where
  next := rfl
  publishers := .nil 0
  subscriptions := .nil 0
  owners := .nil 0
  routes := by simp [Domain.start]
  tickets := .nil
  issued := by simp [Domain.start]

theorem next_eq (h : Numbered n d) (hn : n + 1 < 2 ^ 64) : d.nextId.value.toNat = n + 1 := by
  rw [h.next, Nat.mod_eq_of_lt hn]

theorem next_next (h : Numbered n d) : d.nextId.next.value.toNat = (n + 1 + 1) % 2 ^ 64 := by
  have := h.next
  simp only [PeerId.next, UInt64.toNat_add]
  simp only [UInt64.reduceToNat]
  omega

theorem skip (h : Numbered n d) : Numbered (n + 1) { d with nextId := d.nextId.next } where
  next := h.next_next
  publishers := h.publishers.mono (by omega)
  subscriptions := h.subscriptions.mono (by omega)
  owners := h.owners.mono (by omega)
  routes q hq := (h.routes q hq).mono (by omega)
  tickets := h.tickets
  issued := h.issued

theorem routes_rising (h : Numbered n d) (channel : String) :
    Rising n (d.endpoints.value.routes channel) :=
  h.subscriptions.sublist ((List.filter_sublist).map _)

theorem publish (h : Numbered n d) (letter : Letter) (channel : String)
    (metrics : TransportMetrics) (hl : letter.ticket = d.nextTicket) :
    Numbered n
      { d with
        nextTicket := d.nextTicket + 1
        publications := d.publications ++
          publicationsOf letter (d.endpoints.value.routes channel)
        metrics } := by
  refine { h with routes := ?_, tickets := ?_, issued := ?_ } <;> simp only [publicationsOf]
  · intro q hq
    rcases List.mem_append.mp hq with hq | hq
    · exact h.routes q hq
    · split at hq
      · cases hq
      · obtain rfl := List.mem_singleton.mp hq
        exact h.routes_rising channel
  · split
    · simpa using h.tickets
    · rw [List.map_append, List.map_singleton]
      refine List.pairwise_append.mpr ⟨h.tickets, List.pairwise_singleton _ _, ?_⟩
      intro t ht u hu
      obtain ⟨q, hq, rfl⟩ := List.mem_map.mp ht
      obtain rfl := List.mem_singleton.mp hu
      have := h.issued q hq
      change q.ticket < letter.ticket
      omega
  · intro q hq
    rcases List.mem_append.mp hq with hq | hq
    · exact Nat.lt_succ_of_lt (h.issued q hq)
    · split at hq
      · cases hq
      · obtain rfl := List.mem_singleton.mp hq
        exact Nat.lt_succ_of_le (Nat.le_of_eq hl)

theorem clearRoute (h : Numbered n d) (ticket : Nat) (route : PeerId) (metrics : TransportMetrics) :
    Numbered n
      { d with publications := Domain.clearRoute d.publications ticket route, metrics } := by
  refine { h with routes := ?_, tickets := h.tickets.sublist (tickets_clearRoute _ _ _), issued := ?_ }
  · intro q hq
    obtain ⟨p, hp, _, hs⟩ := mem_clearRoute hq
    exact (h.routes p hp).sublist hs
  · intro q hq
    obtain ⟨p, hp, he, _⟩ := mem_clearRoute hq
    simp only [Publication.ticket, he]
    exact h.issued p hp

theorem setQueue (h : Numbered n d) (id : PeerId) (queue : List Letter) :
    Numbered n (d.setQueue id queue) :=
  { h with owners := owners_setQueue d id queue ▸ h.owners }

theorem filterInboxes (h : Numbered n d) (keep : Inbox → Bool) :
    Numbered n { d with inboxes := d.inboxes.filter keep } :=
  { h with owners := h.owners.sublist ((List.filter_sublist).map _) }

/-- Every step keeps the identities apart, until there are none left. -/
theorem step (h : Numbered n d) (hs : Step d a o d') (hn : n + asks a < 2 ^ 64) :
    Numbered (n + asks a) d' := by
  cases hs with
  | idle idle =>
    cases idle with
    | withdraw | setGreeter | subscribe | unsubscribe | publish | pass | wait | deliver => exact h
  | shutOut hasks _ =>
    simp only [asks, hasks]
    exact h.skip
  | advertise _ =>
    refine { h.skip with publishers := ?_ }
    simp only [Guarded.store, Endpoints.roster_advertise, List.map_append]
    exact h.publishers.concat (h.next_eq hn)
  | withdraw _ _ =>
    refine { h with publishers := ?_ }
    simp only [Guarded.store, Endpoints.roster_withdraw]
    exact h.publishers.sublist ((List.filter_sublist).map _)
  | setGreeter _ =>
    exact { h with publishers := (Endpoints.roster_setGreeter _ _ _).symm ▸ h.publishers }
  | subscribe _ =>
    have hid := h.next_eq hn
    refine { h.skip with publishers := ?_, subscriptions := ?_, owners := ?_ }
    · exact (Endpoints.roster_subscribe _ _ _).symm ▸ h.publishers.mono (by omega)
    · simp only [Guarded.store, Endpoints.subscribe, Endpoints.refresh, List.map_append]
      exact h.subscriptions.concat hid
    · rw [List.map_append]
      exact h.owners.concat hid
  | cut _ _ => exact h.filterInboxes _
  | unsubscribe _ _ _ =>
    refine { h.filterInboxes _ with publishers := ?_, subscriptions := ?_ }
    · exact (Endpoints.roster_unsubscribe _ _).symm ▸ h.publishers
    · exact h.subscriptions.sublist ((List.filter_sublist).map _)
  | publish _ _ _ => exact h.publish _ _ _ rfl
  | @queue ticket route _ _ _ _ _ => exact (h.setQueue route _).clearRoute ticket route _
  | @drop ticket route _ _ _ _ => exact h.clearRoute ticket route _
  | deliver _ => exact h.setQueue _ _
  | failInside => exact { h with }

end Numbered

end Domain

end TypedBus
