import TypedBus.Proofs.Transport.Completion

namespace TypedBus.Domain

variable {G : Type} {d : Domain G} {letter : Letter} {route : PeerId} {routes order others : List PeerId}

/-- A letter is put into the queue of a route, or dropped if there is none any more. -/
def sendTo (letter : Letter) (d : Domain G) (route : PeerId) : Domain G :=
  if d.isActive route then
    { d.setQueue route (d.queue route ++ [letter]) with metrics := d.metrics.recordDelivery }
  else { d with metrics := d.metrics.recordDropped }

/-- There is room at each of some routes, for as many letters as it is there times. -/
def HasRoom (d : Domain G) (order : List PeerId) : Prop :=
  ∀ route ∈ order, d.isActive route = true → (d.queue route).length + order.count route ≤ d.capacity

def waits : Outcome G → Bool
  | .passed _ .waiting => true
  | _ => false

/-- No letter had to wait for room in a queue. -/
def Unhindered (trace : Trace G) : Prop := ∀ e ∈ trace, waits e.2 = false

instance (trace : Trace G) : Decidable (Unhindered trace) := List.decidableBAll _ trace

theorem unhindered_append {front back : Trace G} :
    Unhindered (front ++ back) ↔ Unhindered front ∧ Unhindered back :=
  List.forall_mem_append

theorem isActive_sendTo (letter : Letter) (d : Domain G) (route other : PeerId) :
    (sendTo letter d route).isActive other = d.isActive other := by
  unfold sendTo
  split
  · exact isActive_setQueue route other _
  · rfl

theorem capacity_sendTo (letter : Letter) (d : Domain G) (route : PeerId) :
    (sendTo letter d route).capacity = d.capacity := by
  unfold sendTo
  split <;> rfl

theorem queue_sendTo {other : PeerId} (h : d.isActive other = true) (letter : Letter)
    (route : PeerId) : (sendTo letter d route).queue other =
      if other = route then d.queue other ++ [letter] else d.queue other := by
  unfold sendTo
  split
  · rename_i hactive
    change (d.setQueue route (d.queue route ++ [letter])).queue other = _
    rw [queue_setQueue h]
    by_cases heq : other = route
    · rw [if_pos heq, if_pos heq, heq]
    · rw [if_neg heq, if_neg heq]
  · rename_i hinactive
    have hne : other ≠ route := by
      rintro rfl
      exact hinactive h
    rw [if_neg hne]
    rfl

theorem sendTo_of_active (h : d.isActive route = true) (letter : Letter) :
    sendTo letter d route =
      { d.setQueue route (d.queue route ++ [letter]) with metrics := d.metrics.recordDelivery } :=
  if_pos h

theorem sendTo_of_inactive (h : d.isActive route = false) (letter : Letter) :
    sendTo letter d route = { d with metrics := d.metrics.recordDropped } := by
  rw [sendTo, h]
  rfl

theorem setQueue_comm {other : PeerId} (h : route ≠ other) (d : Domain G) (queue queue' : List Letter) :
    (d.setQueue route queue).setQueue other queue' = (d.setQueue other queue').setQueue route queue := by
  unfold setQueue
  simp only [List.map_map]
  congr 1
  apply List.map_congr_left
  intro b _
  simp only [Function.comp_apply]
  by_cases hroute : b.owner = route
  · have hother : b.owner ≠ other := fun he => h (hroute.symm.trans he)
    simp only [if_pos hroute, if_neg hother]
  · by_cases hother : b.owner = other
    · simp only [if_neg hroute, if_pos hother]
    · simp only [if_neg hroute, if_neg hother]

/-- Sending to one route and to another can be done in either order. -/
theorem sendTo_comm (letter : Letter) (d : Domain G) (route other : PeerId) :
    sendTo letter (sendTo letter d route) other = sendTo letter (sendTo letter d other) route := by
  by_cases heq : route = other
  · rw [heq]
  have hother := isActive_sendTo letter d route other
  have hroute := isActive_sendTo letter d other route
  cases hr : d.isActive route with
  | false =>
    rw [hr] at hroute
    cases ho : d.isActive other with
    | false =>
      rw [ho] at hother
      rw [sendTo_of_inactive hother, sendTo_of_inactive hroute, sendTo_of_inactive hr,
        sendTo_of_inactive ho]
    | true =>
      rw [ho] at hother
      rw [sendTo_of_active hother, sendTo_of_inactive hroute, sendTo_of_inactive hr,
        sendTo_of_active ho]
      rfl
  | true =>
    rw [hr] at hroute
    cases ho : d.isActive other with
    | false =>
      rw [ho] at hother
      rw [sendTo_of_inactive hother, sendTo_of_active hroute, sendTo_of_active hr,
        sendTo_of_inactive ho]
      rfl
    | true =>
      rw [ho] at hother
      rw [sendTo_of_active hother, sendTo_of_active hroute, queue_sendTo ho, queue_sendTo hr,
        if_neg (Ne.symm heq), if_neg heq, sendTo_of_active hr, sendTo_of_active ho]
      have hqueues := setQueue_comm heq d (d.queue route ++ [letter]) (d.queue other ++ [letter])
      exact congrArg (fun d' : Domain G => { d' with metrics := d.metrics.recordDelivery.recordDelivery })
        hqueues

/-- In whatever order a letter is sent to some routes, it comes to the same. -/
theorem foldl_sendTo_perm (h : order.Perm others) (letter : Letter) (d : Domain G) :
    order.foldl (sendTo letter) d = others.foldl (sendTo letter) d :=
  h.foldl_eq' (fun route _ other _ d => sendTo_comm letter d route other) d

theorem hasRoom_perm (h : order.Perm others) : d.HasRoom order ↔ d.HasRoom others := by
  unfold HasRoom
  simp only [h.mem_iff, h.count_eq]

/-- There is room at the first route now, and at the others once it has got its letter. -/
theorem hasRoom_cons (letter : Letter) : d.HasRoom (route :: order) ↔
    (d.isActive route = true → (d.queue route).length < d.capacity) ∧
      (sendTo letter d route).HasRoom order := by
  -- what a queue has gained is no longer asked of it by the rest of the order
  have hsent {other : PeerId} (hactive : d.isActive other = true) :
      ((sendTo letter d route).queue other).length + order.count other =
        (d.queue other).length + (route :: order).count other := by
    rw [queue_sendTo hactive, List.count_cons]
    by_cases heq : other = route
    · subst heq
      simp
      omega
    · simp [heq, Ne.symm heq]
  unfold HasRoom
  simp only [isActive_sendTo, capacity_sendTo]
  constructor
  · intro h
    constructor
    · intro hactive
      have hroom := h route List.mem_cons_self hactive
      rw [List.count_cons_self] at hroom
      omega
    · intro other hmem hactive
      rw [hsent hactive]
      exact h other (List.mem_cons_of_mem route hmem) hactive
  · rintro ⟨hfirst, hrest⟩ other hmem hactive
    by_cases hlater : other ∈ order
    · rw [← hsent hactive]
      exact hrest other hlater hactive
    · obtain rfl : other = route := (List.mem_cons.mp hmem).resolve_right hlater
      have hlt := hfirst hactive
      rw [List.count_cons_self, List.count_eq_zero.mpr hlater]
      omega

theorem clearRoute_publicationsOf (letter : Letter) (routes : List PeerId) (route : PeerId) :
    clearRoute (publicationsOf letter routes) letter.ticket route =
      publicationsOf letter (routes.erase route) := by
  by_cases hroutes : routes = []
  · rw [hroutes]
    rfl
  · have hone : publicationsOf letter routes = [⟨letter, routes⟩] := if_neg hroutes
    have hticket : Publication.ticket ⟨letter, routes⟩ = letter.ticket := rfl
    rw [hone, clearRoute_cons, if_pos hticket]
    exact List.append_nil _

theorem sendTo_publications (letter : Letter) (d : Domain G) (route : PeerId)
    (publications : List Publication) :
    sendTo letter { d with publications } route = { sendTo letter d route with publications } := by
  cases h : d.isActive route with
  | true =>
    rw [sendTo_of_active h, sendTo_of_active (d := { d with publications }) h]
    rfl
  | false => rw [sendTo_of_inactive h, sendTo_of_inactive (d := { d with publications }) h]

section Sole

variable (hsole : d.publications = publicationsOf letter routes) (hroute : route ∈ routes)
include hsole hroute

theorem publication?_of_sole : d.publication? letter.ticket = some ⟨letter, routes⟩ := by
  have hone : publicationsOf letter routes = [⟨letter, routes⟩] :=
    if_neg (List.ne_nil_of_mem hroute)
  rw [publication?, hsole, hone]
  exact List.find?_cons_of_pos (decide_eq_true rfl)

/-- Where there is room, or nobody any more, the letter is sent. -/
theorem perform_pass_of_room
    (hroom : d.isActive route = true → (d.queue route).length < d.capacity) :
    ∃ o, waits o = false ∧ d.perform (.pass letter.ticket route) =
      (o, { sendTo letter d route with publications := publicationsOf letter (routes.erase route) }) := by
  have hfound := publication?_of_sole hsole hroute
  simp only [perform, pass, hfound, hroute, not_true_eq_false, if_false]
  rw [hsole, clearRoute_publicationsOf]
  cases hb : d.inbox? route with
  | none =>
    have hinactive : d.isActive route = false := by rw [isActive, hb]; rfl
    rw [sendTo_of_inactive hinactive]
    exact ⟨.passed letter .dropped, rfl, rfl⟩
  | some inbox =>
    have hactive : d.isActive route = true := by rw [isActive, hb]; rfl
    have hqueue : d.queue route = inbox.queue := by rw [Domain.queue, hb]; rfl
    have hlt := hroom hactive
    rw [hqueue] at hlt
    rw [sendTo_of_active hactive, hqueue]
    simp only [hlt, if_true]
    exact ⟨.passed letter .queued, rfl, rfl⟩

theorem waits_pass_of_full (hactive : d.isActive route = true)
    (hfull : ¬ (d.queue route).length < d.capacity) :
    waits (d.perform (.pass letter.ticket route)).1 = true := by
  have hfound := publication?_of_sole hsole hroute
  obtain ⟨inbox, hb⟩ := Option.isSome_iff_exists.mp hactive
  have hqueue : d.queue route = inbox.queue := by rw [Domain.queue, hb]; rfl
  rw [hqueue] at hfull
  simp only [perform, pass, hfound, hroute, not_true_eq_false, if_false, hb, hfull]
  rfl

end Sole

/-- Passing the only publication on to its routes, in whatever order, is sending the letter to them, and no
letter waits exactly if there is room for all. -/
theorem run_passes (horder : order.Perm routes) (hsole : d.publications = publicationsOf letter routes) :
    (Unhindered (d.run (order.map (.pass letter.ticket))).1 ↔ d.HasRoom order) ∧
      (d.HasRoom order → (d.run (order.map (.pass letter.ticket))).2 =
        order.foldl (sendTo letter) { d with publications := [] }) := by
  induction order generalizing d routes with
  | nil =>
    obtain rfl := List.nil_perm.mp horder
    have hnone : d.publications = [] := hsole
    constructor
    · simp [Unhindered, HasRoom, run]
    · intro _
      rw [List.foldl_nil, ← hnone]
      rfl
  | cons route order ih =>
    have hroute : route ∈ routes := horder.subset List.mem_cons_self
    have hrest : order.Perm (routes.erase route) := by
      have herased := horder.erase route
      rwa [List.erase_cons_head] at herased
    by_cases hroom : d.isActive route = true → (d.queue route).length < d.capacity
    · obtain ⟨o, ho, hpass⟩ := perform_pass_of_room hsole hroute hroom
      obtain ⟨hiff, hfinal⟩ := ih (d := { sendTo letter d route with
        publications := publicationsOf letter (routes.erase route) }) hrest rfl
      simp only [List.map_cons, run, hpass]
      rw [hasRoom_cons letter, List.foldl_cons, sendTo_publications letter d route []]
      constructor
      · rw [and_iff_right hroom, Unhindered, List.forall_mem_cons, and_iff_right ho]
        exact hiff
      · exact fun h => hfinal h.2
    · obtain ⟨hactive, hfull⟩ := Classical.not_imp.mp hroom
      have hwaits := waits_pass_of_full hsole hroute hactive hfull
      rw [hasRoom_cons letter]
      constructor
      · refine iff_of_false (fun hfree => ?_) fun h => hroom h.1
        have hfirst := hfree _ List.mem_cons_self
        exact Bool.false_ne_true (hfirst.symm.trans hwaits)
      · exact fun h => absurd h.1 hroom

end TypedBus.Domain
