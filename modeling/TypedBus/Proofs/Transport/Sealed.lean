import TypedBus.Proofs.Transport.Queues
import TypedBus.Proofs.Transport.Visits

namespace TypedBus.Domain

variable {G : Type} {d d' before : Domain G} {a : Action G} {o : Outcome G} {trace : Trace G}
  {actions : List (Action G)}

theorem Shut.joinedBy (h : Shut d o d') (a : Action G) : joinedBy (a, o) = [] := by
  cases o with
  | joined id greetings => exact absurd rfl (h.joins id greetings)
  | silent | refused | gone | started | passed | delivered => rfl

theorem publish_of_poisoned (h : d.endpoints.poisoned = true) (p : PeerId) (m : Message) :
    ∃ e, d.publish p m = (.error e, d) := by
  unfold publish
  cases d.channelOf? p with
  | none => exact ⟨_, rfl⟩
  | some channel =>
    cases accept d.config m with
    | error e => exact ⟨e, rfl⟩
    | ok m' =>
      rw [read_of_poisoned h]
      exact ⟨_, rfl⟩

/-- What has become of a domain `before` since a task failed in it while it held the lock on the endpoints.
Nobody joins or leaves any more; a subscription can still be cancelled, but the endpoints do not hear of
it. -/
structure Sealed (before : Domain G) (actions : List (Action G)) (trace : Trace G) (d : Domain G) :
    Prop where
  poisoned : d.endpoints.poisoned = true
  endpoints : d.endpoints.value = before.endpoints.value
  publishers : d.metrics.publishers = before.metrics.publishers
  subscribers : d.metrics.subscribers = before.metrics.subscribers
  nobodyJoins : joinedIds trace = []
  active : ∀ id, d.isActive id = true ↔ before.isActive id = true ∧ .unsubscribe id ∉ actions

namespace Sealed

theorem failInside (d : Domain G) : Sealed d [] [] d.failInside where
  poisoned := rfl
  endpoints := rfl
  publishers := rfl
  subscribers := rfl
  nobodyJoins := rfl
  active _ := (and_iff_left List.not_mem_nil).symm

theorem active_step (h : Sealed before actions trace d) (hs : Step d a o d') (id : PeerId) :
    d'.isActive id = true ↔ before.isActive id = true ∧ .unsubscribe id ∉ actions ++ [a] := by
  rw [List.mem_append, List.mem_singleton, not_or, ← and_assoc, ← h.active id]
  by_cases hleaves : .unsubscribe id = a
  · subst hleaves
    simp [inactive_of_unsubscribe hs]
  · rw [and_iff_left hleaves]
    constructor
    · intro hactive
      rw [← Bool.not_eq_false]
      intro hinactive
      have hnew : id ∉ Domain.joinedBy (a, o) := by
        rw [(shut_step hs h.poisoned).joinedBy]
        exact List.not_mem_nil
      rw [inactive_step hs hinactive hnew] at hactive
      cases hactive
    · exact fun hactive => isActive_step hs hactive (Ne.symm hleaves)

theorem step (h : Sealed before actions trace d) (hs : Step d a o d') :
    Sealed before (actions ++ [a]) (trace ++ [(a, o)]) d' := by
  have hshut := shut_step hs h.poisoned
  refine ⟨hshut.poisoned, hshut.endpoints.trans h.endpoints, hshut.publishers.trans h.publishers,
    hshut.subscribers.trans h.subscribers, ?_, h.active_step hs⟩
  rw [joinedIds_concat, h.nobodyJoins, hshut.joinedBy]
  rfl

end Sealed

theorem sealed_run (hrun : d.failInside.run actions = (trace, d')) : Sealed d actions trace d' :=
  run_induction (P := Sealed d) (.failInside d) (fun _ _ _ _ _ _ _ hs ih => ih.step hs) hrun

/-- Nobody gets to read what was written last, and nothing new is published. -/
structure Unread (d : Domain G) : Prop where
  publisherCount : d.publisherCount = .error unreadable
  subscriberCount : d.subscriberCount = .error unreadable
  subscribers : ∀ t p, d.subscribersAlong t p = []
  publish : ∀ p m, ∃ e, d.publish p m = (.error e, d)

theorem Sealed.unread (h : Sealed before actions trace d) : Unread d := by
  have hread := read_of_poisoned h.poisoned
  refine ⟨?_, ?_, ?_, publish_of_poisoned h.poisoned⟩
  · rw [Domain.publisherCount, hread]
    rfl
  · rw [Domain.subscriberCount, hread]
    rfl
  · intro t p
    cases hc : d.channelOf? p <;> simp only [subscribersAlong, hc, hread]

end TypedBus.Domain
