import TypedBus.Proofs.Registry.Runs
import TypedBus.Proofs.Typed.Tagging

namespace TypedBus

variable {G M : Type}

namespace TypedSubscriber

/-- The registry is asked for every letter that the subscriber is handed. -/
def lookups (s : TypedSubscriber M) (e : Action G × Outcome G) : List (Registry.Operation M) :=
  (Listening.lettersFor s e).map fun letter => .dispatch letter.message

theorem eq_of_join {d d' : Domain G} {channel : String} {registry : Registry M} {running : Bool}
    {s : TypedSubscriber M} {greetings : List (Greeting G)}
    (h : join d channel registry running = (.ok (s, greetings), d')) :
    ∃ id, d.subscribe channel running = (.ok (id, greetings), d') ∧
      s = { raw := some id, channel, dispatcher := { registry } } := by
  rw [join] at h
  split at h
  · cases h
  · rename_i id welcomes joined hsubscribe
    cases h
    exact ⟨id, hsubscribe, rfl⟩

theorem registry_receive (d : Dispatcher M) (receiver : Receiver M) (m : Message) :
    (d.receive receiver m).2.registry = (Dispatcher.dispatch d.registry m).2 := by
  cases hd : (Dispatcher.dispatch d.registry m).1 with
  | error e => rw [Dispatcher.receive_of_error hd]
  | ok value => rw [Dispatcher.receive_of_ok hd]

/-- To hear something changes neither the subscription nor the channel. -/
theorem hear_keeps (receiver : Receiver M) (e : Action G × Outcome G) (s : TypedSubscriber M) :
    (s.hear receiver e).raw = s.raw ∧ (s.hear receiver e).channel = s.channel ∧
      (s.hear receiver e).dispatcher.registry = s.dispatcher.registry.run (s.lookups e) := by
  rw [hear, lookups, Registry.run]
  generalize Listening.lettersFor s e = letters
  induction letters generalizing s with
  | nil => exact ⟨rfl, rfl, rfl⟩
  | cons letter letters ih =>
    obtain ⟨hraw, hchannel, hregistry⟩ := ih (s.receive receiver letter.message).2
    refine ⟨hraw, hchannel, hregistry.trans ?_⟩
    rw [List.map_cons, List.foldl_cons]
    congr 1
    exact registry_receive s.dispatcher receiver letter.message

theorem close_keeps (s : TypedSubscriber M) (d : Domain G) :
    (s.close d).1.raw = none ∧ (s.close d).1.channel = s.channel := by
  unfold close
  cases h : s.raw with
  | none => exact ⟨h, rfl⟩
  | some id => exact ⟨rfl, rfl⟩

end TypedSubscriber

namespace Bus

variable {b : Bus G M} {i : Nat} {s t : TypedSubscriber M}

/-- What a deed makes of the subscriber in a place. -/
def next (b : Bus G M) (i : Nat) (s : TypedSubscriber M) : Deed G M → TypedSubscriber M
  | .ask j request => if j = i then s.ask request else s
  | .close j => if j = i then (s.close b.domain).1 else s
  | .act receiver a => s.hear receiver (a, (b.domain.perform a).1)
  | .advertise _ | .wrap _ | .order _ _ | .subscribe _ _ _ => s

/-- What a deed puts the registry of the subscriber in a place to. -/
def operations (b : Bus G M) (i : Nat) (s : TypedSubscriber M) : Deed G M → List (Registry.Operation M)
  | .ask j request => if j = i then [.ask request] else []
  | .act _ a => s.lookups (a, (b.domain.perform a).1)
  | .advertise _ | .wrap _ | .order _ _ | .subscribe _ _ _ | .close _ => []

theorem subscriber_step (h : b.subscribers[i]? = some s) (deed : Deed G M) :
    (b.step deed).subscribers[i]? = some (b.next i s deed) := by
  have hlt : i < b.subscribers.length := (List.getElem?_eq_some_iff.mp h).1
  cases deed with
  | advertise | wrap => exact h
  | order j order =>
    simp only [step]
    cases b.publishers[j]? <;> exact h
  | subscribe channel registry running =>
    exact (List.getElem?_append_left hlt).trans h
  | ask j request =>
    simp only [step, next]
    by_cases hj : j = i
    · subst hj
      rw [h, if_pos rfl]
      exact List.getElem?_set_self hlt
    · rw [if_neg hj]
      cases b.subscribers[j]? with
      | none => exact h
      | some t => exact (List.getElem?_set_ne hj).trans h
  | close j =>
    simp only [step, next]
    by_cases hj : j = i
    · subst hj
      rw [h, if_pos rfl]
      exact List.getElem?_set_self hlt
    · rw [if_neg hj]
      cases b.subscribers[j]? with
      | none => exact h
      | some t => exact (List.getElem?_set_ne hj).trans h
  | act receiver a =>
    simp only [step, next, List.getElem?_map, h, Option.map_some]

theorem subscriber_joined {channel : String} {registry : Registry M} {running : Bool}
    {greetings : List (Greeting G)} {d : Domain G}
    (h : TypedSubscriber.join b.domain channel registry running = (.ok (s, greetings), d)) :
    (b.step (.subscribe channel registry running)).subscribers[b.subscribers.length]? = some s ∧
      (b.step (.subscribe channel registry running)).domain = d := by
  simp [step, h, Except.toOption]

theorem length_step {deed : Deed G M}
    (h : ∀ channel registry running, deed ≠ .subscribe channel registry running) :
    (b.step deed).subscribers.length = b.subscribers.length := by
  cases deed with
  | advertise | wrap => rfl
  | subscribe channel registry running => exact absurd rfl (h channel registry running)
  | order j order =>
    simp only [step]
    cases b.publishers[j]? <;> rfl
  | ask j request =>
    simp only [step]
    cases b.subscribers[j]? with
    | none => rfl
    | some s => exact List.length_set
  | close j =>
    simp only [step]
    cases b.subscribers[j]? with
    | none => rfl
    | some s => exact List.length_set
  | act receiver a => exact List.length_map _

/-- A subscriber in a place was there before, or it has joined just now. -/
theorem subscriber_cases {deed : Deed G M} (h : (b.step deed).subscribers[i]? = some t) :
    (∃ s, b.subscribers[i]? = some s ∧ t = b.next i s deed) ∨
    (i = b.subscribers.length ∧ ∃ channel registry running greetings,
      deed = .subscribe channel registry running ∧
      TypedSubscriber.join b.domain channel registry running =
        (.ok (t, greetings), (b.step deed).domain)) := by
  cases hs : b.subscribers[i]? with
  | some s => exact .inl ⟨s, rfl, Option.some.inj (h.symm.trans (subscriber_step hs deed))⟩
  | none =>
    have hle := List.getElem?_eq_none_iff.mp hs
    have hlt := (List.getElem?_eq_some_iff.mp h).1
    by_cases hjoin : ∃ channel registry running, deed = .subscribe channel registry running
    · obtain ⟨channel, registry, running, rfl⟩ := hjoin
      simp only [step] at h
      generalize hnow : TypedSubscriber.join b.domain channel registry running = joined at h
      obtain ⟨result, domain⟩ := joined
      rw [List.getElem?_append_right hle] at h
      have hmem := Option.mem_toList.mp (List.mem_of_getElem? h)
      obtain ⟨⟨u, greetings⟩, hresult, rfl⟩ := Option.map_eq_some_iff.mp hmem
      cases result with
      | error e => cases hresult
      | ok joined =>
        cases hresult
        have hone := (List.getElem?_eq_some_iff.mp h).1
        simp only [Except.toOption, Option.map_some, Option.toList_some, List.length_singleton] at hone
        refine .inr ⟨by omega, channel, registry, running, greetings, rfl, ?_⟩
        simp only [step, hnow]
    · have hsame : (b.step deed).subscribers.length = b.subscribers.length :=
        length_step fun channel registry running he => hjoin ⟨channel, registry, running, he⟩
      omega

theorem raw_next (b : Bus G M) (i : Nat) (s : TypedSubscriber M) {deed : Deed G M}
    (h : deed ≠ .close i) : (b.next i s deed).raw = s.raw := by
  cases deed with
  | advertise | wrap | order | subscribe => rfl
  | ask j request =>
    simp only [next]
    split <;> rfl
  | close j =>
    have hj : j ≠ i := fun he => h (congrArg Deed.close he)
    simp only [next, if_neg hj]
  | act receiver a => exact (s.hear_keeps receiver _).1

theorem channel_next (b : Bus G M) (i : Nat) (s : TypedSubscriber M) (deed : Deed G M) :
    (b.next i s deed).channel = s.channel := by
  cases deed with
  | advertise | wrap | order | subscribe => rfl
  | ask j request =>
    simp only [next]
    split <;> rfl
  | close j =>
    simp only [next]
    split
    · exact (s.close_keeps b.domain).2
    · rfl
  | act receiver a => exact (s.hear_keeps receiver _).2.1

/-- Whatever is done, a registry sees nothing but requests and messages. -/
theorem registry_next (b : Bus G M) (i : Nat) (s : TypedSubscriber M) (deed : Deed G M) :
    (b.next i s deed).dispatcher.registry = s.dispatcher.registry.run (b.operations i s deed) := by
  cases deed with
  | advertise | wrap | order | subscribe => rfl
  | ask j request =>
    simp only [next, operations]
    split <;> rfl
  | close j =>
    simp only [next, operations]
    split
    · exact congrArg Dispatcher.registry (s.dispatcher_close b.domain)
    · rfl
  | act receiver a => exact (s.hear_keeps receiver _).2.2

theorem run_concat (b : Bus G M) (deeds : List (Deed G M)) (deed : Deed G M) :
    b.run (deeds ++ [deed]) = (b.run deeds).step deed := by
  simp [run]

theorem actions_concat (b : Bus G M) (deeds : List (Deed G M)) (deed : Deed G M) :
    b.actions (deeds ++ [deed]) = b.actions deeds ++ (b.run deeds).actionsOf deed := by
  induction deeds generalizing b with
  | nil => simp [actions, run]
  | cons first deeds ih =>
    change b.actionsOf first ++ (b.step first).actions (deeds ++ [deed]) = _
    rw [ih, ← List.append_assoc]
    rfl

/-- A deed leaves the domain alone or comes to one action there. -/
theorem domain_cases (b : Bus G M) (deed : Deed G M) :
    (b.actionsOf deed = [] ∧ (b.step deed).domain = b.domain) ∨
    ∃ a, b.actionsOf deed = [a] ∧
      Domain.Step b.domain a (b.domain.perform a).1 (b.step deed).domain := by
  have hdomain := b.domain_step deed
  have hone : (b.actionsOf deed).length ≤ 1 := by
    cases deed with
    | advertise | wrap | subscribe | ask | act => simp [actionsOf]
    | order i order => exact Option.length_toList_le
    | close i => exact Option.length_toList_le
  cases hactions : b.actionsOf deed with
  | nil =>
    rw [hactions] at hdomain
    exact .inl ⟨rfl, hdomain⟩
  | cons a rest =>
    rw [hactions, List.length_cons] at hone
    obtain rfl : rest = [] := List.length_eq_zero_iff.mp (by omega)
    rw [hactions] at hdomain
    exact .inr ⟨a, rfl, hdomain ▸ Domain.step_perform b.domain a⟩

/-- A subscription is cancelled by who holds it, or as one that no typed subscriber is around. -/
theorem unsubscribe_mem_actionsOf {deed : Deed G M} {id : PeerId}
    (h : .unsubscribe id ∈ b.actionsOf deed) :
    (∃ i s, deed = .close i ∧ b.subscribers[i]? = some s ∧ s.raw = some id) ∨
    ∃ receiver, deed = .act receiver (.unsubscribe id) := by
  cases deed with
  | advertise | wrap | subscribe | ask => simp [actionsOf] at h
  | order i order =>
    simp only [actionsOf, Option.mem_toList] at h
    obtain ⟨p, -, h⟩ := Option.bind_eq_some_iff.mp h
    obtain ⟨m, -, h⟩ := Option.map_eq_some_iff.mp h
    cases h
  | close i =>
    simp only [actionsOf, Option.mem_toList] at h
    obtain ⟨s, hs, h⟩ := Option.bind_eq_some_iff.mp h
    obtain ⟨raw, hraw, h⟩ := Option.map_eq_some_iff.mp h
    cases h
    exact .inl ⟨i, s, rfl, hs, hraw⟩
  | act receiver a =>
    obtain rfl := List.mem_singleton.mp h
    exact .inr ⟨receiver, rfl⟩

end Bus

end TypedBus
