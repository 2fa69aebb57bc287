import TypedBus.Proofs.Registry.Resolve

namespace TypedBus

variable {M : Type}

/-- What asks a registry without changing it by hand. -/
inductive Lookup
  | resolve (tag : String)
  | dispatch (message : Message)

namespace Registry

variable {r r' : Registry M} {tag : String} {d : Descriptor M}

def afterLookup (r : Registry M) : Lookup → Registry M
  | .resolve tag => (r.resolve tag).2
  | .dispatch m => (Dispatcher.dispatch r m).2

/-- What comes of messages that are dispatched one after the other. -/
def outcomes (r : Registry M) : List Message → List (Except TypedError M)
  | [] => []
  | m :: later => (Dispatcher.dispatch r m).1 :: outcomes (Dispatcher.dispatch r m).2 later

/-- A registry that is another one, but for types of the catalog that it keeps under their names. -/
structure Caches (r r' : Registry M) : Prop where
  unpoisoned : r'.types.poisoned = r.types.poisoned
  policy : r'.policy = r.policy
  autoRegister : r'.autoRegister = r.autoRegister
  catalog : r'.catalog = r.catalog
  kept : ∀ tag d, r.registered? tag = some d → r'.registered? tag = some d
  added : ∀ tag d, r'.registered? tag = some d → r.registered? tag = none →
    r.found? tag = some d ∧ d.name = tag

namespace Caches

theorem refl (r : Registry M) : Caches r r where
  unpoisoned := rfl
  policy := rfl
  autoRegister := rfl
  catalog := rfl
  kept _ _ h := h
  added tag d h hnone := by
    rw [hnone] at h
    cases h

theorem found? (h : Caches r r') (tag : String) : r'.found? tag = r.found? tag := by
  simp only [Registry.found?, h.autoRegister, h.catalog]

theorem unlisted (h : Caches r r') (hnone : r'.registered? tag = none) :
    r.registered? tag = none := by
  cases hd : r.registered? tag with
  | none => rfl
  | some d =>
    rw [h.kept tag d hd] at hnone
    cases hnone

theorem store (h : Caches r r') (hstocked : r.Stocked) (hit : r'.found? tag = some d)
    (free : r'.registered? d.name = none) :
    Caches r (r'.store (r'.types.value.insert d.name d)) where
  unpoisoned := h.unpoisoned
  policy := h.policy
  autoRegister := h.autoRegister
  catalog := h.catalog
  kept other e he := by
    rw [registered?_store]
    split
    · rename_i hname
      subst hname
      rw [h.unlisted free] at he
      cases he
    · exact h.kept other e he
  added other e he hnone := by
    rw [registered?_store] at he
    split at he
    · rename_i hname
      subst hname
      cases he
      exact ⟨hstocked.found?_name (h.found? tag ▸ hit), rfl⟩
    · exact h.added other e he hnone

theorem resolve (h : Caches r r') (hopen : r.types.poisoned = false) (hstocked : r.Stocked)
    (tag : String) : Caches r (r'.resolve tag).2 := by
  have hr := resolved (h.unpoisoned.trans hopen) tag
  generalize r'.resolve tag = answer at hr ⊢
  cases hr with
  | registered | unknown | renamed => exact h
  | taken _ hit free => exact h.store hstocked hit free

theorem dispatch (h : Caches r r') (hopen : r.types.poisoned = false) (hstocked : r.Stocked)
    (m : Message) : Caches r (Dispatcher.dispatch r' m).2 := by
  rcases Dispatcher.tagged_or_untagged m with hnone | ⟨tag, htag, hne⟩
  · rw [Dispatcher.dispatch_of_untagged hnone]
    exact h
  · rw [Dispatcher.dispatch_of_tagged htag hne]
    exact h.resolve hopen hstocked tag

theorem afterLookup (h : Caches r r') (hopen : r.types.poisoned = false) (hstocked : r.Stocked)
    (lookup : Lookup) : Caches r (r'.afterLookup lookup) := by
  cases lookup with
  | resolve tag => exact h.resolve hopen hstocked tag
  | dispatch m => exact h.dispatch hopen hstocked m

theorem foldl_afterLookup (h : Caches r r') (hopen : r.types.poisoned = false)
    (hstocked : r.Stocked) (lookups : List Lookup) :
    Caches r (lookups.foldl Registry.afterLookup r') := by
  induction lookups generalizing r' with
  | nil => exact h
  | cons lookup lookups ih => exact ih (h.afterLookup hopen hstocked lookup)

theorem registered?_getD (h : Caches r r') (hstocked : r.Stocked) (hit : r.found? tag = some d) :
    (r'.registered? d.name).getD d = (r.registered? d.name).getD d := by
  cases hr : r.registered? d.name with
  | some e => rw [h.kept _ e hr]
  | none =>
    cases hr' : r'.registered? d.name with
    | none => rfl
    | some e =>
      have he := (h.added _ e hr' hr).1
      rw [hstocked.found?_name hit] at he
      exact (Option.some.inj he).symm

theorem typeOf?_eq (h : Caches r r') (hstocked : r.Stocked) (tag : String) :
    r'.typeOf? tag = r.typeOf? tag := by
  simp only [typeOf?, h.found? tag]
  cases hr' : r'.registered? tag with
  | none =>
    rw [h.unlisted hr', Option.none_or, Option.none_or]
    apply Option.map_congr
    intro found hit
    exact h.registered?_getD hstocked hit
  | some d =>
    cases hr : r.registered? tag with
    | some e => rw [Option.some.inj (hr'.symm.trans (h.kept tag e hr)), Option.some_or, Option.some_or]
    | none =>
      -- what only the later registry lists was found under its own name
      obtain ⟨hit, rfl⟩ := h.added tag d hr' hr
      simp [hit, hr]

/-- A tag is answered the same with what was kept as without. -/
theorem resolve_eq (h : Caches r r') (hopen : r.types.poisoned = false) (hstocked : r.Stocked)
    (tag : String) : (r'.resolve tag).1 = (r.resolve tag).1 := by
  rw [resolve_fst hopen, resolve_fst (h.unpoisoned.trans hopen), h.typeOf?_eq hstocked]

theorem dispatch_eq (h : Caches r r') (hopen : r.types.poisoned = false) (hstocked : r.Stocked)
    (m : Message) : (Dispatcher.dispatch r' m).1 = (Dispatcher.dispatch r m).1 := by
  rcases Dispatcher.tagged_or_untagged m with hnone | ⟨tag, htag, hne⟩
  · rw [Dispatcher.dispatch_of_untagged hnone, Dispatcher.dispatch_of_untagged hnone]
  · rw [Dispatcher.dispatch_of_tagged htag hne, Dispatcher.dispatch_of_tagged htag hne,
      h.resolve_eq hopen hstocked]

/-- Messages come each to what they come to by themselves. -/
theorem outcomes_eq (h : Caches r r') (hopen : r.types.poisoned = false) (hstocked : r.Stocked)
    (ms : List Message) : r'.outcomes ms = ms.map fun m => (Dispatcher.dispatch r m).1 := by
  induction ms generalizing r' with
  | nil => rfl
  | cons m ms ih =>
    rw [outcomes, h.dispatch_eq hopen hstocked, ih (h.dispatch hopen hstocked m), List.map_cons]

end Caches

/-- Whatever has been looked up or dispatched before, a tag is answered as if nothing had been, with the
same type or as unknown, and a message comes to the same object or error. -/
theorem lookups_do_not_show (r : Registry M) (hopen : r.types.poisoned = false)
    (hstocked : r.Stocked) (lookups : List Lookup) :
    (∀ tag, ((lookups.foldl afterLookup r).resolve tag).1 = (r.resolve tag).1 ∧
      ((∃ d, (r.resolve tag).1 = .ok d) ∨ (r.resolve tag).1 = .error (.unknownType tag))) ∧
    (∀ m, (Dispatcher.dispatch (lookups.foldl afterLookup r) m).1 = (Dispatcher.dispatch r m).1) ∧
    ∀ ms, (lookups.foldl afterLookup r).outcomes ms = ms.map fun m => (Dispatcher.dispatch r m).1 := by
  have h := (Caches.refl r).foldl_afterLookup hopen hstocked lookups
  refine ⟨fun tag => ⟨h.resolve_eq hopen hstocked tag, ?_⟩, h.dispatch_eq hopen hstocked,
    h.outcomes_eq hopen hstocked⟩
  rw [resolve_fst hopen]
  cases r.typeOf? tag with
  | none => exact .inr rfl
  | some d => exact .inl ⟨d, rfl⟩

/-- A registry that may use its catalog, in which a name of the catalog is registered for another
type. -/
def sampleRegistry : Registry Inbound where
  types := ⟨.ofList [("Ping", .constant "Ping" .bincode 7)], false⟩
  autoRegister := true
  catalog := some (.ofList [.of .aMessage, .of .ping])

/-- A tag that the catalog has a type for, a message of a type whose name was registered by hand, and a
tag that nobody knows. -/
def sampleLookups : List Lookup :=
  [.resolve "com.AMessage", .dispatch ((Message.withData []).setTypeTag "com.Ping"),
    .resolve "com."]

/-- The type that was kept answers another spelling as the catalog would; the name that was registered by
hand keeps its type. -/
theorem lookups_do_not_show_sample :
    sampleRegistry.types.poisoned = false ∧ sampleRegistry.Stocked ∧
      (sampleLookups.foldl afterLookup sampleRegistry).tags.toOption = some ["AMessage", "Ping"] ∧
      ((sampleLookups.foldl afterLookup sampleRegistry).resolve "org::AMessage").1 =
        .ok (.of .aMessage) ∧
      ((sampleLookups.foldl afterLookup sampleRegistry).resolve "org::Ping").1 =
        .ok (.constant "Ping" .bincode 7) ∧
      (Dispatcher.dispatch (sampleLookups.foldl afterLookup sampleRegistry) {}).1 =
        (Dispatcher.dispatch sampleRegistry {}).1 := by
  have hstocked : sampleRegistry.Stocked := by
    intro catalog hcatalog
    cases hcatalog
    exact ⟨_, rfl⟩
  obtain ⟨hresolve, hdispatch, -⟩ := lookups_do_not_show sampleRegistry rfl hstocked sampleLookups
  refine ⟨rfl, hstocked, ?_, (hresolve _).1.trans ?_, (hresolve _).1.trans ?_, hdispatch {}⟩
  · decide +kernel
  · with_unfolding_all rfl
  · with_unfolding_all rfl

end Registry

end TypedBus
