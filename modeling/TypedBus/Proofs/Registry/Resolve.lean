import TypedBus.Proofs.Registry.Catalogs
import TypedBus.Subscriber.Dispatcher

namespace TypedBus

variable {M : Type}

namespace Registry

variable {r : Registry M} {tag : String} {d : Descriptor M}

/-- A registry whose catalog, if it has one, was filled type by type. -/
def Stocked (r : Registry M) : Prop :=
  ∀ catalog, r.catalog = some catalog → ∃ descriptors, catalog = .ofList descriptors

theorem found?_eq_some_iff : r.found? tag = some d ↔
    r.autoRegister = true ∧ ∃ catalog, r.catalog = some catalog ∧ catalog.lookup tag = some d := by
  rw [found?]
  split
  · rename_i hauto
    rw [Option.bind_eq_some_iff, and_iff_right hauto]
  · rename_i hauto
    exact iff_of_false (Option.some_ne_none d).symm fun h => hauto h.1

theorem Stocked.found?_name (h : r.Stocked) (hd : r.found? tag = some d) :
    r.found? d.name = some d := by
  obtain ⟨hauto, catalog, hcatalog, hlookup⟩ := found?_eq_some_iff.mp hd
  obtain ⟨descriptors, rfl⟩ := h catalog hcatalog
  have hname := (Catalog.named_ofList descriptors).lookup_name hlookup
  exact found?_eq_some_iff.mpr ⟨hauto, _, hcatalog, hname⟩

/-- The type that is registered under a tag. -/
def registered? (r : Registry M) (tag : String) : Option (Descriptor M) := r.types.value.get? tag

theorem registered?_store (r : Registry M) (key tag : String) (d : Descriptor M) :
    (r.store (r.types.value.insert key d)).registered? tag =
      if tag = key then some d else r.registered? tag :=
  TextMap.get?_insert _ _ _ _

/-- What looking a tag up comes to when the lock is not poisoned. -/
inductive Resolved (r : Registry M) (tag : String) :
    Except TypedError (Descriptor M) × Registry M → Prop
  | registered {d : Descriptor M} (listed : r.registered? tag = some d) :
      Resolved r tag (.ok d, r)
  | unknown (unlisted : r.registered? tag = none) (missing : r.found? tag = none) :
      Resolved r tag (.error (.unknownType tag), r)
  /-- The name of the type that the catalog has for a tag is registered, be it for another type. -/
  | renamed {found d : Descriptor M} (unlisted : r.registered? tag = none)
      (hit : r.found? tag = some found) (listed : r.registered? found.name = some d) :
      Resolved r tag (.ok d, r)
  | taken {found : Descriptor M} (unlisted : r.registered? tag = none)
      (hit : r.found? tag = some found) (free : r.registered? found.name = none) :
      Resolved r tag (.ok found, r.store (r.types.value.insert found.name found))

theorem read_of_open (h : r.types.poisoned = false) : r.read = .ok r.types.value := by
  rw [read, Guarded.read, h]
  rfl

/-- The error of everyone who wants to look at the types behind a poisoned lock. -/
def unreadable : TypedError := .registry s!"获取读锁失败: {Guarded.poisonText}"

def unwritable : TypedError := .registry s!"获取写锁失败: {Guarded.poisonText}"

theorem read_of_poisoned (h : r.types.poisoned = true) : r.read = .error unreadable := by
  rw [read, Guarded.read, h]
  rfl

theorem write_eq_unwritable (h : r.types.poisoned = true) : r.write = .error unwritable := by
  rw [write, Guarded.write, h]
  rfl

theorem resolve_eq_unreadable (h : r.types.poisoned = true) (tag : String) :
    r.resolve tag = (.error unreadable, r) := by
  simp only [resolve, read_of_poisoned h]

theorem resolve_of_poisoned (h : r.types.poisoned = true) (tag : String) :
    ∃ reason, r.resolve tag = (.error (.registry reason), r) := by
  simp only [resolve, read, Guarded.read, h]
  exact ⟨_, rfl⟩

theorem resolved (h : r.types.poisoned = false) (tag : String) : Resolved r tag (r.resolve tag) := by
  simp only [resolve, read_of_open h]
  cases hl : r.types.value.get? tag with
  | some d => exact .registered hl
  | none =>
    cases hf : r.found? tag with
    | none => exact .unknown hl hf
    | some found =>
      cases hn : r.types.value.get? found.name with
      | some d => simpa only [hn] using Resolved.renamed hl hf hn
      | none => simpa only [hn] using Resolved.taken hl hf hn

def typeOf? (r : Registry M) (tag : String) : Option (Descriptor M) :=
  (r.registered? tag).or ((r.found? tag).map fun found => (r.registered? found.name).getD found)

theorem resolve_fst (h : r.types.poisoned = false) (tag : String) :
    (r.resolve tag).1 = (r.typeOf? tag).elim (.error (.unknownType tag)) .ok := by
  have hr := resolved h tag
  generalize r.resolve tag = answer at hr ⊢
  cases hr with
  | registered listed => simp [typeOf?, listed]
  | unknown unlisted missing => simp [typeOf?, unlisted, missing]
  | renamed unlisted hit listed => simp [typeOf?, unlisted, hit, listed]
  | taken unlisted hit free => simp [typeOf?, unlisted, hit, free]

end Registry

namespace Dispatcher

/-- The object that a message is read as, once its tag has been looked up. -/
def objectOf (m : Message) (tag : String) :
    Except TypedError (Descriptor M) → Except TypedError M
  | .error e => .error e
  | .ok d => (d.decode m.data).mapError (.decode tag)

theorem dispatch_of_untagged {m : Message} (h : m.typeTag = none ∨ m.typeTag = some "")
    (r : Registry M) : dispatch r m = (.error .missingTypeTag, r) := by
  rcases h with h | h <;> simp only [dispatch, h]

/-- A message with a tag comes to what its tag is found to be, and the registry keeps of it what it
keeps of the tag. -/
theorem dispatch_of_tagged {m : Message} {tag : String} (h : m.typeTag = some tag) (hne : tag ≠ "")
    (r : Registry M) :
    dispatch r m = (objectOf m tag (r.resolve tag).1, (r.resolve tag).2) := by
  simp only [dispatch, h]
  generalize r.resolve tag = answer
  obtain ⟨result, kept⟩ := answer
  cases result <;> rfl

/-- What can be wrong with a message that has a tag: nobody gets at the types, the tag stands for none,
or its type does not fit the payload. -/
theorem error_of_tagged {m : Message} {tag : String} (h : m.typeTag = some tag) (hne : tag ≠ "")
    {r : Registry M} {e : TypedError} (he : (dispatch r m).1 = .error e) :
    (∃ reason, e = .registry reason) ∨ e = .unknownType tag ∨ ∃ cause, e = .decode tag cause := by
  rw [dispatch_of_tagged h hne] at he
  have hdecode : ∀ d : Descriptor M, (d.decode m.data).mapError (.decode tag) = .error e →
      ∃ cause, e = .decode tag cause := by
    intro d hd
    cases hc : d.decode m.data with
    | error cause =>
      rw [hc] at hd
      exact ⟨cause, (Except.error.inj hd).symm⟩
    | ok value =>
      rw [hc] at hd
      cases hd
  cases hp : r.types.poisoned with
  | true =>
    obtain ⟨reason, hresolve⟩ := Registry.resolve_of_poisoned hp tag
    rw [hresolve] at he
    exact .inl ⟨reason, (Except.error.inj he).symm⟩
  | false =>
    have hr := Registry.resolved hp tag
    generalize r.resolve tag = answer at hr he
    cases hr with
    | unknown => exact .inr (.inl (Except.error.inj he).symm)
    | registered | renamed | taken => exact .inr (.inr (hdecode _ he))

/-- A message without an object is counted under its error, and the error is reported. -/
theorem receive_of_error {d : Dispatcher M} {m : Message} {e : TypedError}
    (h : (dispatch d.registry m).1 = .error e) (receiver : Receiver M) :
    d.receive receiver m =
      (.failure e, ⟨(dispatch d.registry m).2, d.metrics.recordFailure e⟩) := by
  unfold receive
  generalize dispatch d.registry m = answer at h ⊢
  obtain ⟨result, registry⟩ := answer
  cases h
  rfl

/-- A message with an object is handed over, and counted if the receiver takes it. -/
theorem receive_of_ok {d : Dispatcher M} {m : Message} {value : M}
    (h : (dispatch d.registry m).1 = .ok value) (receiver : Receiver M) :
    d.receive receiver m =
      (.object value, ⟨(dispatch d.registry m).2,
        if receiver.failsOnObject value m then d.metrics else d.metrics.recordDelivered⟩) := by
  unfold receive
  generalize dispatch d.registry m = answer at h ⊢
  obtain ⟨result, registry⟩ := answer
  cases h
  rfl

theorem tagged_or_untagged (m : Message) :
    (m.typeTag = none ∨ m.typeTag = some "") ∨ ∃ tag, m.typeTag = some tag ∧ tag ≠ "" := by
  cases h : m.typeTag with
  | none => exact .inl (.inl rfl)
  | some tag =>
    by_cases hne : tag = ""
    · exact .inl (.inr (congrArg some hne))
    · exact .inr ⟨tag, rfl, hne⟩

end Dispatcher

end TypedBus
