import TypedBus.Proofs.Registry.Resolve
import TypedBus.Registry.Request

namespace TypedBus.Registry

variable {M : Type}

/-- What a registry is put to: a request, or a message that is dispatched with it. -/
inductive Operation (M : Type)
  | ask (request : Request M)
  | dispatch (message : Message)

/-- What an operation wants of the registered types. -/
inductive Aim (M : Type)
  | register (tag : String) (descriptor : Descriptor M)
  | remove (tag : String)
  | find (tag : String)
  | nothing

/-- A message without a tag does not get as far as the registry. -/
def Operation.aim : Operation M → Aim M
  | .ask (.register tag d) => .register tag d
  | .ask (.registerType d) => .register d.name d
  | .ask (.unregister tag) => .remove tag
  | .ask (.resolve tag) => .find tag
  | .dispatch m => match m.typeTag with
    | none | some "" => .nothing
    | some tag => .find tag
  | _ => .nothing

/-- Fails while it holds the lock. -/
def Operation.poisons : Operation M → Bool
  | .ask .failInside => true
  | _ => false

variable {r : Registry M} {op : Operation M} {tag : String} {d : Descriptor M}

def after (r : Registry M) : Operation M → Registry M
  | .ask request => (r.perform request).2
  | .dispatch m => (Dispatcher.dispatch r m).2

def run (r : Registry M) (ops : List (Operation M)) : Registry M := ops.foldl after r

/-- The operations of a run, each with the registry that it meets. -/
def met (r : Registry M) : List (Operation M) → List (Registry M × Operation M)
  | [] => []
  | op :: later => (r, op) :: met (r.after op) later

theorem run_append (r : Registry M) (before later : List (Operation M)) :
    r.run (before ++ later) = (r.run before).run later :=
  List.foldl_append

theorem met_append (r : Registry M) (before later : List (Operation M)) :
    r.met (before ++ later) = r.met before ++ (r.run before).met later := by
  induction before generalizing r with
  | nil => rfl
  | cons op before ih => exact congrArg ((r, op) :: ·) (ih (r.after op))

theorem registered?_erase (r : Registry M) (key tag : String) :
    (r.store (r.types.value.erase key)).registered? tag =
      if tag = key then none else r.registered? tag :=
  TextMap.get?_erase _ _ _

theorem mem_met (r : Registry M) (before later : List (Operation M)) (op : Operation M) :
    (r.run before, op) ∈ r.met (before ++ op :: later) := by
  rw [met_append]
  exact List.mem_append_right _ List.mem_cons_self

theorem mem_of_mem_met {ops : List (Operation M)} {e : Registry M × Operation M}
    (h : e ∈ r.met ops) : e.2 ∈ ops := by
  induction ops generalizing r with
  | nil => cases h
  | cons op ops ih =>
    rcases List.mem_cons.mp h with rfl | h
    · exact List.mem_cons_self
    · exact List.mem_cons_of_mem op (ih h)

theorem write_of_open (h : r.types.poisoned = false) : r.write = .ok r.types.value := by
  rw [write, Guarded.write, h]
  rfl

theorem write_of_poisoned (h : r.types.poisoned = true) :
    ∃ reason, r.write = .error (.registry reason) := by
  rw [write, Guarded.write, h]
  exact ⟨_, rfl⟩

theorem unregister_of_open (h : r.types.poisoned = false) (tag : String) :
    r.unregister tag = (.ok (r.registered? tag), r.store (r.types.value.erase tag)) := by
  rw [unregister, write_of_open h]
  rfl

theorem unregister_of_poisoned (h : r.types.poisoned = true) (tag : String) :
    ∃ reason, r.unregister tag = (.error (.registry reason), r) := by
  obtain ⟨reason, hwrite⟩ := write_of_poisoned h
  rw [unregister, hwrite]
  exact ⟨reason, rfl⟩

inductive Registration (r : Registry M) (tag : String) (d : Descriptor M) :
    Except TypedError (Option (Descriptor M)) × Registry M → Prop
  | untagged (empty : tag = "") : Registration r tag d (.error .emptyTypeTag, r)
  | shut {reason : String} (poisoned : r.types.poisoned = true) :
      Registration r tag d (.error (.registry reason), r)
  | refused {previous : Descriptor M} (listed : r.registered? tag = some previous)
      (strict : r.policy = .reject) :
      Registration r tag d (.error (.duplicateRegistration tag), r)
  /-- The type that was under the tag is answered; a strict registry has none there. -/
  | stored (tagged : tag ≠ "") (unpoisoned : r.types.poisoned = false)
      (admitted : r.policy = .reject → r.registered? tag = none) :
      Registration r tag d (.ok (r.registered? tag), r.store (r.types.value.insert tag d))

theorem registration (r : Registry M) (tag : String) (d : Descriptor M) :
    Registration r tag d (r.register tag d) := by
  rw [register]
  split
  · rename_i hempty
    exact .untagged hempty
  · rename_i htagged
    cases hp : r.types.poisoned with
    | true =>
      obtain ⟨reason, hwrite⟩ := write_of_poisoned hp
      rw [hwrite]
      exact .shut hp
    | false =>
      rw [write_of_open hp]
      cases hl : r.types.value.get? tag with
      | none =>
        have hfree : r.registered? tag = none := hl
        simpa only [hl, hfree] using Registration.stored (d := d) htagged hp fun _ => hfree
      | some previous =>
        have hlisted : r.registered? tag = some previous := hl
        cases hpolicy : r.policy with
        | reject => simpa only [hl, hpolicy] using Registration.refused hlisted hpolicy
        | overwrite =>
          have hadmitted : r.policy = .reject → r.registered? tag = none := by
            rw [hpolicy]
            exact nofun
          simpa only [hl, hpolicy, hlisted] using Registration.stored (d := d) htagged hp hadmitted

theorem after_of_register (h : op.aim = .register tag d) : r.after op = (r.register tag d).2 := by
  cases op with
  | ask request => cases request <;> cases h <;> rfl
  | dispatch m =>
    simp only [Operation.aim] at h
    split at h <;> cases h

theorem after_of_remove (h : op.aim = .remove tag) : r.after op = (r.unregister tag).2 := by
  cases op with
  | ask request =>
    cases request <;> cases h
    rfl
  | dispatch m =>
    simp only [Operation.aim] at h
    split at h <;> cases h

theorem after_of_find (h : op.aim = .find tag) : r.after op = (r.resolve tag).2 := by
  cases op with
  | ask request =>
    cases request <;> cases h
    rfl
  | dispatch m =>
    simp only [Operation.aim] at h
    split at h
    · cases h
    · cases h
    · rename_i tag hne htag
      cases h
      rw [after, Dispatcher.dispatch_of_tagged htag hne]

theorem poisons_of_aim (h : op.aim ≠ .nothing) : op.poisons = false := by
  cases op with
  | ask request =>
    cases request with
    | failInside => exact absurd rfl h
    | _ => rfl
  | dispatch m => rfl

theorem failInside_snd (r : Registry M) : r.failInside.2 = { r with types := r.types.poison } := by
  cases hp : r.types.poisoned with
  | true =>
    obtain ⟨reason, hwrite⟩ := write_of_poisoned hp
    have hpoison : r.types = r.types.poison := by
      rw [Guarded.poison, ← hp]
    rw [failInside, hwrite, ← hpoison]
  | false =>
    rw [failInside, write_of_open hp]

/-- What wants nothing of the registered types sets the flag or poisons the lock, if it does anything. -/
theorem after_of_nothing (h : op.aim = .nothing) :
    ∃ auto, r.after op =
      { r with types := ⟨r.types.value, r.types.poisoned || op.poisons⟩, autoRegister := auto } := by
  have hkept (auto : Bool) (hsafe : op.poisons = false) (hafter : r.after op = r.setAutoRegister auto) :
      ∃ auto, r.after op =
        { r with types := ⟨r.types.value, r.types.poisoned || op.poisons⟩, autoRegister := auto } := by
    refine ⟨auto, ?_⟩
    rw [hsafe, Bool.or_false, hafter]
    rfl
  cases op with
  | ask request =>
    cases request with
    | register | registerType | unregister | resolve => cases h
    | setAutoRegister auto => exact hkept auto rfl rfl
    | failInside =>
      refine ⟨r.autoRegister, ?_⟩
      rw [Operation.poisons, Bool.or_true]
      exact failInside_snd r
    | contains | size | isEmpty | tags | policy | catalog => exact hkept r.autoRegister rfl rfl
  | dispatch m =>
    apply hkept r.autoRegister rfl
    simp only [Operation.aim] at h
    split at h
    · rename_i hnone
      rw [after, Dispatcher.dispatch_of_untagged (.inl hnone)]
      rfl
    · rename_i hempty
      rw [after, Dispatcher.dispatch_of_untagged (.inr hempty)]
      rfl
    · cases h

/-- An operation registers a type under a tag, and is let. -/
structure Registers (r : Registry M) (op : Operation M) (tag : String) (d : Descriptor M) : Prop where
  aim : op.aim = .register tag d
  accepted : ∃ previous, (r.register tag d).1 = .ok previous

/-- An operation removes a tag, and is let. -/
structure Removes (r : Registry M) (op : Operation M) (tag : String) : Prop where
  aim : op.aim = .remove tag
  accepted : ∃ removed, (r.unregister tag).1 = .ok removed

/-- A lookup finds a type of the catalog, as its tag is not registered. -/
structure Finds (r : Registry M) (op : Operation M) (tag : String) (found : Descriptor M) : Prop where
  aim : op.aim = .find tag
  unpoisoned : r.types.poisoned = false
  unlisted : r.registered? tag = none
  hit : r.found? tag = some found

/-- A lookup takes a type over from the catalog, as the name of the type is free. -/
structure Takes (r : Registry M) (op : Operation M) (tag : String) (found : Descriptor M) : Prop
    extends Finds r op tag found where
  free : r.registered? found.name = none

/-- An operation puts a type under a tag, by hand or from the catalog. -/
inductive Puts (r : Registry M) (op : Operation M) (tag : String) (d : Descriptor M) : Prop
  | byHand (registers : r.Registers op tag d)
  | fromCatalog {spelling : String} (takes : r.Takes op spelling d) (named : d.name = tag)

/-- An operation ends what stands under a tag: it removes the tag or registers another type there. -/
inductive Ends (r : Registry M) (op : Operation M) (tag : String) : Prop
  | removed (removes : r.Removes op tag)
  | replaced {d : Descriptor M} (registers : r.Registers op tag d)

/-- What is let in has a tag that is not empty and finds the lock open, and in a strict registry the tag is
free. -/
theorem Registers.admitted (h : r.Registers op tag d) :
    tag ≠ "" ∧ r.types.poisoned = false ∧ (r.policy = .reject → r.registered? tag = none) := by
  obtain ⟨previous, haccepted⟩ := h.accepted
  have hr := registration r tag d
  generalize r.register tag d = answer at hr haccepted
  cases hr with
  | untagged | shut | refused => cases haccepted
  | stored tagged unpoisoned admitted => exact ⟨tagged, unpoisoned, admitted⟩

theorem removes_iff : r.Removes op tag ↔ op.aim = .remove tag ∧ r.types.poisoned = false := by
  constructor
  · intro h
    obtain ⟨removed, haccepted⟩ := h.accepted
    cases hp : r.types.poisoned with
    | true =>
      obtain ⟨reason, hremove⟩ := unregister_of_poisoned hp tag
      rw [hremove] at haccepted
      cases haccepted
    | false => exact ⟨h.aim, rfl⟩
  · intro h
    obtain ⟨haim, hopen⟩ := h
    exact ⟨haim, _, congrArg Prod.fst (unregister_of_open hopen tag)⟩

theorem Puts.takes {key : String} (h : r.Puts op tag d) (haim : op.aim = .find key) :
    r.Takes op key d ∧ d.name = tag := by
  cases h with
  | byHand hput => exact nomatch hput.aim.symm.trans haim
  | fromCatalog htake hname =>
    cases htake.aim.symm.trans haim
    exact ⟨htake, hname⟩

theorem not_puts_of_remove {key : String} (haim : op.aim = .remove key) : ¬ r.Puts op tag d := by
  intro hputs
  cases hputs with
  | byHand hput => exact nomatch hput.aim.symm.trans haim
  | fromCatalog htake => exact nomatch htake.aim.symm.trans haim

theorem not_puts_of_nothing (haim : op.aim = .nothing) : ¬ r.Puts op tag d := by
  intro hputs
  cases hputs with
  | byHand hput => exact nomatch hput.aim.symm.trans haim
  | fromCatalog htake => exact nomatch htake.aim.symm.trans haim

theorem Ends.removes {key : String} (h : r.Ends op tag) (haim : op.aim = .remove key) :
    r.Removes op key ∧ key = tag := by
  cases h with
  | removed hremove =>
    cases hremove.aim.symm.trans haim
    exact ⟨hremove, rfl⟩
  | replaced hput => exact nomatch hput.aim.symm.trans haim

theorem not_ends_of_find {key : String} (haim : op.aim = .find key) : ¬ r.Ends op tag := by
  intro hends
  cases hends with
  | removed hremove => exact nomatch hremove.aim.symm.trans haim
  | replaced hput => exact nomatch hput.aim.symm.trans haim

theorem not_ends_of_nothing (haim : op.aim = .nothing) : ¬ r.Ends op tag := by
  intro hends
  cases hends with
  | removed hremove => exact nomatch hremove.aim.symm.trans haim
  | replaced hput => exact nomatch hput.aim.symm.trans haim

theorem Registers.puts_iff {key : String} {e : Descriptor M} (h : r.Registers op key e) :
    r.Puts op tag d ↔ tag = key ∧ d = e := by
  constructor
  · intro hputs
    cases hputs with
    | byHand hother =>
      cases hother.aim.symm.trans h.aim
      exact ⟨rfl, rfl⟩
    | fromCatalog htake => exact nomatch htake.aim.symm.trans h.aim
  · intro he
    obtain ⟨rfl, rfl⟩ := he
    exact .byHand h

theorem Registers.ends_iff {key : String} {e : Descriptor M} (h : r.Registers op key e) :
    r.Ends op tag ↔ tag = key := by
  constructor
  · intro hends
    cases hends with
    | removed hremove => exact nomatch hremove.aim.symm.trans h.aim
    | replaced hother =>
      cases hother.aim.symm.trans h.aim
      rfl
  · intro he
    subst he
    exact .replaced h

theorem Removes.ends_iff {key : String} (h : r.Removes op key) : r.Ends op tag ↔ tag = key := by
  constructor
  · intro hends
    exact (hends.removes h.aim).2.symm
  · intro he
    subst he
    exact .removed h

theorem Takes.puts_iff {spelling : String} {found : Descriptor M} (h : r.Takes op spelling found) :
    r.Puts op tag d ↔ tag = found.name ∧ d = found := by
  constructor
  · intro hputs
    obtain ⟨hother, hname⟩ := hputs.takes h.aim
    cases hother.hit.symm.trans h.hit
    exact ⟨hname.symm, rfl⟩
  · intro he
    obtain ⟨rfl, rfl⟩ := he
    exact .fromCatalog h rfl

/-- What one operation leaves of a registry. -/
inductive Changed (r : Registry M) (op : Operation M) : Registry M → Prop
  | registered {tag : String} {d : Descriptor M} (registers : r.Registers op tag d) :
      Changed r op (r.store (r.types.value.insert tag d))
  | removed {tag : String} (removes : r.Removes op tag) :
      Changed r op (r.store (r.types.value.erase tag))
  | taken {tag : String} {found : Descriptor M} (takes : r.Takes op tag found) :
      Changed r op (r.store (r.types.value.insert found.name found))
  /-- The registered types stay, whatever becomes of the flag and the lock. -/
  | kept {auto : Bool} (unput : ∀ tag d, ¬ r.Puts op tag d) (unended : ∀ tag, ¬ r.Ends op tag) :
      Changed r op
        { r with types := ⟨r.types.value, r.types.poisoned || op.poisons⟩, autoRegister := auto }

theorem Changed.same (haim : op.aim ≠ .nothing) (unput : ∀ tag d, ¬ r.Puts op tag d)
    (unended : ∀ tag, ¬ r.Ends op tag) : Changed r op r := by
  have hkept := @Changed.kept M r op r.autoRegister unput unended
  rwa [poisons_of_aim haim, Bool.or_false] at hkept

theorem changed_of_register (haim : op.aim = .register tag d) : Changed r op (r.after op) := by
  have hsome : op.aim ≠ .nothing := fun h => nomatch haim.symm.trans h
  rw [after_of_register haim]
  by_cases hput : r.Registers op tag d
  · obtain ⟨previous, haccepted⟩ := hput.accepted
    have hr := registration r tag d
    generalize r.register tag d = answer at hr haccepted ⊢
    cases hr with
    | untagged | shut | refused => cases haccepted
    | stored => exact .registered hput
  · have hunregistered (key : String) (e : Descriptor M) : ¬ r.Registers op key e := by
      intro hother
      cases haim.symm.trans hother.aim
      exact hput hother
    have hkept : (r.register tag d).2 = r := by
      have hr := registration r tag d
      generalize hanswer : r.register tag d = answer at hr ⊢
      cases hr with
      | untagged | shut | refused => rfl
      | stored => exact absurd ⟨haim, _, congrArg Prod.fst hanswer⟩ hput
    rw [hkept]
    refine .same hsome (fun key e hputs => ?_) fun key hends => ?_
    · cases hputs with
      | byHand hother => exact hunregistered key e hother
      | fromCatalog htake => exact nomatch htake.aim.symm.trans haim
    · cases hends with
      | removed hremove => exact nomatch hremove.aim.symm.trans haim
      | replaced hother => exact hunregistered key _ hother

theorem changed_of_remove (haim : op.aim = .remove tag) : Changed r op (r.after op) := by
  have hsome : op.aim ≠ .nothing := fun h => nomatch haim.symm.trans h
  rw [after_of_remove haim]
  cases hp : r.types.poisoned with
  | true =>
    obtain ⟨reason, hremove⟩ := unregister_of_poisoned hp tag
    rw [hremove]
    refine .same hsome (fun _ _ => not_puts_of_remove haim) fun key hends => ?_
    exact nomatch hp.symm.trans (removes_iff.mp (hends.removes haim).1).2
  | false =>
    rw [unregister_of_open hp]
    exact .removed (removes_iff.mpr ⟨haim, hp⟩)

theorem changed_of_find (haim : op.aim = .find tag) : Changed r op (r.after op) := by
  have hsome : op.aim ≠ .nothing := fun h => nomatch haim.symm.trans h
  have hsame (huntaken : ∀ found, ¬ r.Takes op tag found) : Changed r op r := by
    refine .same hsome (fun key e hputs => ?_) fun _ => not_ends_of_find haim
    exact huntaken e (hputs.takes haim).1
  rw [after_of_find haim]
  cases hp : r.types.poisoned with
  | true =>
    obtain ⟨reason, hresolve⟩ := resolve_of_poisoned hp tag
    rw [hresolve]
    exact hsame fun _ htake => nomatch hp.symm.trans htake.unpoisoned
  | false =>
    have hr := resolved hp tag
    generalize r.resolve tag = answer at hr ⊢
    cases hr with
    | registered listed => exact hsame fun _ htake => nomatch listed.symm.trans htake.unlisted
    | unknown _ missing => exact hsame fun _ htake => nomatch missing.symm.trans htake.hit
    | renamed _ hit listed =>
      apply hsame
      intro found htake
      cases hit.symm.trans htake.hit
      exact nomatch listed.symm.trans htake.free
    | taken unlisted hit free => exact .taken ⟨⟨haim, hp, unlisted, hit⟩, free⟩

theorem changed (r : Registry M) (op : Operation M) : Changed r op (r.after op) := by
  cases haim : op.aim with
  | register tag d => exact changed_of_register haim
  | remove tag => exact changed_of_remove haim
  | find tag => exact changed_of_find haim
  | nothing =>
    obtain ⟨auto, hafter⟩ := after_of_nothing (r := r) haim
    rw [hafter]
    exact .kept (fun _ _ => not_puts_of_nothing haim) fun _ => not_ends_of_nothing haim

theorem policy_after (r : Registry M) (op : Operation M) : (r.after op).policy = r.policy := by
  have hc := changed r op
  generalize r.after op = next at hc ⊢
  cases hc <;> rfl

theorem catalog_after (r : Registry M) (op : Operation M) : (r.after op).catalog = r.catalog := by
  have hc := changed r op
  generalize r.after op = next at hc ⊢
  cases hc <;> rfl

theorem poisoned_after (r : Registry M) (op : Operation M) :
    (r.after op).types.poisoned = (r.types.poisoned || op.poisons) := by
  have hsafe (h : op.aim ≠ .nothing) :
      r.types.poisoned = (r.types.poisoned || op.poisons) := by
    rw [poisons_of_aim h, Bool.or_false]
  have hc := changed r op
  generalize r.after op = next at hc ⊢
  cases hc with
  | registered hput => exact hsafe fun h => nomatch hput.aim.symm.trans h
  | removed hremove => exact hsafe fun h => nomatch hremove.aim.symm.trans h
  | taken htake => exact hsafe fun h => nomatch htake.aim.symm.trans h
  | kept => rfl

theorem policy_run (r : Registry M) (ops : List (Operation M)) : (r.run ops).policy = r.policy := by
  induction ops generalizing r with
  | nil => rfl
  | cons op ops ih => exact (ih (r.after op)).trans (policy_after r op)

theorem catalog_run (r : Registry M) (ops : List (Operation M)) :
    (r.run ops).catalog = r.catalog := by
  induction ops generalizing r with
  | nil => rfl
  | cons op ops ih => exact (ih (r.after op)).trans (catalog_after r op)

theorem poisoned_run (r : Registry M) (ops : List (Operation M)) :
    (r.run ops).types.poisoned = (r.types.poisoned || ops.any (·.poisons)) := by
  induction ops generalizing r with
  | nil => exact (Bool.or_false _).symm
  | cons op ops ih =>
    calc ((r.after op).run ops).types.poisoned
      _ = ((r.types.poisoned || op.poisons) || ops.any (·.poisons)) := by rw [ih, poisoned_after]
      _ = (r.types.poisoned || (op :: ops).any (·.poisons)) := Bool.or_assoc _ _ _

/-- A type stands under a tag after an operation if the operation put it there, or if it stood there before
and the operation did not end that. -/
theorem registered?_after_iff (r : Registry M) (op : Operation M) (tag : String) (d : Descriptor M) :
    (r.after op).registered? tag = some d ↔
      r.Puts op tag d ∨ r.registered? tag = some d ∧ ¬ r.Ends op tag := by
  have hc := changed r op
  generalize r.after op = next at hc ⊢
  cases hc with
  | @registered key e hput =>
    rw [registered?_store, hput.puts_iff, hput.ends_iff]
    by_cases hkey : tag = key
    · simp [hkey, eq_comm]
    · simp [hkey]
  | @removed key hremove =>
    rw [registered?_erase, hremove.ends_iff, or_iff_right (not_puts_of_remove hremove.aim)]
    by_cases hkey : tag = key
    · simp [hkey]
    · simp [hkey]
  | @taken _ found htake =>
    rw [registered?_store, htake.puts_iff, and_iff_left (not_ends_of_find htake.aim)]
    by_cases hkey : tag = found.name
    · simp [hkey, htake.free, eq_comm]
    · simp [hkey]
  | kept hunput hunended =>
    rw [or_iff_right (hunput tag d), and_iff_left (hunended tag)]
    rfl

/-- No operation of a run ends what stands under a tag. -/
def Stands (r : Registry M) (ops : List (Operation M)) (tag : String) : Prop :=
  ∀ e ∈ r.met ops, ¬ e.1.Ends e.2 tag

/-- The last that a run did about a tag was to register a type there. -/
def ByHand (r : Registry M) (ops : List (Operation M)) (tag : String) (d : Descriptor M) : Prop :=
  ∃ before op later, ops = before ++ op :: later ∧ (r.run before).Registers op tag d ∧
    ((r.run before).after op).Stands later tag

theorem stands_cons {ops : List (Operation M)} :
    r.Stands (op :: ops) tag ↔ ¬ r.Ends op tag ∧ (r.after op).Stands ops tag :=
  List.forall_mem_cons

/-- A type stands under a tag after a run if it did so before and nothing has ended that, or if an operation
of the run put it there and nothing has ended that since. -/
theorem registered?_run_iff (r : Registry M) (ops : List (Operation M)) (tag : String)
    (d : Descriptor M) :
    (r.run ops).registered? tag = some d ↔
      r.registered? tag = some d ∧ r.Stands ops tag ∨
      ∃ before op later, ops = before ++ op :: later ∧ (r.run before).Puts op tag d ∧
        ((r.run before).after op).Stands later tag := by
  induction ops generalizing r with
  | nil =>
    constructor
    · intro h
      exact .inl ⟨h, fun _ hmem => nomatch hmem⟩
    · rintro (⟨h, -⟩ | ⟨before, op, later, hsplit, -⟩)
      · exact h
      · cases before <;> cases hsplit
  | cons op ops ih =>
    rw [show r.run (op :: ops) = (r.after op).run ops from rfl, ih, registered?_after_iff, stands_cons]
    constructor
    · rintro (⟨hput | ⟨hbefore, hkept⟩, hstands⟩ | ⟨before, op', later, rfl, hput, hstands⟩)
      · exact .inr ⟨[], op, ops, rfl, hput, hstands⟩
      · exact .inl ⟨hbefore, hkept, hstands⟩
      · exact .inr ⟨op :: before, op', later, rfl, hput, hstands⟩
    · rintro (⟨hbefore, hkept, hstands⟩ | ⟨before, op', later, hsplit, hput, hstands⟩)
      · exact .inl ⟨.inr ⟨hbefore, hkept⟩, hstands⟩
      · cases before with
        | nil =>
          cases hsplit
          exact .inl ⟨.inl hput, hstands⟩
        | cons first before =>
          cases hsplit
          exact .inr ⟨before, op', later, rfl, hput, hstands⟩

end TypedBus.Registry
