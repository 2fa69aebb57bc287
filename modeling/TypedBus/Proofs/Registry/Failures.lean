import TypedBus.Proofs.Registry.Runs

namespace TypedBus.Registry

variable {M : Type}

/-- A request that would register a type without a tag. -/
def Request.isUntagged : Request M → Bool
  | .register tag _ => tag == ""
  | .registerType d => d.name == ""
  | _ => false

/-- The error of a request that needs the types when nobody gets at them. -/
def Request.lockError? : Request M → Option TypedError
  | .register _ _ | .registerType _ | .unregister _ => some unwritable
  | .resolve _ | .contains _ | .size | .isEmpty | .tags => some unreadable
  | .setAutoRegister _ | .policy | .catalog | .failInside => none

/-- Why a request fails. A tag that is missing is noticed before the lock. -/
inductive Refusal (r : Registry M) (request : Request M) : TypedError → Prop
  | untagged (untagged : request.isUntagged = true) : Refusal r request .emptyTypeTag
  | shut {e : TypedError} (tagged : request.isUntagged = false) (poisoned : r.types.poisoned = true)
      (needs : request.lockError? = some e) : Refusal r request e
  | duplicate {tag : String} {d previous : Descriptor M} (tagged : request.isUntagged = false)
      (intact : r.types.poisoned = false) (aim : (Operation.ask request).aim = .register tag d)
      (listed : r.registered? tag = some previous) (strict : r.policy = .reject) :
      Refusal r request (.duplicateRegistration tag)
  | unknown {tag : String} (intact : r.types.poisoned = false)
      (aim : (Operation.ask request).aim = .find tag) (unlisted : r.registered? tag = none)
      (missing : r.found? tag = none) : Refusal r request (.unknownType tag)

/-- A step of a registration that has the lock. -/
inductive LockedStep
  | lookUp
  | log
  | store

def LockedStep.apply (tag : String) (d : Descriptor M) (types : TextMap (Descriptor M)) :
    LockedStep → TextMap (Descriptor M)
  | .lookUp | .log => types
  | .store => types.insert tag d

/-- The steps of a registration that has the lock. A duplicate is refused once it has been looked up, and
what is stored is written to the log before. -/
def lockedSteps (r : Registry M) (tag : String) : List LockedStep :=
  match r.registered? tag, r.policy with
  | some _, .reject => [.lookUp]
  | _, _ => [.lookUp, .log, .store]

/-- A registration whose task fails in the step after the first `done` that it takes with the lock. It has
no answer then, and what it has done to the types is left behind the poisoned lock. -/
def registerCutShort (r : Registry M) (tag : String) (d : Descriptor M) (done : Nat) :
    Option (Except TypedError (Option (Descriptor M))) × Registry M :=
  if tag = "" then (some (.error .emptyTypeTag), r)
  else match r.write with
    | .error e => (some (.error e), r)
    | .ok types =>
      if done < (r.lockedSteps tag).length then
        let left := ((r.lockedSteps tag).take done).foldl (LockedStep.apply tag d) types
        (none, { r with types := (r.types.store left).poison })
      else (some (r.register tag d).1, (r.register tag d).2)

variable {r : Registry M} {request : Request M} {tag : String} {d : Descriptor M} {e : TypedError}
  {done : Nat}

theorem map_eq_error_iff {α β : Type} {result : Except TypedError α} {f : α → β} :
    result.map f = .error e ↔ result = .error e := by
  cases result <;> simp [Except.map]

theorem register_of_poisoned (htagged : tag ≠ "") (h : r.types.poisoned = true) (d : Descriptor M) :
    r.register tag d = (.error unwritable, r) := by
  rw [register, if_neg htagged, write_eq_unwritable h]

theorem register_of_untagged (h : tag = "") (r : Registry M) (d : Descriptor M) :
    r.register tag d = (.error .emptyTypeTag, r) := by
  rw [register, if_pos h]

theorem register_of_error (h : (r.register tag d).1 = .error e) : (r.register tag d).2 = r := by
  have hr := registration r tag d
  generalize r.register tag d = answer at hr h ⊢
  cases hr with
  | untagged | shut | refused => rfl
  | stored => cases h

theorem register_eq_error_iff (htagged : tag ≠ "") (hintact : r.types.poisoned = false) :
    (r.register tag d).1 = .error e ↔
      e = .duplicateRegistration tag ∧ r.policy = .reject ∧ ∃ previous, r.registered? tag = some previous := by
  have hr := registration r tag d
  generalize r.register tag d = answer at hr ⊢
  cases hr with
  | untagged hempty => exact absurd hempty htagged
  | shut hpoisoned => exact nomatch hpoisoned.symm.trans hintact
  | refused hlisted hstrict => simp [hlisted, hstrict, eq_comm]
  | stored _ _ hadmitted =>
    constructor
    · intro h
      cases h
    · rintro ⟨-, hstrict, previous, hlisted⟩
      exact nomatch hlisted.symm.trans (hadmitted hstrict)

theorem resolve_of_error (h : (r.resolve tag).1 = .error e) : (r.resolve tag).2 = r := by
  cases hp : r.types.poisoned with
  | true => rw [resolve_eq_unreadable hp]
  | false =>
    have hr := resolved hp tag
    generalize r.resolve tag = answer at hr h ⊢
    cases hr with
    | registered | unknown | renamed => rfl
    | taken => cases h

theorem resolve_eq_error_iff (hintact : r.types.poisoned = false) :
    (r.resolve tag).1 = .error e ↔
      e = .unknownType tag ∧ r.registered? tag = none ∧ r.found? tag = none := by
  have hr := resolved hintact tag
  generalize r.resolve tag = answer at hr ⊢
  cases hr with
  | registered listed => simp [listed]
  | unknown unlisted missing => simp [unlisted, missing, eq_comm]
  | renamed unlisted hit listed => simp [hit]
  | taken unlisted hit free => simp [hit]

theorem unregister_of_error (h : (r.unregister tag).1 = .error e) : (r.unregister tag).2 = r := by
  cases hp : r.types.poisoned with
  | true => rw [unregister, write_eq_unwritable hp]
  | false =>
    rw [unregister_of_open hp] at h
    cases h

/-- A request that fails leaves the registry as it was. -/
theorem perform_of_error (h : (r.perform request).1 = .error e) : (r.perform request).2 = r := by
  cases request with
  | register tag d => exact register_of_error (map_eq_error_iff.mp h)
  | registerType d => exact register_of_error (map_eq_error_iff.mp h)
  | unregister tag => exact unregister_of_error (map_eq_error_iff.mp h)
  | resolve tag => exact resolve_of_error (map_eq_error_iff.mp h)
  | contains | size | isEmpty | tags => rfl
  | setAutoRegister | policy | catalog | failInside => cases h

/-- Behind a poisoned lock a request that needs the types is answered with the error of the lock, unless it
is refused before. -/
theorem perform_of_poisoned (h : r.types.poisoned = true) (hneeds : request.lockError? = some e) :
    r.perform request = (.error (if request.isUntagged then .emptyTypeTag else e), r) := by
  have hregister (tag : String) (d : Descriptor M) : r.register tag d =
      (.error (if tag == "" then .emptyTypeTag else unwritable), r) := by
    by_cases htag : tag = ""
    · rw [register_of_untagged htag, if_pos (beq_iff_eq.mpr htag)]
    · rw [register_of_poisoned htag h, if_neg fun hempty => htag (beq_iff_eq.mp hempty)]
  cases request with
  | register tag d =>
    cases hneeds
    simp only [perform, hregister]
    rfl
  | registerType d =>
    cases hneeds
    simp only [perform, registerType, hregister]
    rfl
  | unregister tag =>
    cases hneeds
    simp only [perform, unregister, write_eq_unwritable h]
    rfl
  | resolve tag =>
    cases hneeds
    simp only [perform, resolve_eq_unreadable h]
    rfl
  | contains | size | isEmpty | tags =>
    cases hneeds
    simp only [perform, contains, size, isEmpty, tags, read_of_poisoned h]
    rfl
  | setAutoRegister | policy | catalog | failInside => cases hneeds

theorem perform_ne_error_of_lockError? (h : request.lockError? = none) :
    (r.perform request).1 ≠ .error e := by
  intro herror
  cases request with
  | setAutoRegister | policy | catalog | failInside => cases herror
  | _ => cases h

theorem perform_register_eq_error_iff (haim : (Operation.ask request).aim = .register tag d) :
    (r.perform request).1 = .error e ↔ (r.register tag d).1 = .error e := by
  cases request <;> cases haim <;> exact map_eq_error_iff

theorem isUntagged_of_register (haim : (Operation.ask request).aim = .register tag d) :
    request.isUntagged = (tag == "") := by
  cases request <;> cases haim <;> rfl

theorem aim_of_isUntagged (h : request.isUntagged = true) :
    ∃ d, (Operation.ask request).aim = .register "" d := by
  cases request with
  | register tag d =>
    obtain rfl := beq_iff_eq.mp h
    exact ⟨d, rfl⟩
  | registerType d =>
    have hname : d.name = "" := beq_iff_eq.mp h
    exact ⟨d, by rw [Operation.aim, hname]⟩
  | _ => cases h

/-- What a request fails for, when nothing is wrong with its tag and with the lock. -/
theorem refusal_of_error_of_open (hintact : r.types.poisoned = false) (htagged : request.isUntagged = false)
    (h : (r.perform request).1 = .error e) : Refusal r request e := by
  have hregister {tag : String} {d : Descriptor M} (haim : (Operation.ask request).aim = .register tag d) :
      Refusal r request e := by
    have htag : tag ≠ "" := by
      rw [isUntagged_of_register haim] at htagged
      exact beq_eq_false_iff_ne.mp htagged
    obtain ⟨rfl, hstrict, previous, hlisted⟩ :=
      (register_eq_error_iff htag hintact).mp ((perform_register_eq_error_iff haim).mp h)
    exact .duplicate htagged hintact haim hlisted hstrict
  cases request with
  | register tag d => exact hregister rfl
  | registerType d => exact hregister rfl
  | resolve tag =>
    obtain ⟨rfl, hunlisted, hmissing⟩ := (resolve_eq_error_iff hintact).mp (map_eq_error_iff.mp h)
    exact .unknown hintact rfl hunlisted hmissing
  | unregister tag =>
    have herror : (r.unregister tag).1 = .error e := map_eq_error_iff.mp h
    rw [unregister_of_open hintact] at herror
    cases herror
  | contains | size | isEmpty | tags =>
    have herror := map_eq_error_iff.mp h
    simp only [contains, size, isEmpty, tags, read_of_open hintact] at herror
    cases herror
  | setAutoRegister | policy | catalog | failInside => cases h

theorem error_of_refusal (h : Refusal r request e) : (r.perform request).1 = .error e := by
  cases h with
  | untagged hu =>
    obtain ⟨d, haim⟩ := aim_of_isUntagged hu
    rw [perform_register_eq_error_iff haim, register_of_untagged rfl]
  | shut htagged hpoisoned hneeds =>
    rw [perform_of_poisoned hpoisoned hneeds, htagged]
    rfl
  | duplicate htagged hintact haim hlisted hstrict =>
    rw [isUntagged_of_register haim] at htagged
    rw [perform_register_eq_error_iff haim,
      register_eq_error_iff (beq_eq_false_iff_ne.mp htagged) hintact]
    exact ⟨rfl, hstrict, _, hlisted⟩
  | unknown hintact haim hunlisted hmissing =>
    cases request with
    | resolve tag =>
      cases haim
      exact map_eq_error_iff.mpr ((resolve_eq_error_iff hintact).mpr ⟨rfl, hunlisted, hmissing⟩)
    | _ => cases haim

theorem refusal_of_error (h : (r.perform request).1 = .error e) : Refusal r request e := by
  cases hu : request.isUntagged with
  | true =>
    obtain ⟨d, haim⟩ := aim_of_isUntagged hu
    have herror := (perform_register_eq_error_iff haim).mp h
    rw [register_of_untagged rfl] at herror
    cases herror
    exact .untagged hu
  | false =>
    cases hp : r.types.poisoned with
    | false => exact refusal_of_error_of_open hp hu h
    | true =>
      cases hl : request.lockError? with
      | some reason =>
        rw [perform_of_poisoned hp hl, hu] at h
        cases h
        exact .shut hu hp hl
      | none => exact absurd h (perform_ne_error_of_lockError? hl)

/-- A request fails for one of these reasons, and with the error of that reason. -/
theorem perform_eq_error_iff : (r.perform request).1 = .error e ↔ Refusal r request e :=
  ⟨refusal_of_error, error_of_refusal⟩

theorem store_not_mem_take (hdone : done < (r.lockedSteps tag).length) :
    .store ∉ (r.lockedSteps tag).take done := by
  unfold lockedSteps at hdone ⊢
  split at hdone
  · obtain rfl : done = 0 := by simpa using hdone
    simp
  · have hbefore : done = 0 ∨ done = 1 ∨ done = 2 := by
      simp only [List.length_cons, List.length_nil] at hdone
      omega
    rcases hbefore with rfl | rfl | rfl <;> simp

theorem foldl_apply_of_not_mem {steps : List LockedStep} (h : .store ∉ steps) (d : Descriptor M)
    (types : TextMap (Descriptor M)) : steps.foldl (LockedStep.apply tag d) types = types := by
  induction steps with
  | nil => rfl
  | cons step steps ih =>
    obtain ⟨hstep, hsteps⟩ := not_or.mp (mt List.mem_cons.mpr h)
    cases step with
    | lookUp | log => exact ih hsteps
    | store => exact absurd rfl hstep

/-- With all of its steps a registration leaves the types that it answers for. -/
theorem foldl_lockedSteps (htagged : tag ≠ "") (hintact : r.types.poisoned = false)
    (d : Descriptor M) :
    (r.lockedSteps tag).foldl (LockedStep.apply tag d) r.types.value =
      (r.register tag d).2.types.value := by
  have hr := registration r tag d
  generalize r.register tag d = answer at hr ⊢
  cases hr with
  | untagged hempty => exact absurd hempty htagged
  | shut hpoisoned => exact nomatch hpoisoned.symm.trans hintact
  | refused hlisted hstrict =>
    rw [lockedSteps, hlisted, hstrict]
    rfl
  | stored _ _ hadmitted =>
    unfold lockedSteps
    split
    · rename_i hlisted hstrict
      exact nomatch hlisted.symm.trans (hadmitted hstrict)
    · rfl

theorem registerCutShort_of_failed (h : (r.registerCutShort tag d done).1 = none) :
    (r.registerCutShort tag d done).2 = { r with types := r.types.poison } := by
  unfold registerCutShort at h ⊢
  split at h
  · cases h
  · rename_i htagged
    rw [if_neg htagged]
    cases hp : r.types.poisoned with
    | true =>
      simp only [write_eq_unwritable hp] at h
      cases h
    | false =>
      simp only [write_of_open hp] at h ⊢
      split at h
      · rename_i hdone
        rw [if_pos hdone, foldl_apply_of_not_mem (store_not_mem_take hdone)]
        rfl
      · cases h

/-- Nobody fails inside who does not get in. -/
theorem registerCutShort_of_poisoned (h : r.types.poisoned = true) (tag : String) (d : Descriptor M)
    (done : Nat) : (r.registerCutShort tag d done).1 ≠ none := by
  unfold registerCutShort
  split
  · simp
  · simp [write_eq_unwritable h]

theorem types_after_of_poisoned (h : r.types.poisoned = true) (op : Operation M) :
    (r.after op).types = r.types := by
  have hc := changed r op
  generalize r.after op = next at hc ⊢
  cases hc with
  | registered hput => exact nomatch h.symm.trans hput.admitted.2.1
  | removed hremove => exact nomatch h.symm.trans (removes_iff.mp hremove).2
  | taken htake => exact nomatch h.symm.trans htake.unpoisoned
  | kept =>
    rw [h, Bool.true_or, ← h]

theorem types_run_of_poisoned (h : r.types.poisoned = true) (ops : List (Operation M)) :
    (r.run ops).types = r.types := by
  induction ops generalizing r with
  | nil => rfl
  | cons op ops ih =>
    have hafter := types_after_of_poisoned h op
    have hrun := ih (r := r.after op) (by rw [hafter, h])
    exact hrun.trans hafter

/-- A request that fails, for whatever reason, leaves the registry as it was. A registration that fails
while it has the lock leaves the types as they were and the lock poisoned; and from then on, whatever
comes, the types stay, every request that needs them is answered with the error of the lock, unless it has
no tag to register, and no registration gets as far as to fail inside. -/
theorem failed_requests_change_nothing (r : Registry M) :
    (∀ request e, (r.perform request).1 = .error e → Refusal r request e ∧ (r.perform request).2 = r) ∧
    ∀ tag d done, (r.registerCutShort tag d done).1 = none →
      (r.registerCutShort tag d done).2 = { r with types := r.types.poison } ∧
      ∀ ops : List (Operation M),
        let later := (r.registerCutShort tag d done).2.run ops
        later.types = r.types.poison ∧ later.policy = r.policy ∧ later.catalog = r.catalog ∧
        (∀ request e, request.lockError? = some e →
          later.perform request = (.error (if request.isUntagged then .emptyTypeTag else e), later)) ∧
        ∀ key type steps, (later.registerCutShort key type steps).1 ≠ none := by
  refine ⟨fun request e h => ⟨perform_eq_error_iff.mp h, perform_of_error h⟩, ?_⟩
  intro tag d done hfailed
  have hleft := registerCutShort_of_failed hfailed
  refine ⟨hleft, fun ops => ?_⟩
  rw [hleft]
  have hpoisoned : { r with types := r.types.poison }.types.poisoned = true := rfl
  have htypes := types_run_of_poisoned hpoisoned ops
  have hlater : (run { r with types := r.types.poison } ops).types.poisoned = true := by
    rw [htypes]
    rfl
  refine ⟨htypes, policy_run _ ops, catalog_run _ ops, ?_, ?_⟩
  · exact fun _ _ hneeds => perform_of_poisoned hlater hneeds
  · exact registerCutShort_of_poisoned hlater

def strictOne : Registry Inbound :=
  (Registry.register (.withPolicy .reject) "A" (.constant "A" .bincode 1)).2

/-- A duplicate at that registry, and a registration that fails there before it stores the type, after
which the flag is set and a message comes in. -/
theorem failed_requests_change_nothing_sample :
    let again : Request Inbound := .register "A" (.constant "B" .bincode 2)
    let broken := strictOne.registerCutShort "B" (.constant "B" .bincode 2) 2
    let later := broken.2.run [.ask (.setAutoRegister true), .dispatch ((Message.withData []).setTypeTag "A")]
    (strictOne.perform again).1 = .error (.duplicateRegistration "A") ∧
      (strictOne.perform again).2 = strictOne ∧ broken.1.isNone = true ∧
      later.types.value.keys = ["A"] ∧ later.autoRegister = true ∧
      later.perform .tags = (.error unreadable, later) ∧
      later.perform (.register "" (.constant "B" .bincode 2)) = (.error .emptyTypeTag, later) ∧
      later.perform again = (.error unwritable, later) := by
  intro again broken later
  have hduplicate : (strictOne.perform again).1 = .error (.duplicateRegistration "A") := rfl
  obtain ⟨hrefused, hbroken⟩ := failed_requests_change_nothing strictOne
  obtain ⟨-, hlater⟩ := hbroken "B" (.constant "B" .bincode 2) 2 rfl
  obtain ⟨htypes, -, -, hanswers, -⟩ :=
    hlater [.ask (.setAutoRegister true), .dispatch ((Message.withData []).setTypeTag "A")]
  have hkeys : later.types.value.keys = ["A"] := congrArg (·.value.keys) htypes
  exact ⟨hduplicate, (hrefused again _ hduplicate).2, rfl, hkeys, rfl, hanswers .tags _ rfl,
    hanswers (.register "" _) _ rfl, hanswers again _ rfl⟩

end TypedBus.Registry
