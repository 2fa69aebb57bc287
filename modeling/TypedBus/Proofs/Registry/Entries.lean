import TypedBus.Proofs.Registry.Runs

namespace TypedBus

variable {M : Type}

namespace Registry

variable {r : Registry M} {op : Operation M} {tag : String} {d : Descriptor M}

/-- The catalog of a registry has a type under a tag. -/
def Catalogued (r : Registry M) (tag : String) (d : Descriptor M) : Prop :=
  ∃ catalog, r.catalog = some catalog ∧ catalog.types.get? tag = some d

theorem Stocked.catalogued (h : r.Stocked) (hd : r.found? tag = some d) : r.Catalogued d.name d := by
  obtain ⟨-, catalog, hcatalog, hlookup⟩ := found?_eq_some_iff.mp hd
  obtain ⟨descriptors, rfl⟩ := h catalog hcatalog
  exact ⟨_, hcatalog, (Catalog.named_ofList descriptors).get?_name hlookup⟩

theorem catalogued_after_iff : (r.after op).Catalogued tag d ↔ r.Catalogued tag d := by
  rw [Catalogued, catalog_after, Catalogued]

theorem catalogued_run_iff {ops : List (Operation M)} :
    (r.run ops).Catalogued tag d ↔ r.Catalogued tag d := by
  rw [Catalogued, catalog_run, Catalogued]

theorem Stocked.after (h : r.Stocked) (op : Operation M) : (r.after op).Stocked := by
  intro catalog hcatalog
  rw [catalog_after] at hcatalog
  exact h catalog hcatalog

theorem Stocked.run (h : r.Stocked) (ops : List (Operation M)) : (r.run ops).Stocked := by
  intro catalog hcatalog
  rw [catalog_run] at hcatalog
  exact h catalog hcatalog

theorem stocked_configured (config : RegistryConfig) (descriptors : Option (List (Descriptor M))) :
    (configured config (descriptors.map .ofList)).Stocked := by
  intro catalog hcatalog
  cases descriptors with
  | none => cases hcatalog
  | some descriptors =>
    cases hcatalog
    exact ⟨descriptors, rfl⟩

theorem registered?_configured (config : RegistryConfig) (catalog : Option (Catalog M)) (tag : String) :
    (configured config catalog).registered? tag = none := by
  cases catalog <;> rfl

/-- A lookup is without effect where no type may be taken from the catalog. -/
theorem after_of_find_of_found?_eq_none (haim : op.aim = .find tag) (hnone : r.found? tag = none) :
    r.after op = r := by
  rw [after_of_find haim]
  cases hp : r.types.poisoned with
  | true =>
    obtain ⟨reason, hresolve⟩ := resolve_of_poisoned hp tag
    rw [hresolve]
  | false =>
    have hr := resolved hp tag
    generalize r.resolve tag = answer at hr ⊢
    cases hr with
    | registered | unknown | renamed => rfl
    | taken _ hit => exact nomatch hnone.symm.trans hit

/-- The tags that a lookup adds. -/
def addedBy (r : Registry M) (op : Operation M) : List String :=
  match op.aim with
  | .find _ => (r.after op).types.value.keys.filter fun tag => !r.types.value.contains tag
  | _ => []

/-- The tags that the lookups of a run add, one after the other. -/
def added (r : Registry M) (ops : List (Operation M)) : List String :=
  (r.met ops).flatMap fun e => e.1.addedBy e.2

theorem takes_of_mem_addedBy (h : tag ∈ r.addedBy op) :
    ∃ spelling found, r.Takes op spelling found ∧ found.name = tag := by
  rw [addedBy] at h
  split at h
  · rename_i key haim
    obtain ⟨hmem, hnew⟩ := List.mem_filter.mp h
    obtain ⟨d, hd⟩ := TextMap.mem_keys.mp hmem
    have hfree : r.types.value.get? tag = none := by simpa [TextMap.contains] using hnew
    rcases (registered?_after_iff r op tag d).mp hd with hputs | ⟨hlisted, -⟩
    · obtain ⟨htake, hname⟩ := hputs.takes haim
      exact ⟨_, d, htake, hname⟩
    · exact nomatch hfree.symm.trans hlisted
  · cases h

theorem nodup_addedBy (r : Registry M) (op : Operation M) : (r.addedBy op).Nodup := by
  rw [addedBy]
  split
  · exact (TextMap.nodup_keys _).filter _
  · exact List.nodup_nil

theorem not_mem_added {ops : List (Operation M)} (hlisted : r.registered? tag = some d)
    (hstays : ∀ e ∈ r.met ops, ∀ tag, ¬ e.1.Removes e.2 tag) : tag ∉ r.added ops := by
  induction ops generalizing r d with
  | nil => exact List.not_mem_nil
  | cons op ops ih =>
    obtain ⟨hop, hlater⟩ := List.forall_mem_cons.mp hstays
    intro hmem
    rcases List.mem_append.mp hmem with hmem | hmem
    · obtain ⟨_, found, htake, rfl⟩ := takes_of_mem_addedBy hmem
      exact nomatch htake.free.symm.trans hlisted
    · by_cases hends : r.Ends op tag
      · cases hends with
        | removed hremove => exact hop tag hremove
        | @replaced e hput =>
          exact ih ((registered?_after_iff r op tag e).mpr (.inl (.byHand hput))) hlater hmem
      · exact ih ((registered?_after_iff r op tag d).mpr (.inr ⟨hlisted, hends⟩)) hlater hmem

theorem nodup_added {ops : List (Operation M)}
    (hstays : ∀ e ∈ r.met ops, ∀ tag, ¬ e.1.Removes e.2 tag) : (r.added ops).Nodup := by
  induction ops generalizing r with
  | nil => exact List.nodup_nil
  | cons op ops ih =>
    obtain ⟨hop, hlater⟩ := List.forall_mem_cons.mp hstays
    refine List.nodup_append.mpr ⟨nodup_addedBy r op, ih hlater, ?_⟩
    intro tag hmem other hother he
    subst he
    obtain ⟨_, found, htake, rfl⟩ := takes_of_mem_addedBy hmem
    have hlisted := (registered?_after_iff r op _ found).mpr (.inl (.fromCatalog htake rfl))
    exact not_mem_added hlisted hlater hother

theorem Stocked.catalogued_of_mem_added {ops : List (Operation M)} (h : r.Stocked)
    (hmem : tag ∈ r.added ops) : ∃ d, r.Catalogued tag d := by
  induction ops generalizing r with
  | nil => cases hmem
  | cons op ops ih =>
    rcases List.mem_append.mp hmem with hmem | hmem
    · obtain ⟨_, found, htake, rfl⟩ := takes_of_mem_addedBy hmem
      exact ⟨found, h.catalogued htake.hit⟩
    · obtain ⟨d, hd⟩ := ih (h.after op) hmem
      exact ⟨d, catalogued_after_iff.mp hd⟩

/-- Between removals lookups add no more tags than the catalog has names. -/
theorem Stocked.length_added_le {ops : List (Operation M)} (h : r.Stocked)
    (hstays : ∀ e ∈ r.met ops, ∀ tag, ¬ e.1.Removes e.2 tag) :
    (r.added ops).length ≤ r.catalog.elim 0 Catalog.size := by
  have hsub : r.added ops ⊆ r.catalog.elim [] Catalog.names := by
    intro tag hmem
    obtain ⟨d, catalog, hcatalog, hd⟩ := h.catalogued_of_mem_added hmem
    rw [hcatalog]
    exact TextMap.mem_keys.mpr ⟨d, hd⟩
  have hsize : (r.catalog.elim [] Catalog.names).length = r.catalog.elim 0 Catalog.size := by
    cases r.catalog with
    | none => rfl
    | some catalog => exact List.length_map _
  exact hsize ▸ (nodup_added hstays).length_le_of_subset hsub

/-- An operation looks up a tag that the catalog finds under a name. -/
def Spells (r : Registry M) (name : String) (op : Operation M) : Prop :=
  ∃ catalog tag found, r.catalog = some catalog ∧ op.aim = .find tag ∧
    catalog.lookup tag = some found ∧ found.name = name

theorem Spells.of_catalog_eq {name : String} {r' : Registry M} (h : r.Spells name op)
    (hcatalog : r'.catalog = r.catalog) : r'.Spells name op := by
  obtain ⟨catalog, tag, found, hr, hlookup⟩ := h
  exact ⟨catalog, tag, found, hcatalog.trans hr, hlookup⟩

theorem lookup_of_found? {catalog : Catalog M} (hcatalog : r.catalog = some catalog)
    (hd : r.found? tag = some d) : catalog.lookup tag = some d := by
  obtain ⟨-, other, hother, hlookup⟩ := found?_eq_some_iff.mp hd
  cases hcatalog.symm.trans hother
  exact hlookup

/-- Looking a spelling of a name up touches the entry of that name at most. -/
theorem Spells.registered?_after {name other : String} (h : r.Spells name op) (hne : other ≠ name) :
    (r.after op).registered? other = r.registered? other := by
  obtain ⟨catalog, tag, found, hcatalog, haim, hlookup, hname⟩ := h
  apply Option.ext
  intro d
  rw [registered?_after_iff, and_iff_left (not_ends_of_find haim), or_iff_right]
  intro hputs
  obtain ⟨htake, hother⟩ := hputs.takes haim
  cases hlookup.symm.trans (lookup_of_found? hcatalog htake.hit)
  exact hne (hother.symm.trans hname)

theorem registered?_run_of_spells {name other : String} {ops : List (Operation M)}
    (h : ∀ op ∈ ops, r.Spells name op) (hne : other ≠ name) :
    (r.run ops).registered? other = r.registered? other := by
  induction ops generalizing r with
  | nil => rfl
  | cons op ops ih =>
    obtain ⟨hop, hlater⟩ := List.forall_mem_cons.mp h
    calc ((r.after op).run ops).registered? other
      _ = (r.after op).registered? other :=
        ih fun op' hmem => (hlater op' hmem).of_catalog_eq (catalog_after r op)
      _ = r.registered? other := hop.registered?_after hne

theorem resolve_of_found? {found : Descriptor M} (hopen : r.types.poisoned = false)
    (hunlisted : r.registered? tag = none) (hit : r.found? tag = some found) :
    ∃ d, (r.resolve tag).1 = .ok d ∧ (r.resolve tag).2.registered? found.name = some d := by
  have hr := resolved hopen tag
  generalize r.resolve tag = answer at hr ⊢
  cases hr with
  | registered listed => exact nomatch hunlisted.symm.trans listed
  | unknown _ missing => exact nomatch hit.symm.trans missing
  | renamed _ hit' listed =>
    cases hit.symm.trans hit'
    exact ⟨_, rfl, listed⟩
  | taken _ hit' _ =>
    cases hit.symm.trans hit'
    exact ⟨found, rfl, (registered?_store r _ _ _).trans (if_pos rfl)⟩

/-- An entry was registered by hand under its tag and stands since, or it is a type of the catalog under
its name. -/
theorem Stocked.origin {ops : List (Operation M)} (h : r.Stocked)
    (hempty : r.registered? tag = none) (hd : (r.run ops).registered? tag = some d) :
    r.ByHand ops tag d ∨ r.Catalogued tag d := by
  rcases (registered?_run_iff r ops tag d).mp hd with
    ⟨hbefore, -⟩ | ⟨before, op, later, hops, hputs, hstands⟩
  · exact nomatch hempty.symm.trans hbefore
  · cases hputs with
    | byHand hput => exact .inl ⟨before, op, later, hops, hput, hstands⟩
    | fromCatalog htake hname =>
      subst hname
      exact .inr (catalogued_run_iff.mp ((h.run before).catalogued htake.hit))

/-- Every entry of a registry was registered by hand under its tag or is a type of the catalog under its
name. All spellings of a name share the entry of that name; between removals lookups add no more entries
than the catalog has names, and none at all without a catalog or with the flag off. -/
theorem lookups_do_not_pollute (config : RegistryConfig)
    (descriptors : Option (List (Descriptor M))) (ops : List (Operation M)) :
    let start := configured config (descriptors.map .ofList)
    let r := start.run ops
    (∀ tag d, r.registered? tag = some d → start.ByHand ops tag d ∨ r.Catalogued tag d) ∧
    (∀ name spellings, (∀ op ∈ spellings, r.Spells name op) →
      ∀ other, other ≠ name → (r.run spellings).registered? other = r.registered? other) ∧
    (∀ tag found, r.types.poisoned = false → r.registered? tag = none → r.found? tag = some found →
      ∃ d, (r.resolve tag).1 = .ok d ∧ (r.resolve tag).2.registered? found.name = some d) ∧
    (∀ later, (∀ e ∈ r.met later, ∀ tag, ¬ e.1.Removes e.2 tag) →
      (r.added later).length ≤ r.catalog.elim 0 Catalog.size) ∧
    ∀ op tag, op.aim = .find tag → r.autoRegister = false ∨ r.catalog = none → r.after op = r := by
  intro start r
  have hstart : start.Stocked := stocked_configured config descriptors
  have hr : r.Stocked := hstart.run ops
  refine ⟨?_, fun _ _ h _ hne => registered?_run_of_spells h hne, fun _ _ => resolve_of_found?,
    fun _ => hr.length_added_le, ?_⟩
  · intro tag d hd
    rcases hstart.origin (registered?_configured config _ tag) hd with hput | hcatalogued
    · exact .inl hput
    · exact .inr (catalogued_run_iff.mpr hcatalogued)
  · intro op tag haim hclosed
    apply after_of_find_of_found?_eq_none haim
    rw [found?]
    rcases hclosed with hoff | hnone
    · rw [hoff]
      rfl
    · rw [hnone]
      exact ite_self none

def spellingsRun : List (Operation Inbound) :=
  [.ask (.register "own" (.constant "Own" .bincode 7)),
    .dispatch ((Message.withData []).setTypeTag "com.AMessage"), .ask (.resolve "org::AMessage")]

/-- The spellings have left one entry, and further lookups can bring at most as many as the catalog has. -/
theorem lookups_do_not_pollute_sample :
    let r := (configured ⟨.reject, true⟩ (some (.ofList [.of .aMessage, .of .ping]))).run spellingsRun
    r.tags.toOption = some ["AMessage", "own"] ∧
      (r.run [.ask (.resolve "q.AMessage")]).registered? "own" = r.registered? "own" ∧
      (r.added [.ask (.resolve "a.Ping"), .ask (.resolve "b:Ping")]).length ≤ 2 := by
  intro r
  obtain ⟨-, hspellings, -, hbound, -⟩ :=
    lookups_do_not_pollute ⟨.reject, true⟩ (some [.of .aMessage, .of .ping]) spellingsRun
  refine ⟨?_, hspellings "AMessage" _ ?_ "own" (by decide), hbound _ ?_⟩
  · with_unfolding_all rfl
  · intro op hop
    obtain rfl := List.mem_singleton.mp hop
    refine ⟨.ofList [.of .aMessage, .of .ping], "q.AMessage", .of .aMessage, rfl, rfl, ?_, rfl⟩
    with_unfolding_all rfl
  · intro e he tag hremove
    have hop := mem_of_mem_met he
    rcases List.mem_cons.mp hop with hop | hop
    · exact nomatch hop ▸ hremove.aim
    · exact nomatch List.mem_singleton.mp hop ▸ hremove.aim

theorem eq_resolve_of_find_empty (haim : op.aim = .find "") : op = .ask (.resolve "") := by
  cases op with
  | ask request =>
    cases request with
    | resolve tag =>
      cases haim
      rfl
    | _ => cases haim
  | dispatch m =>
    simp only [Operation.aim] at haim
    split at haim
    · cases haim
    · cases haim
    · rename_i hne _
      cases haim
      exact absurd rfl hne

theorem Stocked.tag_eq_empty (h : r.Stocked) (hd : r.found? tag = some d) (hname : d.name = "") :
    tag = "" := by
  obtain ⟨-, catalog, hcatalog, hlookup⟩ := found?_eq_some_iff.mp hd
  obtain ⟨descriptors, rfl⟩ := h catalog hcatalog
  exact (Catalog.named_ofList descriptors).tag_eq_empty hlookup hname

theorem Catalogued.unique {e : Descriptor M} (hd : r.Catalogued tag d) (he : r.Catalogued tag e) :
    d = e := by
  obtain ⟨catalog, hcatalog, hd⟩ := hd
  obtain ⟨other, hother, he⟩ := he
  cases hcatalog.symm.trans hother
  exact Option.some.inj (hd.symm.trans he)

theorem registered?_after_of_found? (hopen : r.types.poisoned = false) (haim : op.aim = .find tag)
    (hit : r.found? tag = some d) (hname : d.name = tag)
    (hown : ∀ e, r.registered? tag = some e → e = d) : (r.after op).registered? tag = some d := by
  apply (registered?_after_iff r op tag d).mpr
  cases hlisted : r.registered? tag with
  | none => exact .inl (.fromCatalog ⟨⟨haim, hopen, hlisted, hit⟩, hname.symm ▸ hlisted⟩ hname)
  | some e => exact .inr ⟨congrArg some (hown e hlisted), not_ends_of_find haim⟩

/-- An entry under the empty tag is the catalog's type without a name. It stands there from the time on
that the empty tag itself is asked for, with the flag on, until it is removed; neither registrations nor
messages bring it. -/
theorem empty_tag_stands_iff (config : RegistryConfig) (descriptors : Option (List (Descriptor M)))
    (ops : List (Operation M)) (d : Descriptor M) :
    let start := configured config (descriptors.map .ofList)
    (start.run ops).registered? "" = some d ↔
      d.name = "" ∧ ∃ before later, ops = before ++ .ask (.resolve "") :: later ∧
        (start.run before).types.poisoned = false ∧ (start.run before).found? "" = some d ∧
        ∀ e ∈ ((start.run before).after (.ask (.resolve ""))).met later, ¬ e.1.Removes e.2 "" := by
  intro start
  have hstart : start.Stocked := stocked_configured config descriptors
  have hempty : start.registered? "" = none := registered?_configured config _ ""
  constructor
  · intro hd
    rcases (registered?_run_iff start ops "" d).mp hd with
      ⟨hbefore, -⟩ | ⟨before, op, later, rfl, hputs, hstands⟩
    · exact nomatch hempty.symm.trans hbefore
    · cases hputs with
      | byHand hput => exact absurd rfl hput.admitted.1
      | fromCatalog htake hname =>
        obtain rfl := (hstart.run before).tag_eq_empty htake.hit hname
        obtain rfl := eq_resolve_of_find_empty htake.aim
        exact ⟨hname, before, later, rfl, htake.unpoisoned, htake.hit,
          fun e he hremove => hstands e he (.removed hremove)⟩
  · intro h
    obtain ⟨hname, before, later, rfl, hopen, hit, hstays⟩ := h
    have hstands : ((start.run before).after (.ask (.resolve ""))).Stands later "" := by
      intro e he hends
      cases hends with
      | removed hremove => exact hstays e he hremove
      | replaced hput => exact hput.admitted.1 rfl
    rw [run_append]
    refine (registered?_run_iff _ later "" d).mpr (.inl ⟨?_, hstands⟩)
    apply registered?_after_of_found? hopen rfl hit hname
    intro e he
    rcases hstart.origin hempty he with ⟨_, _, _, -, hput, -⟩ | hcatalogued
    · exact absurd rfl hput.admitted.1
    · have hd := catalogued_run_iff.mp ((hstart.run before).catalogued hit)
      exact hcatalogued.unique (hname ▸ hd)

/-- Asking for the empty tag makes it a registered one. -/
theorem nameless_type_stands_under_the_empty_tag :
    let start := configured ⟨.overwrite, true⟩ (some (.ofList [.of .nameless]))
    let r := start.run [.ask (.resolve "")]
    r.registered? "" = some (.of .nameless) ∧ r.tags.toOption = some [""] ∧
      (r.register "" (.of .nameless)).1 = .error .emptyTypeTag := by
  with_unfolding_all exact ⟨rfl, rfl, rfl⟩

end Registry

end TypedBus
