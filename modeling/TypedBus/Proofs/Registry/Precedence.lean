import TypedBus.Proofs.Registry.Entries

namespace TypedBus.Registry

variable {M : Type} {r : Registry M} {op : Operation M} {ops : List (Operation M)} {tag : String}
  {d : Descriptor M}

theorem resolve_of_registered? (hopen : r.types.poisoned = false) (h : r.registered? tag = some d) :
    r.resolve tag = (.ok d, r) := by
  have hr := resolved hopen tag
  generalize r.resolve tag = answer at hr ⊢
  cases hr with
  | registered listed =>
    cases h.symm.trans listed
    rfl
  | unknown unlisted | renamed unlisted | taken unlisted => exact nomatch h.symm.trans unlisted

/-- What is registered under the name that a tag is found under goes before the catalog's own type. -/
theorem resolve_of_named {found : Descriptor M} (hopen : r.types.poisoned = false)
    (hunlisted : r.registered? tag = none) (hit : r.found? tag = some found)
    (h : r.registered? found.name = some d) : (r.resolve tag).1 = .ok d := by
  rw [resolve_fst hopen, typeOf?, hunlisted, hit, Option.none_or, Option.map_some, h]
  rfl

/-- A registration that is let answers the type that it replaces. -/
theorem registered?_of_register {previous : Option (Descriptor M)}
    (h : (r.register tag d).1 = .ok previous) :
    previous = r.registered? tag ∧ (r.register tag d).2.registered? tag = some d := by
  have hr := registration r tag d
  generalize r.register tag d = answer at hr h ⊢
  cases hr with
  | untagged | shut | refused => cases h
  | stored =>
    cases h
    exact ⟨rfl, (registered?_store r tag tag d).trans (if_pos rfl)⟩

theorem register_of_listed {previous : Descriptor M} (hstrict : r.policy = .reject)
    (hlisted : r.registered? tag = some previous) : (r.register tag d).2 = r := by
  have hr := registration r tag d
  generalize r.register tag d = answer at hr ⊢
  cases hr with
  | untagged | shut | refused => rfl
  | stored _ _ admitted => exact nomatch hlisted.symm.trans (admitted hstrict)

/-- Nothing but the empty tag, a poisoned lock and a strict registry that has the tag keeps a type out. -/
theorem register_of_admitted (htagged : tag ≠ "") (hopen : r.types.poisoned = false)
    (hadmitted : r.policy = .reject → r.registered? tag = none) :
    r.register tag d = (.ok (r.registered? tag), r.store (r.types.value.insert tag d)) := by
  have hr := registration r tag d
  generalize r.register tag d = answer at hr ⊢
  cases hr with
  | untagged empty => exact absurd empty htagged
  | shut poisoned => exact nomatch hopen.symm.trans poisoned
  | refused listed strict => exact nomatch listed.symm.trans (hadmitted strict)
  | stored => rfl

theorem register_of_overwrite (htagged : tag ≠ "") (hopen : r.types.poisoned = false)
    (hlenient : r.policy = .overwrite) : (r.register tag d).1 = .ok (r.registered? tag) := by
  have hadmitted : r.policy = .reject → r.registered? tag = none := by
    intro hstrict
    cases hlenient.symm.trans hstrict
  rw [register_of_admitted htagged hopen hadmitted]

theorem register_of_free (htagged : tag ≠ "") (hopen : r.types.poisoned = false)
    (hfree : r.registered? tag = none) :
    r.register tag d = (.ok none, r.store (r.types.value.insert tag d)) := by
  rw [register_of_admitted htagged hopen fun _ => hfree, hfree]

/-- A free tag can be registered, and then stands for that type. -/
theorem register_and_resolve (htagged : tag ≠ "") (hopen : r.types.poisoned = false)
    (hfree : r.registered? tag = none) :
    (r.register tag d).1 = .ok none ∧ ((r.register tag d).2.resolve tag).1 = .ok d := by
  rw [register_of_free htagged hopen hfree]
  have hlisted := (registered?_store r tag tag d).trans (if_pos rfl)
  have hkept : (r.store (r.types.value.insert tag d)).types.poisoned = false := hopen
  exact ⟨rfl, congrArg Prod.fst (resolve_of_registered? hkept hlisted)⟩

theorem register_of_strict {previous : Descriptor M} (htagged : tag ≠ "")
    (hopen : r.types.poisoned = false) (hstrict : r.policy = .reject)
    (hlisted : r.registered? tag = some previous) :
    r.register tag d = (.error (.duplicateRegistration tag), r) := by
  have hr := registration r tag d
  generalize r.register tag d = answer at hr ⊢
  cases hr with
  | untagged empty => exact absurd empty htagged
  | shut poisoned => exact nomatch hopen.symm.trans poisoned
  | refused => rfl
  | stored _ _ admitted => exact nomatch hlisted.symm.trans (admitted hstrict)

/-- A lock that is not poisoned in the end never was. -/
theorem open_of_run_append {before later : List (Operation M)}
    (h : (r.run (before ++ later)).types.poisoned = false) : (r.run before).types.poisoned = false := by
  rw [run_append, poisoned_run, Bool.or_eq_false_iff] at h
  exact h.1

theorem registered?_of_byHand (h : r.ByHand ops tag d) : (r.run ops).registered? tag = some d := by
  obtain ⟨before, op, later, hops, hput, hstands⟩ := h
  exact (registered?_run_iff r ops tag d).mpr (.inr ⟨before, op, later, hops, .byHand hput, hstands⟩)

/-- What has been registered by hand answers its tag, whatever the flag, and with the flag on every tag
that the catalog finds under that name, until the tag is removed or registered anew. A strict registry
lets nothing be replaced; one that overwrites answers what it replaces and refuses the empty tag alone. -/
theorem registration_by_hand_wins (r : Registry M) (ops : List (Operation M))
    (hopen : (r.run ops).types.poisoned = false) :
    (∀ tag d, r.ByHand ops tag d →
      (∀ flag, (((r.run ops).setAutoRegister flag).resolve tag).1 = .ok d) ∧
      ∀ q found, (r.run ops).registered? q = none → r.catalog.bind (·.lookup q) = some found →
        found.name = tag → (((r.run ops).setAutoRegister true).resolve q).1 = .ok d) ∧
    ∀ before op later tag d, ops = before ++ op :: later → op.aim = .register tag d →
      (r.policy = .reject → ∀ previous, (r.run before).registered? tag = some previous →
        (r.run before).after op = r.run before) ∧
      (r.policy = .overwrite → tag ≠ "" →
        ((r.run before).register tag d).1 = .ok ((r.run before).registered? tag)) ∧
      ∀ previous, ((r.run before).register tag d).1 = .ok previous →
        previous = (r.run before).registered? tag ∧
        ((r.run before).after op).registered? tag = some d := by
  constructor
  · intro tag d hput
    have hlisted := registered?_of_byHand hput
    constructor
    · intro flag
      have hresolve := resolve_of_registered? (r := (r.run ops).setAutoRegister flag) hopen hlisted
      exact congrArg Prod.fst hresolve
    · intro q found hunlisted hlookup hname
      have hit : ((r.run ops).setAutoRegister true).found? q = some found := by
        rw [found?, setAutoRegister, if_pos rfl, catalog_run]
        exact hlookup
      exact resolve_of_named (r := (r.run ops).setAutoRegister true) hopen hunlisted hit
        (hname.symm ▸ hlisted)
  · intro before op later tag d hops haim
    rw [hops] at hopen
    have hbefore := open_of_run_append hopen
    refine ⟨?_, ?_, ?_⟩
    · intro hstrict previous hlisted
      rw [after_of_register haim]
      exact register_of_listed ((policy_run r before).trans hstrict) hlisted
    · intro hlenient htagged
      exact register_of_overwrite htagged hbefore ((policy_run r before).trans hlenient)
    · intro previous haccepted
      rw [after_of_register haim]
      exact registered?_of_register haccepted

def strictSample : Registry Inbound :=
  configured ⟨.reject, true⟩ (some (.ofList [.of .aMessage, .of .ping]))

/-- Goes on after a type was registered under a name of the catalog: the flag is set back, a qualified tag
is looked up, and the catalog's own type is offered. -/
def sampleLater : List (Operation Inbound) :=
  [.ask (.setAutoRegister false), .ask (.resolve "com.Ping"), .ask (.register "Ping" (.of .ping))]

/-- The first registration answers the tag and its spellings, and the second one changes nothing. -/
theorem registration_by_hand_wins_sample :
    let own := Descriptor.constant "Own" .bincode 7
    let before : List (Operation Inbound) := [.ask (.register "Ping" own)]
    let r := strictSample.run (before ++ sampleLater)
    r.types.poisoned = false ∧ strictSample.ByHand (before ++ sampleLater) "Ping" own ∧
      ((r.setAutoRegister false).resolve "Ping").1 = .ok own ∧
      ((r.setAutoRegister true).resolve "org.Ping").1 = .ok own ∧
      (strictSample.run (before ++ sampleLater.take 2)).after (.ask (.register "Ping" (.of .ping))) =
        strictSample.run (before ++ sampleLater.take 2) := by
  intro own before r
  have hopen : r.types.poisoned = false := by with_unfolding_all rfl
  have hlisted : (strictSample.run (before ++ sampleLater.take 2)).registered? "Ping" = some own := by
    with_unfolding_all rfl
  have hrefused : ¬ (strictSample.run (before ++ sampleLater.take 2)).Ends
      (.ask (.register "Ping" (.of .ping))) "Ping" := by
    intro hends
    cases hends with
    | removed hremove => exact nomatch hremove.aim
    | replaced hput => exact nomatch (hput.admitted.2.2 rfl).symm.trans hlisted
  have hput : strictSample.ByHand (before ++ sampleLater) "Ping" own := by
    refine ⟨[], .ask (.register "Ping" own), sampleLater, rfl, ⟨rfl, none, ?_⟩, ?_⟩
    · with_unfolding_all rfl
    · refine stands_cons.mpr ⟨not_ends_of_nothing rfl, stands_cons.mpr ⟨not_ends_of_find rfl, ?_⟩⟩
      exact stands_cons.mpr ⟨hrefused, fun _ he => nomatch he⟩
  have hwins := registration_by_hand_wins strictSample (before ++ sampleLater) hopen
  obtain ⟨hown, hspellings⟩ := hwins.1 "Ping" own hput
  have hlookup : strictSample.catalog.bind (·.lookup "org.Ping") = some (.of .ping) := by
    with_unfolding_all rfl
  have hunlisted : r.registered? "org.Ping" = none := by with_unfolding_all rfl
  have hkept := hwins.2 (before ++ sampleLater.take 2) _ [] "Ping" (.of .ping) rfl rfl
  exact ⟨hopen, hput, hown false, hspellings _ _ hunlisted hlookup rfl, hkept.1 rfl own hlisted⟩

/-- A lookup of a run has found the catalog's type of a name, and the name was not removed since. -/
def TakenOver (r : Registry M) (ops : List (Operation M)) (name : String) : Prop :=
  ∃ before op later, ops = before ++ op :: later ∧
    (∃ spelling found, (r.run before).Finds op spelling found ∧ found.name = name) ∧
    ∀ e ∈ ((r.run before).after op).met later, ¬ e.1.Removes e.2 name

/-- Lookups leave a type under every name that they find. -/
theorem Finds.registered?_after {found : Descriptor M} (h : r.Finds op tag found) :
    ∃ e, (r.after op).registered? found.name = some e := by
  obtain ⟨e, -, hlisted⟩ := resolve_of_found? h.unpoisoned h.unlisted h.hit
  rw [after_of_find h.aim]
  exact ⟨e, hlisted⟩

theorem takenOver_of_registered? (hempty : r.registered? tag = none)
    (hnever : ∀ e ∈ r.met ops, ∀ d, ¬ e.1.Registers e.2 tag d)
    (h : (r.run ops).registered? tag = some d) : r.TakenOver ops tag := by
  rcases (registered?_run_iff r ops tag d).mp h with
    ⟨hbefore, -⟩ | ⟨before, op, later, rfl, hputs, hstands⟩
  · exact nomatch hempty.symm.trans hbefore
  · cases hputs with
    | byHand hput => exact absurd hput (hnever _ (mem_met r before later op) d)
    | fromCatalog htake hname =>
      exact ⟨before, op, later, rfl, ⟨_, d, htake.toFinds, hname⟩,
        fun e he hremove => hstands e he (.removed hremove)⟩

theorem registered?_of_takenOver (hnever : ∀ e ∈ r.met ops, ∀ d, ¬ e.1.Registers e.2 tag d)
    (h : r.TakenOver ops tag) : ∃ d, (r.run ops).registered? tag = some d := by
  obtain ⟨before, op, later, rfl, ⟨_, found, hfinds, rfl⟩, hstays⟩ := h
  obtain ⟨d, hd⟩ := hfinds.registered?_after
  have hstands : ((r.run before).after op).Stands later found.name := by
    intro e he hends
    cases hends with
    | removed hremove => exact hstays e he hremove
    | replaced hput =>
      have hmem : e ∈ r.met (before ++ op :: later) := by
        rw [met_append]
        exact List.mem_append_right _ (List.mem_cons_of_mem _ he)
      exact hnever e hmem _ hput
  refine ⟨d, ?_⟩
  rw [run_append]
  exact (registered?_run_iff _ later _ d).mpr (.inl ⟨hd, hstands⟩)

def Operation.looksUp (op : Operation M) : Bool :=
  match op.aim with
  | .find _ => true
  | _ => false

/-- A registry beside the one that comes of the same run without its lookups, in which a tag is free if it
is free here. -/
structure Quieter (tag : String) (r q : Registry M) : Prop where
  poisoned : q.types.poisoned = r.types.poisoned
  free : r.registered? tag = none → q.registered? tag = none

namespace Quieter

variable {q : Registry M}

theorem refl (tag : String) (r : Registry M) : Quieter tag r r := ⟨rfl, id⟩

theorem lookup (h : Quieter tag r q) (haim : op.looksUp = true) : Quieter tag (r.after op) q := by
  rw [Operation.looksUp] at haim
  split at haim
  · rename_i key hkey
    have hsome : op.aim ≠ .nothing := fun h => nomatch hkey.symm.trans h
    constructor
    · rw [poisoned_after, poisons_of_aim hsome, Bool.or_false, h.poisoned]
    · intro hfree
      apply h.free
      cases hlisted : r.registered? tag with
      | none => rfl
      | some d =>
        have hstays := (registered?_after_iff r op tag d).mpr (.inr ⟨hlisted, not_ends_of_find hkey⟩)
        exact nomatch hfree.symm.trans hstays
  · cases haim

/-- What would be let in there would be let in here. -/
theorem not_registers (h : Quieter tag r q) (hfree : r.registered? tag = none)
    (hnever : ∀ d, ¬ r.Registers op tag d) : ¬ q.Registers op tag d := by
  intro hput
  obtain ⟨htagged, hopen, -⟩ := hput.admitted
  have haccepted := register_of_free (d := d) htagged (h.poisoned.symm.trans hopen) hfree
  exact hnever d ⟨hput.aim, none, congrArg Prod.fst haccepted⟩

theorem step (h : Quieter tag r q) (haim : op.looksUp = false)
    (hnever : ∀ d, ¬ r.Registers op tag d) : Quieter tag (r.after op) (q.after op) where
  poisoned := by rw [poisoned_after, poisoned_after, h.poisoned]
  free hfree := by
    have hremoves (d : Descriptor M) (hlisted : r.registered? tag = some d) : r.Removes op tag := by
      by_cases hends : r.Ends op tag
      · cases hends with
        | removed hremove => exact hremove
        | replaced hput => exact absurd hput (hnever _)
      · have hstays := (registered?_after_iff r op tag d).mpr (.inr ⟨hlisted, hends⟩)
        exact nomatch hfree.symm.trans hstays
    cases hq : (q.after op).registered? tag with
    | none => rfl
    | some x =>
      rcases (registered?_after_iff q op tag x).mp hq with hputs | ⟨hlisted, hkept⟩
      · cases hputs with
        | byHand hput =>
          cases hr : r.registered? tag with
          | none => exact absurd hput (h.not_registers hr hnever)
          | some d => exact nomatch hput.aim.symm.trans (hremoves d hr).aim
        | fromCatalog htake => simp [Operation.looksUp, htake.aim] at haim
      · cases hr : r.registered? tag with
        | none => exact nomatch hlisted.symm.trans (h.free hr)
        | some d =>
          obtain ⟨hkey, hopen⟩ := removes_iff.mp (hremoves d hr)
          exact absurd (.removed (removes_iff.mpr ⟨hkey, h.poisoned.trans hopen⟩)) hkept

theorem run (h : Quieter tag r q) (hnever : ∀ e ∈ r.met ops, ∀ d, ¬ e.1.Registers e.2 tag d) :
    Quieter tag (r.run ops) (q.run (ops.filter (!·.looksUp))) := by
  induction ops generalizing r q with
  | nil => exact h
  | cons op ops ih =>
    obtain ⟨hop, hlater⟩ := List.forall_mem_cons.mp hnever
    cases haim : op.looksUp with
    | true =>
      rw [List.filter_cons_of_neg (by simp [haim])]
      exact ih (h.lookup haim) hlater
    | false =>
      rw [List.filter_cons_of_pos (by simp [haim])]
      exact ih (h.step haim hop) hlater

end Quieter

/-- In a strict registry a tag that was never registered by hand can be registered after any run, and then
stands for that type, as it would without the lookups of the run; unless one of them has found the
catalog's type of that name, which is kept then and lets no other in. -/
theorem registration_after_traffic (start : Registry M) (hstrict : start.policy = .reject)
    (hstocked : start.Stocked) (tag : String) (htagged : tag ≠ "")
    (hempty : start.registered? tag = none) (ops : List (Operation M))
    (hopen : (start.run ops).types.poisoned = false)
    (hnever : ∀ e ∈ start.met ops, ∀ d, ¬ e.1.Registers e.2 tag d) (d : Descriptor M) :
    let r := start.run ops
    let quiet := start.run (ops.filter (!·.looksUp))
    (¬ start.TakenOver ops tag →
      (r.register tag d).1 = .ok none ∧ ((r.register tag d).2.resolve tag).1 = .ok d ∧
      (quiet.register tag d).1 = .ok none ∧ ((quiet.register tag d).2.resolve tag).1 = .ok d) ∧
    (start.TakenOver ops tag →
      r.register tag d = (.error (.duplicateRegistration tag), r) ∧
      ∃ own, r.Catalogued tag own ∧ (r.resolve tag).1 = .ok own) := by
  intro r quiet
  constructor
  · intro hfreed
    have hfree : r.registered? tag = none := by
      cases hlisted : r.registered? tag with
      | none => rfl
      | some e => exact absurd (takenOver_of_registered? hempty hnever hlisted) hfreed
    have hquiet : Quieter tag r quiet := (Quieter.refl tag start).run hnever
    obtain ⟨haccepted, hwins⟩ := register_and_resolve (d := d) htagged hopen hfree
    obtain ⟨haccepted', hwins'⟩ :=
      register_and_resolve (d := d) htagged (hquiet.poisoned.trans hopen) (hquiet.free hfree)
    exact ⟨haccepted, hwins, haccepted', hwins'⟩
  · intro htaken
    obtain ⟨own, hlisted⟩ := registered?_of_takenOver hnever htaken
    have hpolicy : r.policy = .reject := (policy_run start ops).trans hstrict
    refine ⟨register_of_strict htagged hopen hpolicy hlisted, own, ?_, ?_⟩
    · rcases hstocked.origin hempty hlisted with hput | hown
      · obtain ⟨before, op, later, rfl, hput, -⟩ := hput
        exact absurd hput (hnever _ (mem_met start before later op) own)
      · exact catalogued_run_iff.mpr hown
    · rw [resolve_of_registered? hopen hlisted]

def sampleMessage : Message := (Message.withData []).setTypeTag "com.AMessage"

/-- The message has taken the name over, so that another type is let in under a name of its own only. -/
theorem registration_after_traffic_sample :
    let r := strictSample.run [.dispatch sampleMessage]
    strictSample.policy = .reject ∧ strictSample.Stocked ∧
      strictSample.registered? "AMessage" = none ∧ strictSample.registered? "Own" = none ∧
      r.types.poisoned = false ∧
      r.register "AMessage" (.constant "Own" .bincode 9) =
        (.error (.duplicateRegistration "AMessage"), r) ∧
      (r.register "Own" (.constant "Own" .bincode 9)).1 = .ok none := by
  intro r
  have hstocked : strictSample.Stocked := stocked_configured _ (some [.of .aMessage, .of .ping])
  have hopen : r.types.poisoned = false := by with_unfolding_all rfl
  have hnever (tag : String) :
      ∀ e ∈ strictSample.met [.dispatch sampleMessage], ∀ d, ¬ e.1.Registers e.2 tag d := by
    intro e he d hput
    obtain rfl := List.mem_singleton.mp he
    exact nomatch hput.aim
  have htaken : strictSample.TakenOver [.dispatch sampleMessage] "AMessage" := by
    have hfinds : strictSample.Finds (.dispatch sampleMessage) "com.AMessage" (.of .aMessage) := by
      constructor <;> with_unfolding_all rfl
    exact ⟨[], .dispatch sampleMessage, [], rfl, ⟨_, _, hfinds, rfl⟩, fun _ he => nomatch he⟩
  have hfree : ¬ strictSample.TakenOver [.dispatch sampleMessage] "Own" := by
    intro h
    obtain ⟨d, hd⟩ := registered?_of_takenOver (hnever "Own") h
    have hnone : r.registered? "Own" = none := by with_unfolding_all rfl
    exact nomatch hnone.symm.trans hd
  have hrefused := registration_after_traffic strictSample rfl hstocked "AMessage" (by decide) rfl
    [.dispatch sampleMessage] hopen (hnever "AMessage") (.constant "Own" .bincode 9)
  have haccepted := registration_after_traffic strictSample rfl hstocked "Own" (by decide) rfl
    [.dispatch sampleMessage] hopen (hnever "Own") (.constant "Own" .bincode 9)
  exact ⟨rfl, hstocked, rfl, rfl, hopen, (hrefused.2 htaken).1, (haccepted.1 hfree).1⟩

/-- Without the message the tag can be registered and stands for that type; after it the tag is refused
and keeps the catalog's type. -/
theorem message_decides_registration :
    let r := strictSample.run [.dispatch sampleMessage]
    let own := Descriptor.constant "Own" .bincode 9
    (strictSample.register "AMessage" own).1 = .ok none ∧
      ((strictSample.register "AMessage" own).2.resolve "AMessage").1 = .ok own ∧
      (r.register "AMessage" own).1 = .error (.duplicateRegistration "AMessage") ∧
      ((r.register "AMessage" own).2.resolve "AMessage").1 = .ok (.of .aMessage) := by
  with_unfolding_all exact ⟨rfl, rfl, rfl, rfl⟩

end TypedBus.Registry
