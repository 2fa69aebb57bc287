import TypedBus.Proofs.Transport.Greetings

namespace TypedBus

namespace Tour

variable {α β : Type} {t : Tour}

/-- At one place of a walk: the entry there is changed, and what it says is noted. -/
def stop (change : α → α) (note : α → Option β) (walked : List α × List β) (place : Nat) :
    List α × List β :=
  (walked.1.modify place change, walked.2 ++ (walked.1[place]?.bind note).toList)

/-- Goes through a table in the order of a tour. -/
def walk (t : Tour) (change : α → α) (note : α → Option β) (entries : List α) : List α × List β :=
  (t.places entries.length).foldl (stop change note) (entries, [])

theorem nodup_places (t : Tour) (n : Nat) : (t.places n).Nodup :=
  (t.perm n).nodup_iff.mpr List.nodup_range

section Walk

variable {places : List Nat} {change : α → α} {note : α → Option β}

theorem getElem?_foldl_stop (h : places.Nodup) (walked : List α × List β) (i : Nat) :
    (places.foldl (stop change note) walked).1[i]? =
      if i ∈ places then walked.1[i]?.map change else walked.1[i]? := by
  induction places generalizing walked with
  | nil => simp
  | cons place places ih =>
    obtain ⟨hplace, hplaces⟩ := List.nodup_cons.mp h
    rw [List.foldl_cons, ih hplaces, stop, List.getElem?_modify]
    by_cases hi : place = i
    · subst hi
      simp [hplace]
    · simp [hi, Ne.symm hi]

/-- An entry says the same whether others have been changed before it or not. -/
theorem foldl_stop_snd (h : places.Nodup) (walked : List α × List β) :
    (places.foldl (stop change note) walked).2 =
      walked.2 ++ places.filterMap fun i => walked.1[i]?.bind note := by
  induction places generalizing walked with
  | nil => simp
  | cons place places ih =>
    obtain ⟨hplace, hplaces⟩ := List.nodup_cons.mp h
    have hrest : (places.filterMap fun i => (walked.1.modify place change)[i]?.bind note) =
        places.filterMap fun i => walked.1[i]?.bind note := by
      apply List.filterMap_congr
      intro i hi
      have hne : place ≠ i := by
        rintro rfl
        exact hplace hi
      simp [hne]
    rw [List.foldl_cons, ih hplaces, stop, hrest, List.filterMap_cons, List.append_assoc]
    cases walked.1[place]?.bind note <;> rfl

/-- In a walk every entry is changed once. -/
theorem walk_fst (t : Tour) (change : α → α) (note : α → Option β) (entries : List α) :
    (t.walk change note entries).1 = entries.map change := by
  apply List.ext_getElem?
  intro i
  rw [walk, getElem?_foldl_stop (t.nodup_places _), List.getElem?_map]
  split
  · rfl
  · rename_i hi
    have hbeyond : ¬ i < entries.length := by
      rwa [(t.perm _).mem_iff, List.mem_range] at hi
    rw [List.getElem?_eq_none (Nat.not_lt.mp hbeyond)]
    rfl

/-- And every entry is heard once. -/
theorem walk_snd_perm (t : Tour) (change : α → α) (note : α → Option β) (entries : List α) :
    (t.walk change note entries).2.Perm (entries.filterMap note) := by
  have hnotes := (t.visit_perm entries).filterMap note
  rw [visit, List.filterMap_filterMap] at hnotes
  rw [walk, foldl_stop_snd (t.nodup_places _)]
  exact hnotes

end Walk

end Tour

namespace Endpoints

variable {G : Type}

def advertiseAlong (t : Tours) (e : Endpoints G) (id : PeerId) (channel : String) : Endpoints G :=
  let publisher : Advertisement G := { id, channel, watched := (e.matchingAlong t channel).length }
  { e with publishers := e.publishers ++ [publisher] }

/-- Goes through the publishers, brings up to date what those see that a subscription to a channel hears,
and collects their greeters. -/
def refreshAlong (t : Tours) (e : Endpoints G) (channel : String) : Endpoints G × List (PeerId × G) :=
  let (publishers, greeters) := t.publishers.walk
    (fun p => if Channel.covers channel p.channel then
      { p with watched := (e.matchingAlong t p.channel).length } else p)
    (fun p => if Channel.covers channel p.channel then p.greeter.map (p.id, ·) else none)
    e.publishers
  ({ e with publishers }, greeters)

def subscribeAlong (t : Tours) (e : Endpoints G) (id : PeerId) (channel : String) :
    Endpoints G × List (PeerId × G) :=
  refreshAlong t { e with subscriptions := e.subscriptions ++ [⟨id, channel⟩] } channel

def unsubscribeAlong (t : Tours) (e : Endpoints G) (s : Subscription) :
    Endpoints G × List (PeerId × G) :=
  refreshAlong t { e with subscriptions := e.subscriptions.filter (·.id ≠ s.id) } s.channel

theorem advertiseAlong_eq (t : Tours) (e : Endpoints G) (id : PeerId) (channel : String) :
    e.advertiseAlong t id channel = e.advertise id channel := by
  rw [advertiseAlong, (matchingAlong_perm t e channel).length_eq, advertise]

theorem refreshAlong_fst (t : Tours) (e : Endpoints G) (channel : String) :
    (e.refreshAlong t channel).1 = e.refresh channel := by
  unfold refreshAlong refresh
  simp only [Tour.walk_fst, (matchingAlong_perm t e _).length_eq]

theorem refreshAlong_snd_perm (t : Tours) (e : Endpoints G) (channel : String) :
    (e.refreshAlong t channel).2.Perm (e.greeters channel) :=
  t.publishers.walk_snd_perm _ _ _

theorem subscribeAlong_fst (t : Tours) (e : Endpoints G) (id : PeerId) (channel : String) :
    (e.subscribeAlong t id channel).1 = e.subscribe id channel :=
  refreshAlong_fst t _ channel

theorem subscribeAlong_snd_perm (t : Tours) (e : Endpoints G) (id : PeerId) (channel : String) :
    (e.subscribeAlong t id channel).2.Perm ((e.subscribe id channel).greeters channel) := by
  rw [greeters_subscribe]
  exact refreshAlong_snd_perm t _ channel

theorem unsubscribeAlong_fst (t : Tours) (e : Endpoints G) (s : Subscription) :
    (e.unsubscribeAlong t s).1 = e.unsubscribe s :=
  refreshAlong_fst t _ s.channel

theorem unsubscribeAlong_snd_perm (t : Tours) (e : Endpoints G) (s : Subscription) :
    (e.unsubscribeAlong t s).2.Perm ((e.unsubscribe s).greeters s.channel) := by
  rw [greeters_unsubscribe]
  exact refreshAlong_snd_perm t _ s.channel

end Endpoints

/-- Outcomes that differ in the order of the calls to greeters at most. -/
inductive Outcome.Alike {G : Type} : Outcome G → Outcome G → Prop
  | refl (o : Outcome G) : Alike o o
  | joined {id : PeerId} {greetings others : List (Greeting G)} (perm : greetings.Perm others) :
      Alike (.joined id greetings) (.joined id others)
  | gone {greetings others : List (Greeting G)} (perm : greetings.Perm others) :
      Alike (.gone greetings) (.gone others)

namespace Domain

variable {G : Type} {d : Domain G}

/-- The calls to some greeters for an encounter with a subscription. -/
def callsTo (encounter : Encounter) (s : Subscription) (greeters : List (PeerId × G)) :
    List (Greeting G) :=
  greeters.map fun (publisher, greeter) => { greeter, encounter, publisher, subscriber := s.id }

def advertiseAlong (t : Tours) (d : Domain G) (channel : String) :
    Except TransportError PeerId × Domain G :=
  let id := d.nextId
  let d := { d with nextId := id.next }
  match d.write with
  | .error e => (.error e, d)
  | .ok e =>
    (.ok id, { d.store (e.advertiseAlong t id channel) with metrics := d.metrics.addPublisher })

/-- A new subscription, the publishers told along a tour. -/
def subscribeAlong (t : Tours) (d : Domain G) (channel : String) (running : Bool) :
    Except TransportError (PeerId × List (Greeting G)) × Domain G :=
  if !running then (.error .noRuntime, d)
  else
    let id := d.nextId
    let d := { d with nextId := id.next }
    match d.write with
    | .error e => (.error e, d)
    | .ok e =>
      let (e, greeters) := e.subscribeAlong t id channel
      (.ok (id, callsTo .welcome ⟨id, channel⟩ greeters),
        { d.store e with
          inboxes := d.inboxes ++ [{ owner := id }], metrics := d.metrics.addSubscriber })

/-- The end of a subscription, the publishers told along a tour. -/
def unsubscribeAlong (t : Tours) (d : Domain G) (id : PeerId) : List (Greeting G) × Domain G :=
  if !d.isActive id then ([], d)
  else
    let d := { d with inboxes := d.inboxes.filter (·.owner ≠ id) }
    match d.write with
    | .error _ => ([], d)
    | .ok e =>
      match e.subscription? id with
      | none => ([], d)
      | some s =>
        let (e, greeters) := e.unsubscribeAlong t s
        (callsTo .farewell s greeters, { d.store e with metrics := d.metrics.removeSubscriber })

/-- What comes of an action along the tours of the tables that it goes through. -/
def performAlong (t : Tours) (d : Domain G) : Action G → Outcome G × Domain G
  | .advertise channel =>
    match d.advertiseAlong t channel with
    | (.ok id, d) => (.joined id [], d)
    | (.error e, d) => (.refused e, d)
  | .subscribe channel running =>
    match d.subscribeAlong t channel running with
    | (.ok (id, greetings), d) => (.joined id greetings, d)
    | (.error e, d) => (.refused e, d)
  | .unsubscribe subscriber =>
    let (greetings, d) := d.unsubscribeAlong t subscriber
    (.gone greetings, d)
  | a => d.perform a

theorem advertiseAlong_eq (t : Tours) (d : Domain G) (channel : String) :
    d.advertiseAlong t channel = d.advertise channel := by
  cases hw : write { d with nextId := d.nextId.next } <;>
    simp only [advertiseAlong, advertise, hw, Endpoints.advertiseAlong_eq]

theorem performAlong_of_eq {t : Tours} {a : Action G} (h : d.performAlong t a = d.perform a) :
    Outcome.Alike (d.performAlong t a).1 (d.perform a).1 ∧
      (d.performAlong t a).2 = (d.perform a).2 := by
  rw [h]
  exact ⟨.refl _, rfl⟩

theorem performAlong_subscribe (t : Tours) (d : Domain G) (channel : String) (running : Bool) :
    Outcome.Alike (d.performAlong t (.subscribe channel running)).1
        (d.perform (.subscribe channel running)).1 ∧
      (d.performAlong t (.subscribe channel running)).2 =
        (d.perform (.subscribe channel running)).2 := by
  cases running with
  | false => exact performAlong_of_eq rfl
  | true =>
    cases hw : write { d with nextId := d.nextId.next } with
    | error e =>
      refine performAlong_of_eq ?_
      simp only [performAlong, perform, subscribeAlong, subscribe, hw, Bool.not_true,
        Bool.false_eq_true, if_false]
    | ok e =>
      have hcalls := Endpoints.subscribeAlong_snd_perm t e d.nextId channel
      simp only [performAlong, perform, subscribeAlong, subscribe, hw]
      refine ⟨.joined (hcalls.map _), ?_⟩
      rw [Endpoints.subscribeAlong_fst]
      rfl

theorem performAlong_unsubscribe (t : Tours) (d : Domain G) (id : PeerId) :
    Outcome.Alike (d.performAlong t (.unsubscribe id)).1 (d.perform (.unsubscribe id)).1 ∧
      (d.performAlong t (.unsubscribe id)).2 = (d.perform (.unsubscribe id)).2 := by
  cases ha : d.isActive id with
  | false =>
    refine performAlong_of_eq ?_
    simp only [performAlong, perform, unsubscribeAlong, unsubscribe, ha, Bool.not_false, if_true]
  | true =>
    cases hw : write { d with inboxes := d.inboxes.filter (·.owner ≠ id) } with
    | error e =>
      refine performAlong_of_eq ?_
      simp only [performAlong, perform, unsubscribeAlong, unsubscribe, ha, hw]
    | ok e =>
      cases hf : e.subscription? id with
      | none =>
        refine performAlong_of_eq ?_
        simp only [performAlong, perform, unsubscribeAlong, unsubscribe, ha, hw, hf]
      | some s =>
        have hcalls := Endpoints.unsubscribeAlong_snd_perm t e s
        simp only [performAlong, perform, unsubscribeAlong, unsubscribe, ha, hw, hf]
        refine ⟨.gone (hcalls.map _), ?_⟩
        rw [Endpoints.unsubscribeAlong_fst]
        rfl

/-- Along whatever tours an action leaves the same domain, and what comes of it is the same but for the
order of the calls to greeters. -/
theorem performAlong_alike (t : Tours) (d : Domain G) (a : Action G) :
    Outcome.Alike (d.performAlong t a).1 (d.perform a).1 ∧
      (d.performAlong t a).2 = (d.perform a).2 := by
  cases a with
  | advertise channel =>
    refine performAlong_of_eq ?_
    cases hd : d.advertise channel with
    | mk result after => cases result <;> simp only [performAlong, perform, advertiseAlong_eq, hd]
  | subscribe channel running => exact performAlong_subscribe t d channel running
  | unsubscribe id => exact performAlong_unsubscribe t d id
  | _ => exact performAlong_of_eq rfl

end Domain

end TypedBus
