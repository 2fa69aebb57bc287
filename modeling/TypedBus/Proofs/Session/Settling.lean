import TypedBus.Proofs.Session.Delivering

namespace TypedBus

namespace TextMap

variable {α β : Type}

def mapValues (f : α → β) (m : TextMap α) : TextMap β :=
  ⟨m.entries.map fun e => (e.1, f e.2), List.pairwise_map.mpr m.ordered⟩

theorem get?_mapValues (f : α → β) (m : TextMap α) (key : String) :
    (m.mapValues f).get? key = (m.get? key).map f := by
  simp only [get?, mapValues, List.find?_map, Option.map_map]
  rfl

theorem mapValues_insert (f : α → β) (m : TextMap α) (key : String) (value : α) :
    (m.insert key value).mapValues f = (m.mapValues f).insert key (f value) := by
  apply ext_get?
  intro other
  simp only [get?_mapValues, get?_insert]
  split <;> rfl

end TextMap

namespace Handle

variable {handle : Handle}

/-- A handle but for what its subscriber counts of the objects that its receiver has taken. -/
def outline : Handle → Handle
  | .subscriber s closure => .subscriber s.outline closure
  | handle => handle

theorem subscription?_outline (handle : Handle) : handle.outline.subscription? = handle.subscription? := by
  cases handle <;> rfl

theorem isPublisher_outline (key : Nat) (handle : Handle) :
    handle.outline.isPublisher key = handle.isPublisher key := by
  cases handle <;> rfl

theorem isRawPublisher_outline (id : PeerId) (handle : Handle) :
    handle.outline.isRawPublisher id = handle.isRawPublisher id := by
  cases handle <;> rfl

theorem eq_of_outline_subscriber {sub : TypedSubscriber Inbound} {closure : Bool}
    (h : handle.outline = .subscriber sub.outline closure) :
    ∃ other, handle = .subscriber other closure ∧ other.outline = sub.outline := by
  cases handle with
  | subscriber other closure' =>
    obtain ⟨hsub, rfl⟩ := Handle.subscriber.inj h
    exact ⟨other, rfl, hsub⟩
  | publisher | rawPublisher | rawSubscriber => cases h

theorem eq_of_outline_raw {id : PeerId} {channel : String}
    (h : handle.outline = .rawSubscriber id channel) : handle = .rawSubscriber id channel := by
  cases handle with
  | rawSubscriber => exact h
  | publisher | rawPublisher | subscriber => cases h

end Handle

namespace Session

variable {s t : Session}

/-- A session but for what its receivers have been told, and what they made of it. -/
def outline (s : Session) : Session :=
  { s with
    handles := s.handles.mapValues Handle.outline
    fails := fun _ _ => false
    report := { s.report with received := [] } }

theorem outline_setHandle (s : Session) (name : String) (handle : Handle) :
    (s.setHandle name handle).outline = s.outline.setHandle name handle.outline := by
  simp only [setHandle, outline, TextMap.mapValues_insert]

theorem holder?_outline (s : Session) (id : PeerId) :
    s.outline.holder? id = (s.holder? id).map fun e => (e.1, e.2.outline) := by
  simp only [holder?, outline, TextMap.mapValues, List.find?_map]
  congr 2
  funext e
  simp only [Function.comp_apply, Handle.subscription?_outline]

/-- Who holds a subscription has a counterpart in a session that looks the same. -/
theorem holder?_of_outline (h : s.outline = t.outline) {id : PeerId} {name : String} {handle : Handle}
    (hs : s.holder? id = some (name, handle)) :
    ∃ other, t.holder? id = some (name, other) ∧ other.outline = handle.outline := by
  have hholder := holder?_outline t id
  rw [← h, holder?_outline, hs] at hholder
  obtain ⟨⟨name', other⟩, ht, hsame⟩ := Option.map_eq_some_iff.mp hholder.symm
  obtain ⟨rfl, houtline⟩ := Prod.mk.inj hsame
  exact ⟨other, ht, houtline⟩

theorem outline_handOut (h : s.outline = t.outline) (id : PeerId) (letters : List Letter) :
    (s.handOut id letters).outline = (t.handOut id letters).outline := by
  cases hs : s.holder? id with
  | none =>
    have ht : t.holder? id = none := by
      have hholder := holder?_outline t id
      rw [← h, holder?_outline, hs] at hholder
      exact Option.map_eq_none_iff.mp hholder.symm
    rw [handOut_of_nobody hs, handOut_of_nobody ht, h]
  | some held =>
    obtain ⟨name, handle⟩ := held
    obtain ⟨other, ht, hsame⟩ := holder?_of_outline h hs
    cases handle with
    | publisher | rawPublisher =>
      rw [holder?] at hs
      have htest := List.find?_some hs
      simp [Handle.subscription?] at htest
    | rawSubscriber own channel =>
      obtain rfl := Handle.eq_of_outline_raw hsame
      rw [handOut_of_raw hs, handOut_of_raw ht]
      exact h
    | subscriber sub closure =>
      obtain ⟨sub', rfl, hsub⟩ := Handle.eq_of_outline_subscriber hsame
      rw [handOut_of_typed hs, handOut_of_typed ht]
      change (s.setHandle name _).outline = (t.setHandle name _).outline
      rw [outline_setHandle, outline_setHandle, h]
      congr 1
      exact congrArg (Handle.subscriber · closure) (TypedSubscriber.heard_outline hsub.symm _ _ letters).1

theorem domain_eq_of_outline (h : s.outline = t.outline) : s.domain = t.domain :=
  (congrArg Session.domain h :)

theorem schedule_eq_of_outline (h : s.outline = t.outline) : s.schedule = t.schedule :=
  (congrArg Session.schedule h :)

theorem outline_with_schedule (h : s.outline = t.outline) (schedule : Schedule) :
    outline { s with schedule } = outline { t with schedule } :=
  (congrArg (fun u : Session => { u with schedule }) h :)

theorem outline_with_domain (h : s.outline = t.outline) (d : Domain SessionGreeter) :
    outline { s with domain := d } = outline { t with domain := d } :=
  (congrArg (fun u : Session => { u with domain := d }) h :)

/-- What a turn of a delivery leaves does not depend on what the receivers do. -/
theorem outline_deliverUpTo (h : s.outline = t.outline) (id : PeerId) (n : Nat) :
    (s.deliverUpTo id n).outline = (t.deliverUpTo id n).outline := by
  have hdomain := domain_eq_of_outline h
  have hturn (u : Session) : (u.deliverUpTo id n).outline =
      { (u.handOut id ((u.domain.queue id).take n)).outline with
        domain := (u.domain.run (List.replicate n (.deliver id))).2
        schedule := (u.steady.deliverUpTo id n).schedule } := by
    rw [deliverUpTo_eq u]
    rfl
  have hnext : (s.steady.deliverUpTo id n).schedule = (t.steady.deliverUpTo id n).schedule :=
    schedule_deliverUpTo (s := s.steady) (t := t.steady) hdomain (schedule_eq_of_outline h) id n
  rw [hturn s, hturn t, hnext, hdomain, outline_handOut h]

theorem passTo_outline (s : Session) (sender : Sender) (ticket : Nat) (route : PeerId) :
    s.outline.passTo sender ticket route = (s.passTo sender ticket route).outline := by
  have hdomain : s.outline.domain = s.domain := rfl
  simp only [passTo, hdomain]
  cases s.domain.pass ticket route with
  | none => rfl
  | some passed =>
    obtain ⟨passage, d⟩ := passed
    cases passage <;> rfl

theorem advance_outline (s : Session) (sender : Sender) (ticket n : Nat) (routes : List PeerId) :
    s.outline.advance sender ticket n routes =
      ((s.advance sender ticket n routes).1, (s.advance sender ticket n routes).2.outline) := by
  induction n generalizing s routes with
  | zero => cases routes <;> rfl
  | succ n ih =>
    cases routes with
    | nil => rfl
    | cons route rest =>
      have hroom : s.outline.hasRoom sender route = s.hasRoom sender route := rfl
      simp only [advance, hroom, passTo_outline]
      split
      · exact ih _ rest
      · rfl

theorem startReply_outline (s : Session) (r : Reply) :
    s.outline.startReply r = ((s.startReply r).1, (s.startReply r).2.outline) := by
  have hdomain : s.outline.domain = s.domain := rfl
  have hpublisher : s.outline.publisher? r.publisher = s.publisher? r.publisher := rfl
  simp only [startReply, hdomain, hpublisher]
  cases s.publisher? r.publisher with
  | none => rfl
  | some p =>
    simp only
    generalize p.sendObject s.domain none _ = sent
    obtain ⟨result, d⟩ := sent
    cases result <;> rfl

theorem holdsTyped_outline (s : Session) (key : Nat) : s.outline.holdsTyped key = s.holdsTyped key := by
  simp only [holdsTyped, outline, TextMap.mapValues, List.any_map, Function.comp_def,
    Handle.isPublisher_outline]

theorem holdsRaw_outline (s : Session) (id : PeerId) : s.outline.holdsRaw id = s.holdsRaw id := by
  simp only [holdsRaw, outline, TextMap.mapValues, List.any_map, Function.comp_def,
    Handle.isRawPublisher_outline]

theorem release_outline (s : Session) : s.outline.release = s.release.outline := by
  let kept := { s with publishers := s.publishers.filter fun p => s.holdsTyped p.1 }
  have htyped : s.outline.publishers.filter (fun p => s.outline.holdsTyped p.1) = kept.publishers := by
    simp only [holdsTyped_outline]
    rfl
  have hraw : (fun id => !kept.outline.holdsRaw id) = fun id => !kept.holdsRaw id := by
    funext id
    rw [holdsRaw_outline]
  let present := s.domain.endpoints.value.publishers.map (·.id)
  calc s.outline.release
    _ = { kept.outline with
          domain := (present.filter fun id => !kept.outline.holdsRaw id).foldl Domain.withdraw
            s.domain } := by
        rw [release, htyped]
        rfl
    _ = s.release.outline := by
        rw [hraw]
        rfl

theorem takeWait_outline (s : Session) (w : Wait) : s.outline.takeWait w = (s.takeWait w).outline := by
  have hwatched : s.outline.watched w.publisher = s.watched w.publisher := rfl
  have hover := release_outline
    (noteWait { s with waits := s.waits.filter (·.number ≠ w.number) } w (s.watched w.publisher))
  simp only [takeWait, hwatched]
  split
  · exact hover
  · rfl

theorem takeReply_outline (s : Session) (r : Reply) :
    s.outline.takeReply r = (s.takeReply r).outline := by
  have hover (left : Session) := release_outline
    { left with replies := left.replies.filter (·.number ≠ r.number) }
  cases hsending : r.sending with
  | none =>
    simp only [takeReply, hsending, startReply_outline, advance_outline]
    generalize s.startReply r = begun
    obtain ⟨sending, s⟩ := begun
    simp only
    generalize s.advance _ _ _ _ = passed
    obtain ⟨routes, left⟩ := passed
    cases routes with
    | nil => exact hover left
    | cons route routes => rfl
  | some sending =>
    simp only [takeReply, hsending, advance_outline]
    generalize s.advance _ _ _ _ = passed
    obtain ⟨routes, left⟩ := passed
    cases routes with
    | nil => exact hover left
    | cons route routes => rfl

theorem outline_take (h : s.outline = t.outline) (turn : Turn) :
    (s.take turn).outline = (t.take turn).outline := by
  cases turn with
  | delivery id => exact outline_deliverUpTo h id share
  | reply number =>
    have hreplies : s.replies = t.replies := (congrArg Session.replies h :)
    simp only [take, hreplies]
    cases t.replies.find? (·.number = number) with
    | none => exact h
    | some r =>
      simp only [Option.map_some, Option.getD_some, ← takeReply_outline, h]
  | wait number =>
    have hwaits : s.waits = t.waits := (congrArg Session.waits h :)
    simp only [take, hwaits]
    cases t.waits.find? (·.number = number) with
    | none => exact h
    | some w =>
      simp only [Option.map_some, Option.getD_some, ← takeWait_outline, h]

theorem outline_takeTurns (h : s.outline = t.outline) (n : Nat) :
    (takeTurns n s).1 = (takeTurns n t).1 ∧
      (takeTurns n s).2.outline = (takeTurns n t).2.outline := by
  induction n generalizing s t with
  | zero => exact ⟨rfl, h⟩
  | succ n ih =>
    simp only [takeTurns, schedule_eq_of_outline h]
    generalize t.schedule.next = next
    obtain ⟨turn?, schedule⟩ := next
    cases turn? with
    | none => exact ⟨rfl, outline_with_schedule h schedule⟩
    | some turn => exact ih (outline_take (outline_with_schedule h schedule) turn)

theorem outline_round (h : s.outline = t.outline) :
    s.round.1 = t.round.1 ∧ s.round.2.outline = t.round.2.outline := by
  obtain ⟨hquiet, hleft⟩ := outline_takeTurns h roundLength
  simp only [round, hquiet, schedule_eq_of_outline hleft]
  split
  · exact ⟨rfl, hleft⟩
  · exact ⟨rfl, outline_with_schedule hleft _⟩

theorem outline_settleIn (h : s.outline = t.outline) (n : Nat) :
    (settleIn n s).outline = (settleIn n t).outline := by
  induction n generalizing s t with
  | zero => exact h
  | succ n ih =>
    obtain ⟨hrest, hleft⟩ := outline_round h
    simp only [settleIn]
    revert hrest hleft
    generalize s.round = here
    generalize t.round = there
    obtain ⟨isAtRest, left⟩ := here
    obtain ⟨isAtRest', left'⟩ := there
    rintro rfl hleft
    cases isAtRest with
    | true => exact hleft
    | false => exact ih hleft

theorem work_eq_of_outline (h : s.outline = t.outline) : s.work = t.work :=
  (congrArg Session.work h :)

/-- A session comes to the same rest, whatever its receivers do. -/
theorem outline_settle (h : s.outline = t.outline) (milliseconds : Nat) :
    (s.settle milliseconds).outline = (t.settle milliseconds).outline := by
  have hleft := outline_settleIn h t.work
  simp only [settle, work_eq_of_outline h, schedule_eq_of_outline hleft]
  exact outline_with_schedule hleft _

theorem advance_of_outline (h : s.outline = t.outline) (sender : Sender) (ticket n : Nat)
    (routes : List PeerId) :
    (s.advance sender ticket n routes).1 = (t.advance sender ticket n routes).1 ∧
      (s.advance sender ticket n routes).2.outline = (t.advance sender ticket n routes).2.outline := by
  have ht := advance_outline t sender ticket n routes
  rw [← h, advance_outline] at ht
  exact Prod.mk.inj ht

theorem outline_carryIn (h : s.outline = t.outline) (ticket n : Nat) (routes : List PeerId) :
    (carryIn ticket n routes s).outline = (carryIn ticket n routes t).outline := by
  induction n generalizing s t routes with
  | zero => cases routes <;> exact h
  | succ n ih =>
    cases routes with
    | nil => exact h
    | cons route rest =>
      -- one step of the caller before the round that follows, on either side
      let moved (u : Session) : List PeerId × Session :=
        if u.schedule.isInLine .caller then (route :: rest, u)
        else u.advance .caller ticket share (route :: rest)
      have hmoved : (moved s).1 = (moved t).1 ∧ (moved s).2.outline = (moved t).2.outline := by
        simp only [moved, schedule_eq_of_outline h]
        split
        · exact ⟨rfl, h⟩
        · exact advance_of_outline h .caller ticket share (route :: rest)
      have hstep (u : Session) : carryIn ticket (n + 1) (route :: rest) u =
          if (moved u).1.isEmpty then (moved u).2
          else if (moved u).2.schedule.isInLine .caller then
            carryIn ticket n (moved u).1 (moved u).2.round.2
          else carryIn ticket n (moved u).1
            { (moved u).2.round.2 with schedule := (moved u).2.round.2.schedule.alert } := rfl
      obtain ⟨hroutes, hleft⟩ := hmoved
      obtain ⟨-, hround⟩ := outline_round hleft
      rw [hstep s, hstep t, hroutes, schedule_eq_of_outline hleft, schedule_eq_of_outline hround]
      split
      · exact hleft
      · split
        · exact ih hround _
        · exact ih (outline_with_schedule hround _) _

/-- What is published comes to the same, whatever the receivers do while it is carried on. -/
theorem complete_of_outline {ε : Type} (h : s.outline = t.outline)
    (started : Except ε Nat × Domain SessionGreeter) :
    (s.complete started).1 = (t.complete started).1 ∧
      (s.complete started).2.outline = (t.complete started).2.outline := by
  obtain ⟨result, d⟩ := started
  have hdomain := outline_with_domain h d
  cases result with
  | error e => exact ⟨rfl, hdomain⟩
  | ok ticket =>
    refine ⟨rfl, ?_⟩
    simp only [complete, carry, work_eq_of_outline hdomain]
    exact outline_carryIn hdomain ticket _ _

/-- What a session is and comes to while its receivers fail. -/
structure Unimpaired (s : Session) : Prop where
  turns : ∀ id n, s.HandsOut id n
  /-- It comes to the same rest as one whose receivers take everything. -/
  settles : ∀ milliseconds, (s.settle milliseconds).outline = (s.steady.settle milliseconds).outline
  /-- What is published in it comes to the same. -/
  publishes : ∀ {ε : Type} (started : Except ε Nat × Domain SessionGreeter),
    (s.complete started).1 = (s.steady.complete started).1 ∧
      (s.complete started).2.outline = (s.steady.complete started).2.outline

theorem unimpaired (s : Session) : s.Unimpaired where
  turns := s.handsOut
  settles := outline_settle (rfl : s.outline = s.steady.outline)
  publishes := complete_of_outline (rfl : s.outline = s.steady.outline)

end Session

variable {G M : Type}

/-- A receiver that fails loses the message that it was called with, and nothing else is lost: it is called
once for each letter of its queue in their order, its subscription stays, and all that is left of the run is
as if no receiver had failed. A session goes on in the same way, too. -/
theorem failing_receivers_lose_only_their_messages (b : Bus G M) (deeds : List (Deed G M)) :
    b.Unimpaired deeds ∧
    (∀ s ∈ b.domain.endpoints.value.subscriptions, b.domain.isActive s.id = true →
      .unsubscribe s.id ∉ b.actions deeds → b.Serves deeds s) ∧
    (∀ i sub, b.subscribers[i]? = some sub →
      (∀ id, sub.raw = some id → .unsubscribe id ∉ b.actions deeds →
        (b.calls i deeds).map (·.letter) = Domain.received id (b.domain.run (b.actions deeds)).1) ∧
      ∃ left, (b.run deeds).subscribers[i]? = some left ∧ left.dispatcher.registry.types.poisoned =
        (sub.dispatcher.registry.types.poisoned || deeds.any (·.failsInside i))) ∧
    ∀ s : Session, s.Unimpaired := by
  refine ⟨b.unimpaired deeds, ?_, ?_, Session.unimpaired⟩
  · intro s hlisted hactive hstay
    exact Bus.serves hactive hlisted hstay
  · intro i sub hs
    exact ⟨fun id hraw hstay => Bus.letters_calls hs hraw hstay, Bus.poisoned_run hs deeds⟩

def ReceiverEvent.isFailed : ReceiverEvent → Bool
  | .failed => true
  | _ => false

def Action.cancels : Action G → Bool
  | .unsubscribe _ => true
  | _ => false

def sampleTrio : Bus SessionGreeter Inbound :=
  ({ domain := Domain.start {} } : Bus SessionGreeter Inbound).run
    [.advertise "xy", .subscribe "x" {} true, .subscribe "" {} true]

/-- A receiver that fails on messages that are not empty. -/
def touchy : Receiver Inbound where
  failsOnError _ m := decide (m.size ≠ 0)

/-- Two messages go to both subscribers, and one receiver fails on the first message. -/
def sampleMishap : List (Deed SessionGreeter Inbound) :=
  [.order 0 (.send ((Message.withData [1]).setTypeTag "a")),
    .order 0 (.send ((Message.withData []).setTypeTag "a")),
    .act {} (.pass 0 ⟨2⟩), .act {} (.pass 0 ⟨3⟩), .act {} (.pass 1 ⟨2⟩), .act {} (.pass 1 ⟨3⟩),
    .act touchy (.deliver ⟨2⟩), .act touchy (.deliver ⟨2⟩), .act {} (.deliver ⟨3⟩)]

/-- The same queues in a session, where a receiver of messages fails on the first message. -/
def sampleSession : Session where
  domain := (sampleTrio.run (sampleMishap.take 6)).domain
  handles := TextMap.empty.insert "ear" (.rawSubscriber ⟨2⟩ "x")
  fails _ m := decide (m.size ≠ 0)

theorem failing_receivers_lose_only_their_messages_sample :
    sampleTrio.Unimpaired sampleMishap ∧ sampleTrio.Serves sampleMishap ⟨⟨2⟩, "x"⟩ ∧
      (sampleTrio.calls 0 sampleMishap).map (·.letter.ticket) = [0, 1] ∧
      (sampleTrio.calls 0 sampleMishap).map (·.failed) = [true, false] ∧
      (sampleTrio.calls 1 sampleMishap).map (·.failed) = [false] ∧
      ((sampleSession.deliverUpTo ⟨2⟩ 2).report.received.map fun e => (e.1, e.2.isFailed)) =
        [("ear", false), ("ear", true)] := by
  obtain ⟨hunimpaired, hserves, htyped, hsession⟩ :=
    failing_receivers_lose_only_their_messages sampleTrio sampleMishap
  have hnone : (sampleTrio.actions sampleMishap).all (!·.cancels) = true := by decide +kernel
  have hstay : .unsubscribe ⟨2⟩ ∉ sampleTrio.actions sampleMishap := fun hmem =>
    Bool.false_ne_true (List.all_eq_true.mp hnone _ hmem)
  refine ⟨hunimpaired, hserves ⟨⟨2⟩, "x"⟩ ?_ ?_ hstay, ?_, ?_, ?_, ?_⟩
  · decide +kernel
  · decide +kernel
  · have hletters := (htyped 0 _ rfl).1 ⟨2⟩ rfl hstay
    have htickets := congrArg (List.map (·.ticket)) hletters
    rw [List.map_map] at htickets
    exact htickets.trans (by decide +kernel)
  · decide +kernel
  · decide +kernel
  · have hholder : sampleSession.holder? ⟨2⟩ = some ("ear", .rawSubscriber ⟨2⟩ "x") := by rfl
    rw [((hsession sampleSession).turns ⟨2⟩ 2).raw _ _ _ hholder]
    decide +kernel

end TypedBus
