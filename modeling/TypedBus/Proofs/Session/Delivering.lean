import TypedBus.Proofs.Typed.Failing
import TypedBus.Session.Progress

namespace TypedBus

namespace Domain

variable {G : Type} {d : Domain G} {id : PeerId}

theorem perform_deliver_of_empty (h : d.queue id = []) : d.perform (.deliver id) = (.silent, d) := by
  simp only [perform, deliver, h]

theorem perform_deliver_of_first {letter : Letter} {rest : List Letter}
    (h : d.queue id = letter :: rest) :
    d.perform (.deliver id) = (.delivered letter, d.setQueue id rest) := by
  simp only [perform, deliver, h]

theorem queue_after_first {letter : Letter} {rest : List Letter} (h : d.queue id = letter :: rest) :
    (d.setQueue id rest).queue id = rest := by
  rw [queue_setQueue (isActive_of_queue h), if_pos rfl]

theorem run_deliver_of_empty (h : d.queue id = []) (n : Nat) :
    (d.run (List.replicate n (.deliver id))).2 = d := by
  induction n with
  | zero => rfl
  | succ n ih => simpa only [List.replicate_succ, run, perform_deliver_of_empty h] using ih

/-- A queue gives its letters in their order. -/
theorem received_run_deliver (d : Domain G) (id : PeerId) (n : Nat) :
    received id (d.run (List.replicate n (.deliver id))).1 = (d.queue id).take n := by
  induction n generalizing d with
  | zero => rfl
  | succ n ih =>
    rw [List.replicate_succ, run]
    cases h : d.queue id with
    | nil =>
      rw [perform_deliver_of_empty h]
      change received id (d.run (List.replicate n (.deliver id))).1 = _
      rw [ih, h, List.take_nil, List.take_nil]
    | cons letter rest =>
      rw [perform_deliver_of_first h, List.take_succ_cons]
      change receivedBy id (.deliver id, .delivered letter) ++ received id _ = _
      rw [ih, queue_after_first h]
      simp [receivedBy]

end Domain

namespace Session

variable {s t : Session} {id : PeerId} {name : String}

/-- The same session with receivers that take everything. -/
def steady (s : Session) : Session := { s with fails := fun _ _ => false }

/-- Who holds a subscription, and under which name. -/
def holder? (s : Session) (id : PeerId) : Option (String × Handle) :=
  s.handles.entries.find? (·.2.subscription? = some id)

/-- Hands letters to the receiver of a subscription. -/
def handOut (s : Session) (id : PeerId) (letters : List Letter) : Session :=
  letters.foldl (fun s letter => s.receive id letter.message) s

/-- Some events are noted, the first one first. -/
def noting (s : Session) (events : List (String × ReceiverEvent)) : Session :=
  { s with report := { s.report with received := events.reverse ++ s.report.received } }

/-- What is noted of a letter for a receiver of messages. -/
def rawEvent (s : Session) (name : String) (letter : Letter) : String × ReceiverEvent :=
  (name, if s.fails name letter.message then .failed else .message letter.message)

/-- What is noted of a call to a receiver of objects. -/
def callEvent? (s : Session) (name : String) (closure : Bool) (call : Call Inbound) :
    Option (String × ReceiverEvent) :=
  (eventOf? (s.receiver name closure) closure call.letter.message call.call).map (name, ·)

theorem noting_noting (s : Session) (first later : List (String × ReceiverEvent)) :
    (s.noting first).noting later = s.noting (first ++ later) := by
  simp [noting]

theorem receive_with (s : Session) (id : PeerId) (m : Message) (d : Domain SessionGreeter)
    (schedule : Schedule) :
    receive { s with domain := d, schedule } id m =
      { s.receive id m with domain := d, schedule } := by
  simp only [receive]
  split
  · rfl
  · simp only [setHandle, receiver, noteReceived]
    split <;> rfl
  · rfl

theorem receive_domain (s : Session) (id : PeerId) (m : Message) :
    (s.receive id m).domain = s.domain := by
  have hsame := receive_with s id m s.domain s.schedule
  exact (congrArg Session.domain hsame :)

theorem receive_schedule (s : Session) (id : PeerId) (m : Message) :
    (s.receive id m).schedule = s.schedule := by
  have hsame := receive_with s id m s.domain s.schedule
  exact (congrArg Session.schedule hsame :)

theorem handOut_with (s : Session) (id : PeerId) (letters : List Letter) (d : Domain SessionGreeter)
    (schedule : Schedule) :
    handOut { s with domain := d, schedule } id letters =
      { s.handOut id letters with domain := d, schedule } := by
  induction letters generalizing s with
  | nil => rfl
  | cons letter letters ih =>
    change handOut (receive { s with domain := d, schedule } id letter.message) id letters = _
    rw [receive_with, ih]
    rfl

/-- Whose turn it is does not depend on what the receivers do. -/
theorem schedule_deliverUpTo (hdomain : s.domain = t.domain) (hschedule : s.schedule = t.schedule)
    (id : PeerId) (n : Nat) : (s.deliverUpTo id n).schedule = (t.deliverUpTo id n).schedule := by
  induction n generalizing s t with
  | zero => simp only [deliverUpTo, hschedule]
  | succ n ih =>
    simp only [deliverUpTo, hdomain, hschedule]
    cases t.domain.deliver id with
    | none => rfl
    | some first =>
      refine ih ?_ ?_
      · simp only [receive_domain]
      · simp only [receive_schedule]

/-- The letters of a queue go to its receiver one after the other, whatever it does with them. -/
theorem deliverUpTo_eq (s : Session) (id : PeerId) (n : Nat) :
    s.deliverUpTo id n =
      { s.handOut id ((s.domain.queue id).take n) with
        domain := (s.domain.run (List.replicate n (.deliver id))).2
        schedule := (s.steady.deliverUpTo id n).schedule } := by
  induction n generalizing s with
  | zero => rfl
  | succ n ih =>
    cases h : s.domain.queue id with
    | nil =>
      have hdeliver : s.domain.deliver id = none := by rw [Domain.deliver, h]
      have hsteady : s.steady.domain.deliver id = none := hdeliver
      rw [Domain.run_deliver_of_empty h, List.take_nil]
      simp only [deliverUpTo, hdeliver, hsteady]
      rfl
    | cons letter rest =>
      have hdeliver : s.domain.deliver id = some (letter, s.domain.setQueue id rest) := by
        rw [Domain.deliver, h]
      have hsteady : s.steady.domain.deliver id = some (letter, s.domain.setQueue id rest) := hdeliver
      rw [List.take_succ_cons, List.replicate_succ, Domain.run, Domain.perform_deliver_of_first h]
      simp only [deliverUpTo, hdeliver, hsteady]
      rw [ih, receive_with]
      simp only [Domain.queue_after_first h]
      rw [handOut_with]
      congr 1
      refine schedule_deliverUpTo ?_ ?_ id n
      · rw [receive_domain]
        rfl
      · rw [receive_schedule]
        rfl

/-- A receiver of messages is called with every letter. -/
theorem handOut_of_raw {raw : PeerId} {channel : String}
    (h : s.holder? id = some (name, .rawSubscriber raw channel)) (letters : List Letter) :
    s.handOut id letters = s.noting (letters.map (s.rawEvent name)) := by
  induction letters generalizing s with
  | nil => rfl
  | cons letter letters ih =>
    have hfirst : s.receive id letter.message = s.noting [s.rawEvent name letter] := by
      rw [holder?] at h
      simp only [receive, h]
      rfl
    change (s.receive id letter.message).handOut id letters = _
    rw [hfirst, ih (s := s.noting [s.rawEvent name letter]) h, noting_noting]
    rfl

theorem receive_of_typed {sub : TypedSubscriber Inbound} {closure : Bool}
    (h : s.holder? id = some (name, .subscriber sub closure)) (letter : Letter) :
    s.receive id letter.message =
      (s.setHandle name
        (.subscriber (sub.receive (s.receiver name closure) letter.message).2 closure)).noting
        ((sub.callsFor (s.receiver name closure) [letter]).filterMap (s.callEvent? name closure)) := by
  rw [holder?] at h
  simp only [receive, h, TypedSubscriber.callsFor, List.filterMap_cons, List.filterMap_nil, callEvent?]
  cases eventOf? (s.receiver name closure) closure letter.message
      (sub.receive (s.receiver name closure) letter.message).1 with
  | none => rfl
  | some event => rfl

/-- A handle of a typed subscriber that has not been closed is replaced in its place. -/
theorem holder?_setHandle {sub other : TypedSubscriber Inbound} {closure : Bool}
    (h : s.holder? id = some (name, .subscriber sub closure)) (hraw : other.raw = sub.raw) :
    (s.setHandle name (.subscriber other closure)).holder? id =
      some (name, .subscriber other closure) := by
  have hid : sub.raw = some id := by
    rw [holder?] at h
    have htest := List.find?_some h
    exact of_decide_eq_true htest
  exact TextMap.find?_insert h (by simp [Handle.subscription?, hraw, hid])

theorem setHandle_again (s : Session) (name : String) (old new : Handle)
    (events : List (String × ReceiverEvent)) :
    ((s.setHandle name old).noting events).setHandle name new = (s.setHandle name new).noting events := by
  simp only [setHandle, noting, TextMap.insert_insert]

/-- A typed subscriber is called with every letter, one after the other. -/
theorem handOut_of_typed {sub : TypedSubscriber Inbound} {closure : Bool}
    (h : s.holder? id = some (name, .subscriber sub closure)) (letters : List Letter) :
    s.handOut id letters =
      (s.setHandle name (.subscriber (sub.heard (s.receiver name closure) letters) closure)).noting
        ((sub.callsFor (s.receiver name closure) letters).filterMap (s.callEvent? name closure)) := by
  induction letters generalizing s sub with
  | nil =>
    have hget : s.handles.get? name = some (.subscriber sub closure) :=
      TextMap.get?_eq_some_iff.mpr (List.mem_of_find?_eq_some h)
    change s = s.setHandle name (.subscriber sub closure)
    rw [setHandle, TextMap.insert_eq_self hget]
  | cons letter letters ih =>
    let receiver := s.receiver name closure
    let after := (sub.receive receiver letter.message).2
    let events := (sub.callsFor receiver [letter]).filterMap (s.callEvent? name closure)
    let next := (s.setHandle name (.subscriber after closure)).noting events
    have hfirst : s.receive id letter.message = next := receive_of_typed h letter
    have hholder : next.holder? id = some (name, .subscriber after closure) := holder?_setHandle h rfl
    have hcalls : sub.callsFor receiver (letter :: letters) =
        sub.callsFor receiver [letter] ++ after.callsFor receiver letters := rfl
    calc (s.receive id letter.message).handOut id letters
      _ = (next.setHandle name (.subscriber (after.heard receiver letters) closure)).noting
            ((after.callsFor receiver letters).filterMap (s.callEvent? name closure)) := by
          rw [hfirst]
          exact ih hholder
      _ = _ := by
          rw [setHandle_again, noting_noting, ← List.filterMap_append, ← hcalls]
          rfl

theorem handOut_of_nobody (h : s.holder? id = none) (letters : List Letter) :
    s.handOut id letters = s := by
  induction letters with
  | nil => rfl
  | cons letter letters ih =>
    have hfirst : s.receive id letter.message = s := by
      rw [holder?] at h
      simp only [receive, h]
    change (s.receive id letter.message).handOut id letters = s
    rw [hfirst, ih]

/-- What one turn of a delivery does. -/
structure HandsOut (s : Session) (id : PeerId) (n : Nat) : Prop where
  /-- The domain only loses the letters that are handed over. -/
  domain : (s.deliverUpTo id n).domain = (s.domain.run (List.replicate n (.deliver id))).2
  letters : Domain.received id (s.domain.run (List.replicate n (.deliver id))).1 =
    (s.domain.queue id).take n
  /-- Who comes next is the same when no receiver fails. -/
  schedule : (s.deliverUpTo id n).schedule = (s.steady.deliverUpTo id n).schedule
  /-- A receiver of messages is called once with every letter, and nothing else is changed. -/
  raw : ∀ name own channel, s.holder? id = some (name, .rawSubscriber own channel) →
    s.deliverUpTo id n =
      { s.noting (((s.domain.queue id).take n).map (s.rawEvent name)) with
        domain := (s.deliverUpTo id n).domain
        schedule := (s.deliverUpTo id n).schedule }
  /-- So is a receiver of objects, whose subscriber keeps its name, and nothing else is changed. -/
  typed : ∀ name sub closure, s.holder? id = some (name, .subscriber sub closure) →
    let receiver := s.receiver name closure
    let letters := (s.domain.queue id).take n
    s.deliverUpTo id n =
      { (s.setHandle name (.subscriber (sub.heard receiver letters) closure)).noting
          ((sub.callsFor receiver letters).filterMap (s.callEvent? name closure)) with
        domain := (s.deliverUpTo id n).domain
        schedule := (s.deliverUpTo id n).schedule } ∧
      (sub.callsFor receiver letters).map (·.letter) = letters ∧
      sub.callsFor {} letters = (sub.callsFor receiver letters).map Call.taken ∧
      (sub.heard receiver letters).outline = (sub.heard {} letters).outline

theorem handsOut (s : Session) (id : PeerId) (n : Nat) : s.HandsOut id n := by
  have hturn := deliverUpTo_eq s id n
  have hdomain := congrArg Session.domain hturn
  have hschedule := congrArg Session.schedule hturn
  refine ⟨hdomain, Domain.received_run_deliver s.domain id n, hschedule, ?_, ?_⟩
  · intro name own channel h
    rw [hdomain, hschedule, ← handOut_of_raw h]
    exact hturn
  · intro name sub closure h receiver letters
    obtain ⟨hheard, hcalls⟩ := TypedSubscriber.heard_outline (rfl : sub.outline = sub.outline) receiver {}
      letters
    refine ⟨?_, sub.letters_callsFor receiver letters, ?_, hheard⟩
    · rw [hdomain, hschedule, ← handOut_of_typed h]
      exact hturn
    · rw [hcalls, TypedSubscriber.taken_callsFor]

end Session

end TypedBus
