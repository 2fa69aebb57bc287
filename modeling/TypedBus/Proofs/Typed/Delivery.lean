import TypedBus.Proofs.Payload.Schema
import TypedBus.Proofs.Transport.Completion
import TypedBus.Proofs.Transport.Delivery
import TypedBus.Proofs.Typed.Listening
import TypedBus.Proofs.Typed.Orders

namespace TypedBus

open Domain

variable {G M : Type} {d d' : Domain G} {trace : Trace G}

/-- The message that carries a payload: the metadata are the publisher's, with the tag as the type. -/
def TypedPublisher.message (p : TypedPublisher) (tag : String) (data : Bytes) : Message :=
  ⟨data, p.fixed.insert Message.typeKey tag⟩

theorem TypedPublisher.typeTag_message (p : TypedPublisher) (tag : String) (data : Bytes) :
    (p.message tag data).typeTag = some tag := by
  simp [message, Message.typeTag, Message.getMeta, TextMap.get?_insert]

theorem TypedPublisher.getMeta_message (p : TypedPublisher) (tag : String) (data : Bytes) (key : String) :
    (p.message tag data).getMeta key =
      if key = Message.typeKey then some tag else p.fixed.get? key :=
  TextMap.get?_insert _ _ _ _

section Sending

variable {p : TypedPublisher} {channel tag : String} {schema : Schema} {value : schema.Val} {data : Bytes}

/-- To send an object is to publish the message that carries it. -/
theorem TypedPublisher.sendObject_eq_publish (htag : tag ≠ "") (hencode : schema.encode value = .ok data)
    (d : Domain G) :
    p.sendObject d (some tag) ⟨schema, value⟩ =
      ((d.publish p.raw (p.message tag data)).1.mapError .transport,
        (d.publish p.raw (p.message tag data)).2) := by
  have hprepare : p.prepare (some tag) ⟨schema, value⟩ = .ok (p.message tag data) := by
    simp only [prepare, Option.getD_some, htag, hencode, if_false]
    rfl
  simp only [sendObject, hprepare, send, admits_prepare hprepare, if_true]

theorem TypedPublisher.sendObject_of_overlong (htag : tag ≠ "") (h : schema.Overlong value)
    (d : Domain G) :
    p.sendObject d (some tag) ⟨schema, value⟩ =
      (.error (.encode tag (.encode Bincode.tooLong)), d) := by
  simp only [sendObject, prepare, Option.getD_some, htag, Schema.encode_of_overlong h, if_false]

/-- What a publisher sends is accepted under the next ticket, if it fits. -/
theorem TypedPublisher.sendObject_of_fits (hopen : d.endpoints.poisoned = false)
    (hpublisher : d.channelOf? p.raw = some channel) (htag : tag ≠ "")
    (hencode : schema.encode value = .ok data)
    (haccept : accept d.config (p.message tag data) = .ok (p.message tag data)) :
    ∃ d', p.sendObject d (some tag) ⟨schema, value⟩ = (.ok d.nextTicket, d') ∧
      d.perform (.publish p.raw (p.message tag data)) =
        (.started d.nextTicket, d') := by
  have hpublish : ∃ d', d.publish p.raw (p.message tag data) =
      (.ok d.nextTicket, d') := by
    simp only [publish, hpublisher, haccept, read_of_open hopen]
    exact ⟨_, rfl⟩
  obtain ⟨d', hpublish⟩ := hpublish
  refine ⟨d', ?_, ?_⟩
  · rw [sendObject_eq_publish htag hencode, hpublish]
    rfl
  · simp only [perform, hpublish]

theorem TypedPublisher.sendObject_of_poisoned (hpoisoned : d.endpoints.poisoned = true)
    (hpublisher : d.channelOf? p.raw = some channel) (htag : tag ≠ "")
    (hencode : schema.encode value = .ok data)
    (haccept : accept d.config (p.message tag data) = .ok (p.message tag data)) :
    p.sendObject d (some tag) ⟨schema, value⟩ = (.error (.transport unreadable), d) := by
  rw [sendObject_eq_publish htag hencode]
  simp only [publish, hpublisher, haccept, read_of_poisoned hpoisoned]
  rfl

end Sending

/-- A message of a known type is handed over as the object that it was made from. -/
theorem Dispatcher.receive_of_resolve {dispatcher : Dispatcher M} {receiver : Receiver M}
    {schema : Schema} {value : schema.Val} {m : Message} {tag : String} {wrap : schema.Val → M}
    (htype : m.typeTag = some tag) (htag : tag ≠ "") (hdecode : schema.decode m.data = .ok value)
    (hresolve : (dispatcher.registry.resolve tag).1 = .ok (.ofSchema schema wrap))
    (htakes : receiver.failsOnObject (wrap value) m = false) :
    (dispatcher.receive receiver m).1 = .object (wrap value) ∧
      (dispatcher.receive receiver m).2.metrics = dispatcher.metrics.recordDelivered := by
  have hdispatch : (dispatch dispatcher.registry m).1 = .ok (wrap value) := by
    rw [dispatch_of_tagged htype htag, hresolve]
    simp [objectOf, Descriptor.ofSchema, hdecode, Except.map, Except.mapError]
  rw [receive_of_ok hdispatch, htakes]
  exact ⟨rfl, rfl⟩

/-- A dispatcher that knows the type of a letter has handed it over as an object. -/
theorem Handling.Faithful.object {receiver : Receiver M} {h : Handling M}
    (hfaithful : h.Faithful receiver) {schema : Schema} {value : schema.Val} {tag : String}
    {wrap : schema.Val → M} (htype : h.letter.message.typeTag = some tag) (htag : tag ≠ "")
    (hdecode : schema.decode h.letter.message.data = .ok value)
    (hresolve : (h.before.registry.resolve tag).1 = .ok (.ofSchema schema wrap))
    (htakes : receiver.failsOnObject (wrap value) h.letter.message = false) :
    h.call = .object (wrap value) ∧ h.after.metrics = h.before.metrics.recordDelivered ∧
      h.isDelivered receiver = true := by
  obtain ⟨hcall, hmetrics⟩ :=
    Dispatcher.receive_of_resolve htype htag hdecode hresolve htakes
  rw [hfaithful] at hcall hmetrics
  change h.call = _ at hcall
  refine ⟨hcall, hmetrics, ?_⟩
  simp [isDelivered, hcall, htakes]

/-- While a subscriber listens, a publication can be carried to its end and the queue be emptied. -/
theorem Listening.finishes (receiver : Receiver M) {c : TransportConfig} {actions : List (Action G)}
    {w : Listening G M} {id : PeerId} (hrun : (start c).run actions = (trace, w.domain))
    (hraw : w.subscriber.raw = some id) {events : List (Event G M)}
    (hn : asked (actions ++ Listening.actions events) < 2 ^ 64) (ticket : Nat) :
    ∃ finish : List (Action G), (∀ a ∈ finish, movesOn a = true) ∧
      ((w.run receiver events).run receiver (finish.map .act)).domain.publication? ticket = none ∧
      ((w.run receiver events).run receiver (finish.map .act)).domain.queue id = [] := by
  have hall := Domain.run_append (start c) actions (Listening.actions events)
  rw [hrun] at hall
  obtain ⟨finish, hmoves, hdone, hempty⟩ := Domain.finishes hall hn ticket id
  obtain ⟨hlater, -⟩ := handled_run receiver hraw (events ++ finish.map .act)
  rw [run_append, actions_append, Domain.run_append] at hlater
  refine ⟨finish, hmoves, ?_, ?_⟩
  · rw [hlater]
    exact hdone
  · rw [hlater]
    exact hempty

/-- What becomes of an object that was sent under a tag, for a subscriber that has handled nothing
since then but what `w` says. -/
structure ReceivedOnce (receiver : Receiver M) (sub : TypedSubscriber M) (id : PeerId) (tag : String)
    (schema : Schema) (value : schema.Val) (letter : Letter) (w : Listening G M) : Prop where
  /-- The publication can be carried to its end and the queue be emptied. -/
  completes : ∃ finish : List (Action G), (∀ a ∈ finish, movesOn a = true) ∧
    (w.run receiver (finish.map .act)).domain.publication? letter.ticket = none ∧
    (w.run receiver (finish.map .act)).domain.queue id = []
  /-- Once that is so, the letter has led to one call, with the object if its type is known then. -/
  once : w.domain.publication? letter.ticket = none → w.domain.queue id = [] →
    ∃ h, w.handled.filter (·.letter.ticket = letter.ticket) = [h] ∧ h.letter = letter ∧
      ∀ wrap : schema.Val → M, (h.before.registry.resolve tag).1 = .ok (.ofSchema schema wrap) →
        receiver.failsOnObject (wrap value) letter.message = false →
        h.call = .object (wrap value) ∧ h.after.metrics = h.before.metrics.recordDelivered ∧
          0 < w.handled.countP (Handling.isDelivered receiver)
  delivered : w.subscriber.dispatcher.metrics.delivered = sub.dispatcher.metrics.delivered +
    UInt64.ofNat (w.handled.countP (Handling.isDelivered receiver))

/-- A letter that is on its way to a subscriber who stays is received once. -/
theorem received_once {c : TransportConfig} {actions : List (Action G)}
    (hrun : (start c).run actions = (trace, d)) {p : TypedPublisher} {channel : String}
    (hpublisher : d.channelOf? p.raw = some channel) {tag : String} {data : Bytes}
    (hpublish : d.perform (.publish p.raw (p.message tag data)) = (.started d.nextTicket, d'))
    {sub : TypedSubscriber M} {id : PeerId} (hraw : sub.raw = some id) (hbound : sub.isBound d = true)
    (hlisted : ⟨id, sub.channel⟩ ∈ d.endpoints.value.subscriptions)
    (hcovers : sub.channel.toList <+: channel.toList) (htag : tag ≠ "") {schema : Schema}
    {value : schema.Val} (hdecode : schema.decode data = .ok value) (receiver : Receiver M)
    {events : List (Event G M)} (hn : asked (actions ++ Listening.actions events) < 2 ^ 64)
    (hstay : .act (.unsubscribe id) ∉ events) :
    ReceivedOnce receiver sub id tag schema value ⟨d.nextTicket, p.raw, p.message tag data⟩
      (Listening.run receiver ⟨d', sub, []⟩ events) := by
  have hactive : d.isActive id = true := by
    unfold TypedSubscriber.isBound at hbound
    rwa [hraw] at hbound
  have haccounted : Listening.Accounted receiver sub.dispatcher.metrics.delivered
      (Listening.run receiver ⟨d', sub, []⟩ events) := by
    refine Listening.Accounted.run ⟨?_, ?_⟩ events
    · intro h hh
      cases hh
    · simp
  have hstarted : (start c).run (actions ++ [.publish p.raw (p.message tag data)]) =
      (trace ++ [(.publish p.raw (p.message tag data), .started d.nextTicket)], d') := by
    rw [Domain.run_append, hrun]
    simp [Domain.run, hpublish]
  have hnow : asked ((actions ++ [.publish p.raw (p.message tag data)]) ++
      Listening.actions events) < 2 ^ 64 := by
    simpa [asked, asks, Action.asksId] using hn
  obtain ⟨hdomain, hhandled⟩ := Listening.handled_run receiver (w := ⟨d', sub, []⟩) hraw events
  refine ⟨?_, ?_, haccounted.delivered⟩
  · exact Listening.finishes receiver (w := ⟨d', sub, []⟩) hstarted hraw hnow d.nextTicket
  · intro hdone hempty
    rw [hdomain] at hdone hempty
    have hremains : ∀ o, (.unsubscribe id, o) ∉ (d'.run (Listening.actions events)).1 := by
      intro o hm
      have ha := List.mem_map_of_mem (f := Prod.fst) hm
      rw [actions_run] at ha
      exact hstay (Listening.mem_actions ha)
    have hreceived := letter_is_received hrun hpublisher hpublish hactive hlisted
      (Channel.covers_iff.mpr hcovers) rfl hn hremains hdone hempty
    rw [List.map_nil, List.nil_append] at hhandled
    rw [← hhandled, List.filter_map, List.map_eq_singleton_iff] at hreceived
    obtain ⟨h, hsingle, hletter⟩ := hreceived
    refine ⟨h, hsingle, hletter, ?_⟩
    intro wrap hresolve htakes
    have hmem : h ∈ (Listening.run receiver ⟨d', sub, []⟩ events).handled :=
      (List.mem_filter.mp (hsingle ▸ List.mem_singleton.mpr rfl)).1
    have hmessage : h.letter.message = p.message tag data := congrArg Letter.message hletter
    obtain ⟨hcall, hmetrics, hdelivered⟩ := (haccounted.faithful h hmem).object
      (hmessage ▸ p.typeTag_message tag data) htag (hmessage ▸ hdecode) hresolve
      (hmessage ▸ htakes)
    exact ⟨hcall, hmetrics, List.countP_pos_iff.mpr ⟨h, hmem, hdelivered⟩⟩

/-- An object of a schema that comes with the bus, sent by a publisher under a tag while a subscriber
with a matching channel is bound and the lock on the endpoints can be had, is received by it exactly
once, as it was sent and with the metadata that the publisher was told last to fix, whatever else happens,
as long as the subscriber stays. An object that is too long to be written is refused, and behind a poisoned
lock every object is; nothing changes then. -/
theorem sent_object_is_received {c : TransportConfig} {actions : List (Action G)}
    (hrun : (start c).run actions = (trace, d)) (p : TypedPublisher)
    (orders : List TypedPublisher.Order) {channel : String}
    (hpublisher : d.channelOf? p.raw = some channel)
    {sub : TypedSubscriber M} {id : PeerId} (hraw : sub.raw = some id) (hbound : sub.isBound d = true)
    (hlisted : ⟨id, sub.channel⟩ ∈ d.endpoints.value.subscriptions)
    (hcovers : sub.channel.toList <+: channel.toList) {schema : Schema}
    (hschema : schema ∈ Schema.covered) (value : schema.Val) {tag : String} (htag : tag ≠ "") :
    let q := orders.foldl TypedPublisher.heed p
    (∀ data key, (q.message tag data).getMeta key =
      if key = Message.typeKey then some tag
      else TypedPublisher.lastUnder key orders (p.fixed.get? key)) ∧
    (schema.Overlong value →
      q.sendObject d (some tag) ⟨schema, value⟩ =
        (.error (.encode tag (.encode Bincode.tooLong)), d)) ∧
    (¬schema.Overlong value → ∃ data, schema.encode value = .ok data ∧
      (data.length ≤ c.maxPayloadSize.toNat →
        (c.wireEncoding = true →
          ∃ size, Frame.bodySize (q.message tag data) = .ok size) →
        (d.endpoints.poisoned = true →
          q.sendObject d (some tag) ⟨schema, value⟩ = (.error (.transport unreadable), d)) ∧
        (d.endpoints.poisoned = false →
          ∃ ticket d', q.sendObject d (some tag) ⟨schema, value⟩ = (.ok ticket, d') ∧
            ∀ (receiver : Receiver M) (events : List (Event G M)),
              asked (actions ++ Listening.actions events) < 2 ^ 64 →
              .act (.unsubscribe id) ∉ events →
              ReceivedOnce receiver sub id tag schema value
                ⟨ticket, p.raw, (q.message tag data)⟩
                (Listening.run receiver ⟨d', sub, []⟩ events)))) := by
  intro q
  have hsender : q.raw = p.raw := p.raw_foldl_heed orders
  rw [← hsender] at hpublisher
  refine ⟨fun data key => ?_, fun hlong => q.sendObject_of_overlong htag hlong d, fun hshort => ?_⟩
  · rw [q.getMeta_message, p.get?_foldl_heed]
  have hcodable := Schema.codable_of_mem_covered hschema
  obtain ⟨data, hencode⟩ := Schema.encode_of_codable hcodable hshort
  refine ⟨data, hencode, ?_⟩
  intro hsize hframe
  have hconfig := (bounded_run hrun).1
  have haccept : accept d.config (q.message tag data) = .ok (q.message tag data) := by
    rw [hconfig]
    exact accept_of_fits hsize hframe
  refine ⟨fun hpoisoned => q.sendObject_of_poisoned hpoisoned hpublisher htag hencode haccept, ?_⟩
  intro hopen
  obtain ⟨d', hsend, hpublish⟩ :=
    TypedPublisher.sendObject_of_fits hopen hpublisher htag hencode haccept
  rw [← hsender]
  refine ⟨d.nextTicket, d', hsend, ?_⟩
  intro receiver events hn hstay
  exact received_once hrun hpublisher hpublish hraw hbound hlisted hcovers htag
    (Schema.decode_of_encode hcodable hencode (Nat.lt_of_le_of_lt hsize (UInt64.toNat_lt _)))
    receiver hn hstay

def sampleActions : List (Action Unit) := [.advertise "fooChannel", .subscribe "foo" true]

def samplePublisher : TypedPublisher := { raw := ⟨1⟩, fixed := TextMap.insert ∅ "sender" "bob" }

def sampleOrders : List TypedPublisher.Order :=
  [.putMeta "room" "7", .putMeta "sender" "alice", .eraseMeta "room"]

def sampleSubscriber : TypedSubscriber Inbound where
  raw := some ⟨2⟩
  channel := "foo"
  dispatcher := { registry := (Registry.register {} "A" (.of .aMessage)).2 }

theorem sent_object_is_received_sample :
    ∃ trace d ticket d' w m, (start { wireEncoding := true }).run sampleActions = (trace, d) ∧
      (sampleOrders.foldl TypedPublisher.heed samplePublisher).sendObject d (some "A")
        ⟨.aMessage, (42, 43)⟩ = (.ok ticket, d') ∧
      Listening.run {} ⟨d', sampleSubscriber, []⟩ [.act (.pass 0 ⟨2⟩), .act (.deliver ⟨2⟩)] = w ∧
      ReceivedOnce {} sampleSubscriber ⟨2⟩ "A" .aMessage (42, 43) ⟨ticket, ⟨1⟩, m⟩ w ∧
      m.data = [42, 0, 0, 0, 43, 0, 0, 0] ∧ m.getMeta "sender" = some "alice" ∧
      m.getMeta "room" = none ∧ m.typeTag = some "A" ∧
      w.domain.publication? ticket = none ∧ w.domain.queue ⟨2⟩ = [] := by
  have hrun : (start { wireEncoding := true }).run sampleActions =
    (((start { wireEncoding := true }).run sampleActions).1,
      ((start { wireEncoding := true }).run sampleActions).2) := rfl
  have hpublisher : ((start { wireEncoding := true }).run sampleActions).2.channelOf?
    samplePublisher.raw = some "fooChannel" := rfl
  have hraw : sampleSubscriber.raw = some ⟨2⟩ := rfl
  have hschema : .aMessage ∈ Schema.covered := by simp [Schema.covered]
  have htag : "A" ≠ "" := by decide
  obtain ⟨hmeta, -, hshort⟩ := sent_object_is_received hrun samplePublisher sampleOrders hpublisher
    hraw rfl (by decide) (by decide) hschema (42, 43) htag
  have hwritten : Schema.aMessage.encode (42, 43) = .ok [42, 0, 0, 0, 43, 0, 0, 0] := rfl
  have hnotlong : ¬Schema.aMessage.Overlong (42, 43) := by
    intro hlong
    rw [Schema.encode_of_overlong hlong] at hwritten
    cases hwritten
  obtain ⟨data, hdata, hfits⟩ := hshort hnotlong
  obtain rfl : [42, 0, 0, 0, 43, 0, 0, 0] = data := Except.ok.inj (hwritten.symm.trans hdata)
  obtain ⟨ticket, d', hsend, hreceived⟩ := (hfits (by decide) fun _ => ⟨_, rfl⟩).2 rfl
  have hreceived := hreceived {} [.act (.pass 0 ⟨2⟩), .act (.deliver ⟨2⟩)] (by decide) (by simp)
  refine ⟨_, _, ticket, d', _, _, hrun, hsend, rfl, hreceived, rfl, ?_, ?_, ?_, ?_⟩
  · exact (hmeta _ "sender").trans (by decide)
  · exact (hmeta _ "room").trans (by decide)
  · exact (hmeta _ Message.typeKey).trans (if_pos rfl)
  · obtain ⟨hticket, rfl⟩ := Prod.mk.inj hsend
    obtain rfl := Except.ok.inj hticket
    exact ⟨rfl, rfl⟩

end TypedBus
