import TypedBus.Frame.Basic
import TypedBus.Schema
import TypedBus.Proofs.Payload.Bincode
import TypedBus.Proofs.Payload.Protobuf

namespace TypedBus.Schema

variable {schema : Schema}

/-- Whether objects of a schema can be written and read back. -/
def Codable (schema : Schema) : Prop :=
  match schema.layout with
  | .bincode _ => True
  | .protobuf fields => Protobuf.Record.Numbered fields
  | .refusing => False

/-- The schemas that come with the bus, without the one that refuses. -/
def covered : List Schema :=
  [aMessage, blob, telemetry, presence, ping, pair8, pair16, wrapper, nameless, chatMessage, greeting]

theorem codable_of_mem_covered (h : schema ∈ covered) : schema.Codable := by
  have hchat : Protobuf.Record.Numbered [⟨1, "sender", .text⟩, ⟨2, "payload", .bytes⟩] := by
    simp [Protobuf.Record.Numbered, Protobuf.ValidNumber, Protobuf.keyLimit]
  have hgreeting : Protobuf.Record.Numbered [⟨1, "text", .text⟩] := by
    simp [Protobuf.Record.Numbered, Protobuf.ValidNumber, Protobuf.keyLimit]
  simp only [covered, List.mem_cons, List.not_mem_nil, or_false] at h
  rcases h with rfl | rfl | rfl | rfl | rfl | rfl | rfl | rfl | rfl | rfl | rfl
  all_goals first | exact trivial | exact hchat | exact hgreeting

theorem lt_of_le_payloadLimit {n : Nat} (h : n ≤ payloadLimit) : n < 2 ^ 64 :=
  Nat.lt_of_le_of_lt h (by decide)

/-- A value of more bytes than the fixed-width format writes. The tagged wire format has no such limit. -/
def Overlong : (schema : Schema) → schema.Val → Prop
  | ⟨_, .bincode shape⟩, value => payloadLimit < (Bincode.encode shape value).length
  | ⟨_, .protobuf _⟩, _ => False
  | ⟨_, .refusing⟩, _ => False

theorem encode_of_overlong {value : schema.Val} (h : schema.Overlong value) :
    schema.encode value = .error (.encode Bincode.tooLong) := by
  obtain ⟨name, layout⟩ := schema
  cases layout with
  | bincode shape =>
    have hlong : ¬(Bincode.encode shape value).length ≤ payloadLimit := Nat.not_le.mpr h
    simp only [encode, Bincode.encodeWithin, hlong, if_false, Except.mapError]
  | protobuf fields => cases h
  | refusing => cases h

theorem encode_of_codable (h : schema.Codable) {value : schema.Val} (hsize : ¬schema.Overlong value) :
    ∃ data, schema.encode value = .ok data := by
  obtain ⟨name, layout⟩ := schema
  cases layout with
  | bincode shape =>
    have hshort : (Bincode.encode shape value).length ≤ payloadLimit := Nat.not_lt.mp hsize
    simp only [encode, Bincode.encodeWithin, hshort, if_true, Except.mapError, Except.ok.injEq,
      exists_eq']
  | protobuf fields => exact ⟨_, rfl⟩
  | refusing => cases h

/-- What is written in the fixed-width format are the bytes of the value, and not too many. -/
theorem encode_bincode_iff {name : String} {shape : Bincode.Shape} {value : shape.Val} {data : Bytes} :
    encode ⟨name, .bincode shape⟩ value = .ok data ↔
      data = Bincode.encode shape value ∧ data.length ≤ payloadLimit := by
  simp only [encode, Bincode.encodeWithin]
  split
  · rename_i hshort
    simp only [Except.mapError, Except.ok.injEq]
    constructor
    · rintro rfl
      exact ⟨rfl, hshort⟩
    · exact fun h => h.1.symm
  · rename_i hlong
    simp only [Except.mapError, reduceCtorEq, false_iff]
    rintro ⟨rfl, hshort⟩
    exact hlong hshort

/-- An object is read back from its payload, unless that is too long for any length to tell. -/
theorem decode_of_encode (h : schema.Codable) {value : schema.Val} {data : Bytes}
    (he : schema.encode value = .ok data) (hsize : data.length < 2 ^ 64) :
    schema.decode data = .ok value := by
  obtain ⟨name, layout⟩ := schema
  cases layout with
  | bincode shape =>
    obtain ⟨rfl, -⟩ := encode_bincode_iff.mp he
    unfold decode
    simp only [Bincode.decode_encode hsize, Except.mapError]
  | protobuf fields =>
    cases he
    unfold decode
    simp only [Protobuf.Record.decode_encode h _ hsize, Except.mapError]
  | refusing => cases h

theorem mapError_eq_ok_iff {α ε ε' : Type} {f : ε → ε'} {result : Except ε α} {a : α} :
    result.mapError f = .ok a ↔ result = .ok a := by
  cases result <;> simp [Except.mapError]

section FixedWidth

variable {name : String} {shape : Bincode.Shape} {value : shape.Val} {data : Bytes}

theorem decode_bincode_iff :
    decode ⟨name, .bincode shape⟩ data = .ok value ↔ Bincode.decode shape data = .ok value :=
  mapError_eq_ok_iff

theorem encode_of_decode_bincode (hsize : data.length ≤ payloadLimit)
    (h : decode ⟨name, .bincode shape⟩ data = .ok value) :
    encode ⟨name, .bincode shape⟩ value = .ok data :=
  encode_bincode_iff.mpr ⟨Bincode.eq_encode_of_decode (decode_bincode_iff.mp h), hsize⟩

/-- What a payload starts with is no payload. -/
theorem decode_truncated {cut more : Bytes} (hmore : more ≠ [])
    (he : encode ⟨name, .bincode shape⟩ value = .ok (cut ++ more)) :
    ∃ e, decode ⟨name, .bincode shape⟩ cut = .error e := by
  cases hd : decode ⟨name, .bincode shape⟩ cut with
  | error e => exact ⟨e, rfl⟩
  | ok other =>
    obtain ⟨hwhole, hsize⟩ := encode_bincode_iff.mp he
    obtain rfl := Bincode.eq_encode_of_decode (decode_bincode_iff.mp hd)
    have hlength := lt_of_le_payloadLimit hsize
    rw [hwhole] at hlength
    exact absurd (Bincode.encode_eq_of_append hlength hwhole.symm) hmore

/-- What starts with a payload is no payload. -/
theorem decode_extended {more : Bytes} (hmore : more ≠ [])
    (he : encode ⟨name, .bincode shape⟩ value = .ok data) :
    decode ⟨name, .bincode shape⟩ (data ++ more) =
      .error (.decode Bincode.Fault.trailingBytes.message) := by
  obtain ⟨rfl, hsize⟩ := encode_bincode_iff.mp he
  unfold decode
  simp only [Bincode.decode_encode_append (lt_of_le_payloadLimit hsize) hmore, Except.mapError]

/-- In the fixed-width format a payload is read as a value if and only if the value is written as that
payload. So no two payloads are read as the same value, and a payload that is cut short or that goes on
behind its end is refused. -/
theorem read_iff_written (value : shape.Val) (hsize : data.length ≤ payloadLimit) :
    (decode ⟨name, .bincode shape⟩ data = .ok value ↔
      encode ⟨name, .bincode shape⟩ value = .ok data) ∧
    (∀ other, decode ⟨name, .bincode shape⟩ data = .ok value →
      decode ⟨name, .bincode shape⟩ other = .ok value → other = data) ∧
    (encode ⟨name, .bincode shape⟩ value = .ok data →
      (∀ cut more, data = cut ++ more → more ≠ [] →
        ∃ e, decode ⟨name, .bincode shape⟩ cut = .error e) ∧
      ∀ more, more ≠ [] →
        decode ⟨name, .bincode shape⟩ (data ++ more) =
          .error (.decode Bincode.Fault.trailingBytes.message)) := by
  refine ⟨⟨encode_of_decode_bincode hsize, ?_⟩, ?_, ?_⟩
  · intro he
    have hcodable : Codable ⟨name, .bincode shape⟩ := trivial
    exact decode_of_encode hcodable he (lt_of_le_payloadLimit hsize)
  · intro other hdata hother
    rw [Bincode.eq_encode_of_decode (decode_bincode_iff.mp hdata)]
    exact Bincode.eq_encode_of_decode (decode_bincode_iff.mp hother)
  · intro he
    refine ⟨?_, fun more hmore => decode_extended hmore he⟩
    rintro cut more rfl hmore
    exact decode_truncated hmore he

theorem read_iff_written_sample :
    ([2, 0, 0, 0, 0, 0, 0, 0, 195, 164, 1] : Bytes).length ≤ payloadLimit ∧
      presence.encode ("ä", true) = .ok [2, 0, 0, 0, 0, 0, 0, 0, 195, 164, 1] ∧
      presence.decode [2, 0, 0, 0, 0, 0, 0, 0, 195, 164, 1] = .ok ("ä", true) ∧
      (∃ e, presence.decode [2, 0, 0, 0, 0, 0, 0, 0, 195] = .error e) ∧
      presence.decode [2, 0, 0, 0, 0, 0, 0, 0, 195, 164, 1, 0] =
        .error (.decode Bincode.Fault.trailingBytes.message) := by
  have hsize : ([2, 0, 0, 0, 0, 0, 0, 0, 195, 164, 1] : Bytes).length ≤ payloadLimit := by decide
  have he : presence.encode ("ä", true) = .ok [2, 0, 0, 0, 0, 0, 0, 0, 195, 164, 1] := rfl
  obtain ⟨hiff, -, hrest⟩ := @read_iff_written "Presence" (.pair .text .bool) _ ("ä", true) hsize
  obtain ⟨htruncated, hextended⟩ := hrest he
  exact ⟨hsize, he, hiff.mpr he, htruncated _ [164, 1] rfl (by simp), hextended [0] (by simp)⟩

end FixedWidth

section Tagged

open Protobuf

variable {name : String} {fields : List Field}

theorem decode_protobuf_iff {record : Record fields} {data : Bytes} :
    decode ⟨name, .protobuf fields⟩ data = .ok record ↔ Record.decode fields data = .ok record :=
  mapError_eq_ok_iff

/-- In the tagged wire format a record is read back from its payload, also when fields with unknown
numbers have been put between its entries, and of two payloads one after the other the second one is
read over the first. Only what is too long for any length to tell is left out. -/
theorem records_can_be_extended (hfields : Record.Numbered fields) (first second : Record fields) :
    ∃ a b, encode ⟨name, .protobuf fields⟩ first = .ok a ∧
      encode ⟨name, .protobuf fields⟩ second = .ok b ∧
      a = (Record.entriesOf fields first).flatMap Entry.bytes ∧
      (a.length < 2 ^ 64 →
        decode ⟨name, .protobuf fields⟩ a = .ok first ∧
        (∀ input, ExtendedForm fields (Record.entriesOf fields first) input →
          decode ⟨name, .protobuf fields⟩ input = .ok first) ∧
        (b.length < 2 ^ 64 →
          decode ⟨name, .protobuf fields⟩ (a ++ b) = .ok (Record.overlay fields first second))) := by
  refine ⟨Record.encode fields first, Record.encode fields second, rfl, rfl,
    Record.encode_eq_flatMap fields first, ?_⟩
  intro hfirst
  refine ⟨?_, ?_, ?_⟩
  · exact decode_protobuf_iff.mpr (Record.decode_encode hfields first hfirst)
  · intro input hinput
    exact decode_protobuf_iff.mpr (Record.decode_extended hfields hfirst hinput)
  · intro hsecond
    exact decode_protobuf_iff.mpr (Record.decode_append hfields hfirst hsecond
      (Record.extendedForm_encode fields first) (Record.extendedForm_encode fields second))

/-- A group of the number 3, in which a zero is spelled in two groups of bits. -/
theorem fieldForm_group : FieldForm 3 [27, 8, 128, 0, 28] := by
  have key {number : Nat} (wire : WireType) {b : UInt8} (hvalid : ValidNumber number)
      (hb : keyBytes number wire = [b]) : KeyForm number wire [b] :=
    hb ▸ keyForm_keyBytes hvalid wire
  have hinside : KeyForm 1 .varint [8] := key .varint ⟨by decide, by decide⟩ (varint_of_lt (by decide))
  have hzero : NumberForm 0 [128, 0] :=
    ⟨⟨[128], 0, rfl, by simp, by decide⟩, by decide, rfl, by decide⟩
  exact .group (key .startGroup ⟨by decide, by decide⟩ (varint_of_lt (by decide)))
    (.plain hinside (.varint hzero) .nil)
    (key .endGroup ⟨by decide, by decide⟩ (varint_of_lt (by decide)))

theorem records_can_be_extended_sample :
    Record.Numbered [⟨1, "sender", .text⟩, ⟨2, "payload", .bytes⟩] ∧
      chatMessage.encode ("hi", [7], ()) = .ok [10, 2, 104, 105, 18, 1, 7] ∧
      chatMessage.decode [10, 2, 104, 105, 18, 1, 7] = .ok ("hi", [7], ()) ∧
      chatMessage.decode [10, 2, 104, 105, 27, 8, 128, 0, 28, 18, 1, 7] = .ok ("hi", [7], ()) ∧
      chatMessage.decode ([10, 2, 104, 105, 18, 1, 7] ++ [18, 1, 9]) = .ok ("hi", [9], ()) := by
  have hfields : Record.Numbered [⟨1, "sender", .text⟩, ⟨2, "payload", .bytes⟩] := by
    simp [Record.Numbered, ValidNumber, keyLimit]
  obtain ⟨a, b, hfirst, hsecond, -, hread⟩ :=
    @records_can_be_extended "ChatMessage" _ hfields ("hi", [7], ()) ("", [9], ())
  have hchat : chatMessage.encode ("hi", [7], ()) = .ok [10, 2, 104, 105, 18, 1, 7] := by
    decide +kernel
  have hnext : chatMessage.encode ("", [9], ()) = .ok [18, 1, 9] := by decide +kernel
  have hsender : Entry.bytes ⟨⟨1, "sender", .text⟩, "hi"⟩ = [10, 2, 104, 105] := by decide +kernel
  have hpayload : Entry.bytes ⟨⟨2, "payload", .bytes⟩, [7]⟩ = [18, 1, 7] := by decide +kernel
  have hrest : ExtendedForm [⟨1, "sender", .text⟩, ⟨2, "payload", .bytes⟩]
      [⟨⟨2, "payload", .bytes⟩, [7]⟩] ([27, 8, 128, 0, 28] ++ ([18, 1, 7] ++ [])) :=
    .unknown (by decide) fieldForm_group (hpayload ▸ .entry .nil)
  have hpadded : ExtendedForm [⟨1, "sender", .text⟩, ⟨2, "payload", .bytes⟩]
      [⟨⟨1, "sender", .text⟩, "hi"⟩, ⟨⟨2, "payload", .bytes⟩, [7]⟩]
      ([10, 2, 104, 105] ++ ([27, 8, 128, 0, 28] ++ ([18, 1, 7] ++ []))) := hsender ▸ .entry hrest
  obtain rfl := Except.ok.inj (hfirst.symm.trans hchat)
  obtain rfl := Except.ok.inj (hsecond.symm.trans hnext)
  obtain ⟨hback, hextended, hover⟩ := hread (by decide)
  exact ⟨hfields, hchat, hback, hextended _ hpadded, hover (by decide)⟩

end Tagged

end TypedBus.Schema
