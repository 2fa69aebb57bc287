import TypedBus.Frame.Basic
import TypedBus.Payload.Basic
import TypedBus.Payload.Bincode
import TypedBus.Payload.Protobuf.Record

namespace TypedBus

inductive Layout
  | bincode (shape : Bincode.Shape)
  | protobuf (fields : List Protobuf.Field)
  /-- Texts that no codec takes: encoding fails with the text, decoding fails always. -/
  | refusing

namespace Layout

abbrev Val : Layout → Type
  | bincode shape => shape.Val
  | protobuf fields => Protobuf.Record fields
  | refusing => String

def kind : Layout → PayloadKind
  | bincode _ => .bincode
  | protobuf _ => .protobuf
  | refusing => .bincode

end Layout

/-- A type of objects on the bus. Its name is the tag that they carry by default, its layout fixes
the values and both directions of the codec. -/
structure Schema where
  name : String
  layout : Layout

namespace Schema

abbrev Val (schema : Schema) : Type := schema.layout.Val

def kind (schema : Schema) : PayloadKind := schema.layout.kind

def encode (schema : Schema) (value : schema.Val) : Except CodecError Bytes :=
  match schema, value with
  | ⟨_, .bincode shape⟩, value =>
    (Bincode.encodeWithin payloadLimit shape value).mapError .encode
  | ⟨_, .protobuf fields⟩, value => .ok (Protobuf.Record.encode fields value)
  | ⟨_, .refusing⟩, reason => .error (.encode reason)

def decode (schema : Schema) (data : Bytes) : Except CodecError schema.Val :=
  match schema with
  | ⟨_, .bincode shape⟩ => (Bincode.decode shape data).mapError fun e => .decode e.message
  | ⟨name, .protobuf fields⟩ =>
    (Protobuf.Record.decode fields data).mapError fun e => .decode (e.message name)
  | ⟨_, .refusing⟩ => .error (.decode "refused")

abbrev aMessage : Schema := ⟨"AMessage", .bincode (.pair .i32 .i32)⟩

abbrev blob : Schema := ⟨"Blob", .bincode (.pair .i32 .bytes)⟩

abbrev telemetry : Schema := ⟨"Telemetry", .bincode .f64⟩

abbrev presence : Schema := ⟨"Presence", .bincode (.pair .text .bool)⟩

abbrev ping : Schema := ⟨"Ping", .bincode .u32⟩

abbrev pair8 : Schema := ⟨"Pair", .bincode (.pair .u8 .u8)⟩

abbrev pair16 : Schema := ⟨"Pair", .bincode (.pair .u16 .u16)⟩

abbrev wrapper : Schema := ⟨"nested.Wrapper", .bincode .u8⟩

abbrev nameless : Schema := ⟨"", .bincode .u8⟩

abbrev failing : Schema := ⟨"Failing", .refusing⟩

abbrev chatMessage : Schema :=
  ⟨"ChatMessage", .protobuf [⟨1, "sender", .text⟩, ⟨2, "payload", .bytes⟩]⟩

abbrev greeting : Schema := ⟨"Greeting", .protobuf [⟨1, "text", .text⟩]⟩

end Schema

end TypedBus
