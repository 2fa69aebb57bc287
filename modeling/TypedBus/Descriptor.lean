import TypedBus.Schema
import TypedBus.Text.Quoted

namespace TypedBus

structure Descriptor (M : Type) where
  name : String
  kind : PayloadKind
  decode : Bytes → Except CodecError M

/-- What a receiver is handed: an object of a schema, or what a descriptor of its own makes of the
payload. -/
inductive Inbound
  | object (schema : Schema) (value : schema.Val)
  | constant (n : Int)
  | text (text : String)

namespace Descriptor

/-- The name and kind of a descriptor, for a reader of logs. -/
def debugText {M : Type} (d : Descriptor M) : String :=
  "TypeDescriptor \x7b type_name: " ++ Text.quoted d.name ++ ", kind: " ++ d.kind.title ++
    ", .. \x7d"

def ofSchema {M : Type} (schema : Schema) (wrap : schema.Val → M) : Descriptor M where
  name := schema.name
  kind := schema.kind
  decode data := (schema.decode data).map wrap

def of (schema : Schema) : Descriptor Inbound := ofSchema schema (.object schema)

/-- Decodes every payload to one number. -/
def constant (name : String) (kind : PayloadKind) (n : Int) : Descriptor Inbound :=
  ⟨name, kind, fun _ => .ok (.constant n)⟩

/-- Decodes payloads that are UTF-8. -/
def text (name : String) (kind : PayloadKind) : Descriptor Inbound where
  name := name
  kind := kind
  decode data := match Text.ofUtf8? data with
    | some text => .ok (.text text)
    | none => .error (.decode "not utf8")

def refusing (name : String) (kind : PayloadKind) (reason : String) : Descriptor Inbound :=
  ⟨name, kind, fun _ => .error (.decode reason)⟩

end Descriptor

end TypedBus
