import TypedBus.Config.Basic

namespace TypedBus

/-- The value of a variable, if it is set. -/
abbrev Environment := String → Option String

namespace Config

/-- A field's value: that of a variable when it is set, else the present one. -/
def fieldFrom {α : Type} (text? : Option String) (read : String → Except ConfigError α)
    (present : α) : Except ConfigError α :=
  match text? with
  | none => .ok present
  | some text => read text

def readWord (name text : String) : Except ConfigError UInt64 :=
  match Text.word? text with
  | some n => .ok n
  | none => .error (.environment s!"{name} 必须是有效的 usize 数字")

def readBool (name text : String) : Except ConfigError Bool :=
  match Text.bool? text with
  | some b => .ok b
  | none => .error (.environment s!"{name} 必须是 true 或 false")

def readPolicy (name text : String) : Except ConfigError DuplicatePolicy :=
  match DuplicatePolicy.parse text with
  | .ok policy => .ok policy
  | .error e => .error (.environment s!"{name}: {e.message}")

def overrideFrom (c : Config) (env : Environment) : Except ConfigError Config := do
  let domain := (env "UMUNDO_DOMAIN").getD c.transport.domain
  let capacity ← fieldFrom (env "UMUNDO_QUEUE_CAPACITY") (readWord "UMUNDO_QUEUE_CAPACITY")
    c.transport.queueCapacity
  let size ← fieldFrom (env "UMUNDO_MAX_PAYLOAD_SIZE") (readWord "UMUNDO_MAX_PAYLOAD_SIZE")
    c.transport.maxPayloadSize
  let wire ← fieldFrom (env "UMUNDO_WIRE_ENCODING") (readBool "UMUNDO_WIRE_ENCODING")
    c.transport.wireEncoding
  let policy ← fieldFrom (env "UMUNDO_DUPLICATE_POLICY") (readPolicy "UMUNDO_DUPLICATE_POLICY")
    c.registry.duplicatePolicy
  let auto ← fieldFrom (env "UMUNDO_AUTO_REGISTER_TYPES") (readBool "UMUNDO_AUTO_REGISTER_TYPES")
    c.registry.autoRegister
  return ⟨⟨domain, capacity, size, wire⟩, ⟨policy, auto⟩⟩

end Config

end TypedBus
