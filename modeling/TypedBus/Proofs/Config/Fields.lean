import TypedBus.Config.Basic

namespace TypedBus.Config

inductive Field
  | domain
  | queueCapacity
  | maxPayloadSize
  | wireEncoding
  | duplicatePolicy
  | autoRegister
deriving DecidableEq

namespace Field

abbrev Value : Field → Type
  | domain => String
  | queueCapacity | maxPayloadSize => UInt64
  | wireEncoding | autoRegister => Bool
  | duplicatePolicy => DuplicatePolicy

def get : (f : Field) → Config → f.Value
  | domain, c => c.transport.domain
  | queueCapacity, c => c.transport.queueCapacity
  | maxPayloadSize, c => c.transport.maxPayloadSize
  | wireEncoding, c => c.transport.wireEncoding
  | duplicatePolicy, c => c.registry.duplicatePolicy
  | autoRegister, c => c.registry.autoRegister

def set : (f : Field) → f.Value → Config → Config
  | domain, x, c => { c with transport := { c.transport with domain := x } }
  | queueCapacity, x, c => { c with transport := { c.transport with queueCapacity := x } }
  | maxPayloadSize, x, c => { c with transport := { c.transport with maxPayloadSize := x } }
  | wireEncoding, x, c => { c with transport := { c.transport with wireEncoding := x } }
  | duplicatePolicy, x, c => { c with registry := { c.registry with duplicatePolicy := x } }
  | autoRegister, x, c => { c with registry := { c.registry with autoRegister := x } }

variable {f g : Field} {c c' : Config}

@[simp] theorem get_set (f : Field) (x : f.Value) (c : Config) : f.get (f.set x c) = x := by
  cases f <;> rfl

theorem get_set_of_ne (h : g ≠ f) (x : f.Value) (c : Config) : g.get (f.set x c) = g.get c := by
  cases f <;> cases g <;> grind [get, set]

@[simp] theorem set_get (f : Field) (c : Config) : f.set (f.get c) c = c := by
  cases f <;> rfl

theorem ext_get (h : ∀ f : Field, f.get c = f.get c') : c = c' := by
  obtain ⟨⟨_, _, _, _⟩, ⟨_, _⟩⟩ := c
  obtain ⟨⟨_, _, _, _⟩, ⟨_, _⟩⟩ := c'
  obtain rfl := h domain
  obtain rfl := h queueCapacity
  obtain rfl := h maxPayloadSize
  obtain rfl := h wireEncoding
  obtain rfl := h duplicatePolicy
  obtain rfl := h autoRegister
  rfl

end Field

def ofFields (value : (f : Field) → f.Value) : Config :=
  ⟨⟨value .domain, value .queueCapacity, value .maxPayloadSize, value .wireEncoding⟩,
    ⟨value .duplicatePolicy, value .autoRegister⟩⟩

@[simp] theorem Field.get_ofFields (value : (f : Field) → f.Value) (f : Field) :
    f.get (ofFields value) = value f := by
  cases f <;> rfl

end TypedBus.Config
