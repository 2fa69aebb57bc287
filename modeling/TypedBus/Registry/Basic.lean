import TypedBus.Catalog
import TypedBus.Config.Basic
import TypedBus.Error.Typed
import TypedBus.Guarded

namespace TypedBus

/-- The types that a subscriber knows, by tag. Tags are registered by hand, or, when the registry
may register by itself, taken over from the catalog the first time a message asks for them. -/
structure Registry (M : Type) where
  types : Guarded (TextMap (Descriptor M)) := ⟨∅, false⟩
  policy : DuplicatePolicy := .overwrite
  autoRegister : Bool := false
  catalog : Option (Catalog M) := none

namespace Registry

variable {M : Type}

def withPolicy (policy : DuplicatePolicy) : Registry M := { policy }

def ofConfig (config : RegistryConfig) : Registry M :=
  { policy := config.duplicatePolicy, autoRegister := config.autoRegister }

def withCatalog (r : Registry M) (catalog : Catalog M) : Registry M :=
  { r with catalog := some catalog }

/-- The registry of a subscriber that is set up from a configuration, with the types of a catalog if
there is one. -/
def configured (config : RegistryConfig) (catalog : Option (Catalog M)) : Registry M :=
  match catalog with
  | none => ofConfig config
  | some catalog => (ofConfig config).withCatalog catalog

def store (r : Registry M) (types : TextMap (Descriptor M)) : Registry M :=
  { r with types := r.types.store types }

/-- The registered types, or the error of a poisoned lock. -/
def read (r : Registry M) : Except TypedError (TextMap (Descriptor M)) :=
  r.types.read.mapError .registry

def write (r : Registry M) : Except TypedError (TextMap (Descriptor M)) :=
  r.types.write.mapError .registry

/-- Registers a type and returns the one it replaces. -/
def register (r : Registry M) (tag : String) (descriptor : Descriptor M) :
    Except TypedError (Option (Descriptor M)) × Registry M :=
  if tag = "" then (.error .emptyTypeTag, r)
  else match r.write with
    | .error e => (.error e, r)
    | .ok types =>
      match types.get? tag, r.policy with
      | some _, .reject => (.error (.duplicateRegistration tag), r)
      | previous, _ => (.ok previous, r.store (types.insert tag descriptor))

def registerType (r : Registry M) (descriptor : Descriptor M) :
    Except TypedError (Option (Descriptor M)) × Registry M :=
  r.register descriptor.name descriptor

/-- What the catalog has for a tag, if the registry may use it. -/
def found? (r : Registry M) (tag : String) : Option (Descriptor M) :=
  if r.autoRegister then r.catalog.bind (·.lookup tag) else none

/-- The type of a tag. A type that comes from the catalog is kept under its own name, where a type
registered by hand goes before it. -/
def resolve (r : Registry M) (tag : String) : Except TypedError (Descriptor M) × Registry M :=
  match r.read with
  | .error e => (.error e, r)
  | .ok types =>
    match types.get? tag with
    | some descriptor => (.ok descriptor, r)
    | none =>
      match r.found? tag with
      | none => (.error (.unknownType tag), r)
      | some found =>
        match types.get? found.name with
        | some descriptor => (.ok descriptor, r)
        | none => (.ok found, r.store (types.insert found.name found))

def unregister (r : Registry M) (tag : String) :
    Except TypedError (Option (Descriptor M)) × Registry M :=
  match r.write with
  | .error e => (.error e, r)
  | .ok types => (.ok (types.get? tag), r.store (types.erase tag))

def contains (r : Registry M) (tag : String) : Except TypedError Bool :=
  r.read.map (·.contains tag)

def size (r : Registry M) : Except TypedError Nat := r.read.map (·.size)

def isEmpty (r : Registry M) : Except TypedError Bool := r.read.map (·.size == 0)

def tags (r : Registry M) : Except TypedError (List String) := r.read.map (·.keys)

def setAutoRegister (r : Registry M) (enabled : Bool) : Registry M :=
  { r with autoRegister := enabled }

/-- A registration whose task fails before it has stored anything, but while it holds the lock.
Answers whether the lock could be had. -/
def failInside (r : Registry M) : Bool × Registry M :=
  match r.write with
  | .error _ => (false, r)
  | .ok _ => (true, { r with types := r.types.poison })

end Registry

end TypedBus
