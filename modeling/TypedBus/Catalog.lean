import TypedBus.Descriptor
import TypedBus.TextMap
import TypedBus.TypeName

namespace TypedBus

structure Catalog (M : Type) where
  types : TextMap (Descriptor M) := ∅

namespace Catalog

variable {M : Type}

/-- Adds a type under its name, in place of one of that name. -/
def add (catalog : Catalog M) (descriptor : Descriptor M) : Catalog M :=
  ⟨catalog.types.insert descriptor.name descriptor⟩

def ofList (descriptors : List (Descriptor M)) : Catalog M := descriptors.foldl add {}

/-- The type with the tag as its name, or else with the last part of the tag. -/
def lookup (catalog : Catalog M) (tag : String) : Option (Descriptor M) :=
  match catalog.types.get? tag with
  | some descriptor => some descriptor
  | none =>
    let part := TypeName.lastPart tag
    if part = "" ∨ part = tag then none else catalog.types.get? part

def names (catalog : Catalog M) : List String := catalog.types.keys

def size (catalog : Catalog M) : Nat := catalog.types.size

end Catalog

end TypedBus
