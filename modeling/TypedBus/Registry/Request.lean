import TypedBus.Registry.Basic

namespace TypedBus.Registry

variable {M : Type}

inductive Request (M : Type)
  | register (tag : String) (descriptor : Descriptor M)
  | registerType (descriptor : Descriptor M)
  | unregister (tag : String)
  | resolve (tag : String)
  | contains (tag : String)
  | size
  | isEmpty
  | tags
  | setAutoRegister (enabled : Bool)
  | policy
  | catalog
  | failInside

inductive Answer (M : Type)
  | previous (descriptor : Option (Descriptor M))
  | removed (descriptor : Option (Descriptor M))
  | resolved (descriptor : Descriptor M)
  | flag (value : Bool)
  | count (n : Nat)
  | names (list : List String)
  | policy (policy : DuplicatePolicy)
  | catalog (names : Option (List String))
  | poisoned (now : Bool)

def perform (r : Registry M) : Request M → Except TypedError (Answer M) × Registry M
  | .register tag descriptor =>
    let (result, r) := r.register tag descriptor
    (result.map .previous, r)
  | .registerType descriptor =>
    let (result, r) := r.registerType descriptor
    (result.map .previous, r)
  | .unregister tag =>
    let (result, r) := r.unregister tag
    (result.map .removed, r)
  | .resolve tag =>
    let (result, r) := r.resolve tag
    (result.map .resolved, r)
  | .contains tag => ((r.contains tag).map .flag, r)
  | .size => (r.size.map .count, r)
  | .isEmpty => (r.isEmpty.map .flag, r)
  | .tags => (r.tags.map .names, r)
  | .setAutoRegister enabled => (.ok (.flag enabled), r.setAutoRegister enabled)
  | .policy => (.ok (.policy r.policy), r)
  | .catalog => (.ok (.catalog (r.catalog.map (·.names))), r)
  | .failInside =>
    let (now, r) := r.failInside
    (.ok (.poisoned now), r)

end TypedBus.Registry
