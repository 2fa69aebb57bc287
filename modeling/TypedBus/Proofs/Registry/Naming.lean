import TypedBus.Proofs.Registry.Caching
import TypedBus.Proofs.Registry.Entries

namespace TypedBus

variable {M : Type}

namespace Registry

variable {tag : String}

/-- In a new registry that may use its catalog, a tag stands for what it finds there. -/
theorem typeOf?_configured (policy : DuplicatePolicy) (catalog : Catalog M) (tag : String) :
    (configured ⟨policy, true⟩ (some catalog)).typeOf? tag = catalog.lookup tag := by
  have hfound : (configured ⟨policy, true⟩ (some catalog)).found? tag = catalog.lookup tag := rfl
  simp [typeOf?, registered?_configured, hfound]

/-- Messages of one tag are read as what the catalog has for it, the first of them like the later
ones. -/
theorem outcomes_configured {ms : List Message} (hne : tag ≠ "")
    (htag : ∀ m ∈ ms, m.typeTag = some tag) (policy : DuplicatePolicy)
    (descriptors : List (Descriptor M)) :
    (configured ⟨policy, true⟩ (some (.ofList descriptors))).outcomes ms = ms.map fun m =>
      Dispatcher.objectOf m tag
        (((Catalog.ofList descriptors).lookup tag).elim (.error (.unknownType tag)) .ok) := by
  have hstocked : (configured ⟨policy, true⟩ (some (.ofList descriptors))).Stocked :=
    stocked_configured ⟨policy, true⟩ (some descriptors)
  rw [(Caches.refl _).outcomes_eq rfl hstocked]
  apply List.map_congr_left
  intro m hm
  rw [Dispatcher.dispatch_of_tagged (htag m hm) hne, resolve_fst rfl, typeOf?_configured]

end Registry

namespace Catalog

/-- A catalog has every type under its own name, the last one of each name, and a tag finds the type of
its name or else that of its last part. The short name of a type is the last name of its path, whatever
its type arguments; messages that are tagged with the path are therefore read as the type that has the
short name, unless there is one that has the whole path for its name. -/
theorem full_names_reach_their_types (descriptors : List (Descriptor M)) :
    (∀ name d, (ofList descriptors).types.get? name = some d ↔ LastAdded descriptors name d) ∧
    (∀ tag found, (ofList descriptors).lookup tag = found ↔ Found descriptors tag found) ∧
    (∀ (path : TypePath) args, TypeName.short (path.fullName args) = path.last.text) ∧
    (∀ full, TypeName.short (TypeName.short full) = TypeName.short full) ∧
    ∀ (path : TypePath) args d, LastAdded descriptors (TypeName.short (path.fullName args)) d →
      path.outer = [] ∨ Unlisted descriptors path.text →
      (ofList descriptors).lookup path.text = some d ∧
      ∀ policy (ms : List Message), (∀ m ∈ ms, m.typeTag = some path.text) →
        (Registry.configured ⟨policy, true⟩ (some (ofList descriptors))).outcomes ms =
          ms.map fun m => (d.decode m.data).mapError (.decode path.text) := by
  refine ⟨fun _ _ => get?_ofList_eq_some_iff, fun _ _ => lookup_ofList_eq_iff,
    TypePath.short_fullName, TypeName.short_short, ?_⟩
  intro path args d hadded hclear
  rw [path.short_fullName] at hadded
  have hlookup : (ofList descriptors).lookup path.text = some d :=
    lookup_ofList_eq_iff.mpr (found_text hclear hadded)
  refine ⟨hlookup, fun policy ms htag => ?_⟩
  rw [Registry.outcomes_configured path.text_ne_empty htag, hlookup]
  rfl

def sampleTypes : List (Descriptor Inbound) :=
  [.constant "Telemetry" .bincode 7, .of .telemetry, .of .ping]

def samplePath : TypePath where
  outer := [⟨"org", by decide, by simp⟩, ⟨"example", by decide, by simp⟩]
  last := ⟨"Telemetry", by decide, by simp⟩

def sampleMessages : List Message :=
  [(Message.withData [0, 0, 0, 0, 0, 0, 0, 0]).setTypeTag "org::example::Telemetry",
    (Message.withData [0]).setTypeTag "org::example::Telemetry"]

/-- The path finds the type that was added last under the short name, which the type arguments do not
change, and the messages are read as that type. -/
theorem full_names_reach_their_types_sample :
    samplePath.fullName (some "unit::Volt<f64>") = "org::example::Telemetry<unit::Volt<f64>" ∧
      LastAdded sampleTypes (TypeName.short (samplePath.fullName (some "unit::Volt<f64>")))
        (.of .telemetry) ∧
      Unlisted sampleTypes samplePath.text ∧
      (ofList sampleTypes).lookup samplePath.text = some (.of .telemetry) ∧
      (∀ m ∈ sampleMessages, m.typeTag = some samplePath.text) ∧
      (Registry.configured ⟨.reject, true⟩ (some (ofList sampleTypes))).outcomes sampleMessages =
        [.ok (.object .telemetry 0),
          .error (.decode "org::example::Telemetry" (.decode "io error: unexpected end of file"))] := by
  obtain ⟨-, -, hshort, -, hreach⟩ := full_names_reach_their_types sampleTypes
  have hadded : LastAdded sampleTypes
      (TypeName.short (samplePath.fullName (some "unit::Volt<f64>"))) (.of .telemetry) := by
    rw [hshort]
    exact ⟨rfl, [.constant "Telemetry" .bincode 7], [.of .ping], rfl, by decide⟩
  have hunlisted : Unlisted sampleTypes samplePath.text := by decide
  have htag : ∀ m ∈ sampleMessages, m.typeTag = some samplePath.text := by decide
  obtain ⟨hlookup, houtcomes⟩ := hreach samplePath _ _ hadded (.inr hunlisted)
  refine ⟨by decide, hadded, hunlisted, hlookup, htag, (houtcomes .reject sampleMessages htag).trans ?_⟩
  with_unfolding_all rfl

end Catalog

end TypedBus
