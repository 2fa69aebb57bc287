import TypedBus.Catalog
import TypedBus.Proofs.Text.Names

namespace TypedBus

variable {M : Type}

namespace Catalog

variable {catalog : Catalog M} {descriptors : List (Descriptor M)} {name tag part : String}
  {d : Descriptor M}

/-- A type of a name was added, and no other one of the name after it. -/
def LastAdded (descriptors : List (Descriptor M)) (name : String) (d : Descriptor M) : Prop :=
  d.name = name ∧ ∃ earlier later, descriptors = earlier ++ d :: later ∧ ∀ e ∈ later, e.name ≠ name

/-- No type of a name was added. -/
def Unlisted (descriptors : List (Descriptor M)) (name : String) : Prop :=
  ∀ d ∈ descriptors, d.name ≠ name

instance : Decidable (Unlisted descriptors name) :=
  inferInstanceAs (Decidable (∀ d ∈ descriptors, d.name ≠ name))

theorem get?_foldl_add (descriptors : List (Descriptor M)) (catalog : Catalog M) (name : String) :
    (descriptors.foldl add catalog).types.get? name =
      (descriptors.reverse.find? (·.name = name)).or (catalog.types.get? name) := by
  induction descriptors generalizing catalog with
  | nil => rfl
  | cons d descriptors ih =>
    rw [List.foldl_cons, ih, add, TextMap.get?_insert, List.reverse_cons, List.find?_append]
    cases descriptors.reverse.find? (·.name = name) with
    | some _ => rfl
    | none =>
      by_cases h : d.name = name
      · simp [h]
      · simp [h, Ne.symm h]

theorem get?_ofList (descriptors : List (Descriptor M)) (name : String) :
    (ofList descriptors).types.get? name = descriptors.reverse.find? (·.name = name) := by
  rw [ofList, get?_foldl_add, TextMap.get?_empty, Option.or_none]

/-- A catalog has each type under its name; of several with one name it has the last. -/
theorem get?_ofList_eq_some_iff :
    (ofList descriptors).types.get? name = some d ↔ LastAdded descriptors name d := by
  rw [get?_ofList, List.find?_eq_some_iff_append, decide_eq_true_eq, LastAdded]
  refine and_congr_right fun _ => ?_
  constructor
  · rintro ⟨later, earlier, hsplit, hlater⟩
    refine ⟨earlier.reverse, later.reverse, ?_, fun e he => ?_⟩
    · rw [← List.reverse_reverse descriptors, hsplit]
      simp
    · simpa using hlater e (List.mem_reverse.mp he)
  · rintro ⟨earlier, later, rfl, hlater⟩
    refine ⟨later.reverse, earlier.reverse, by simp, fun e he => ?_⟩
    simpa using hlater e (List.mem_reverse.mp he)

theorem get?_ofList_eq_none_iff :
    (ofList descriptors).types.get? name = none ↔ Unlisted descriptors name := by
  rw [get?_ofList, List.find?_eq_none]
  simp [Unlisted]

/-- Every type is under its own name. -/
def Named (catalog : Catalog M) : Prop :=
  ∀ tag d, catalog.types.get? tag = some d → d.name = tag

theorem named_ofList (descriptors : List (Descriptor M)) : (ofList descriptors).Named :=
  fun _ _ hd => (get?_ofList_eq_some_iff.mp hd).1

theorem lookup_of_get? (h : catalog.types.get? tag = some d) : catalog.lookup tag = some d := by
  simp only [lookup, h]

theorem get?_of_lookup (h : catalog.lookup tag = some d) :
    ∃ key, catalog.types.get? key = some d := by
  simp only [lookup] at h
  split at h
  · rename_i found hfound
    exact ⟨tag, hfound.trans h⟩
  · split at h
    · cases h
    · exact ⟨_, h⟩

theorem Named.get?_name (h : catalog.Named) (hd : catalog.lookup tag = some d) :
    catalog.types.get? d.name = some d := by
  obtain ⟨key, hkey⟩ := get?_of_lookup hd
  obtain rfl := h key d hkey
  exact hkey

/-- What a tag finds, its own name finds as well. -/
theorem Named.lookup_name (h : catalog.Named) (hd : catalog.lookup tag = some d) :
    catalog.lookup d.name = some d :=
  lookup_of_get? (h.get?_name hd)

/-- Only the empty tag finds a type without a name. -/
theorem Named.tag_eq_empty (h : catalog.Named) (hd : catalog.lookup tag = some d)
    (hname : d.name = "") : tag = "" := by
  simp only [lookup] at hd
  split at hd
  · rename_i found hfound
    cases hd
    exact (h tag d hfound).symm.trans hname
  · split at hd
    · cases hd
    · rename_i hpart
      have hkey := h _ d hd
      exact absurd (.inl (hkey.symm.trans hname)) hpart

theorem lookup_of_qualifies (hnone : catalog.types.get? tag = none)
    (h : TypeName.Qualifies tag part) :
    catalog.lookup tag = if part = "" then none else catalog.types.get? part := by
  simp only [lookup, hnone, h.lastPart_eq, h.part_ne, or_false]

theorem lookup_of_lastPart_eq (hnone : catalog.types.get? tag = none)
    (h : TypeName.lastPart tag = tag) : catalog.lookup tag = none := by
  simp only [lookup, hnone, h, or_true, if_true]

/-- What a tag stands for among the types that were added: its own name goes before that of its last
part. -/
inductive Found (descriptors : List (Descriptor M)) (tag : String) : Option (Descriptor M) → Prop
  | own {d : Descriptor M} (added : LastAdded descriptors tag d) : Found descriptors tag (some d)
  | qualified {part : String} {d : Descriptor M} (unlisted : Unlisted descriptors tag)
      (qualifies : TypeName.Qualifies tag part) (ne_empty : part ≠ "")
      (added : LastAdded descriptors part d) : Found descriptors tag (some d)
  | missing (unlisted : Unlisted descriptors tag)
      (unknown : ∀ part, TypeName.Qualifies tag part → part ≠ "" → Unlisted descriptors part) :
      Found descriptors tag none

theorem Found.lookup_eq {found : Option (Descriptor M)} (h : Found descriptors tag found) :
    (ofList descriptors).lookup tag = found := by
  cases h with
  | own added => exact lookup_of_get? (get?_ofList_eq_some_iff.mpr added)
  | qualified unlisted qualifies ne_empty added =>
    rw [lookup_of_qualifies (get?_ofList_eq_none_iff.mpr unlisted) qualifies, if_neg ne_empty]
    exact get?_ofList_eq_some_iff.mpr added
  | missing unlisted unknown =>
    have hnone := get?_ofList_eq_none_iff.mpr unlisted
    rcases TypeName.eq_or_qualifies_lastPart tag with hwhole | hpart
    · exact lookup_of_lastPart_eq hnone hwhole
    · rw [lookup_of_qualifies hnone hpart]
      split
      · rfl
      · rename_i hne
        exact get?_ofList_eq_none_iff.mpr (unknown _ hpart hne)

theorem exists_found (descriptors : List (Descriptor M)) (tag : String) :
    ∃ found, Found descriptors tag found := by
  cases htag : (ofList descriptors).types.get? tag with
  | some d => exact ⟨some d, .own (get?_ofList_eq_some_iff.mp htag)⟩
  | none =>
    have unlisted := get?_ofList_eq_none_iff.mp htag
    by_cases hknown : ∃ part d, TypeName.Qualifies tag part ∧ part ≠ "" ∧ LastAdded descriptors part d
    · obtain ⟨part, d, qualifies, ne_empty, added⟩ := hknown
      exact ⟨some d, .qualified unlisted qualifies ne_empty added⟩
    · refine ⟨none, .missing unlisted fun part qualifies ne_empty => ?_⟩
      apply get?_ofList_eq_none_iff.mp
      cases hpart : (ofList descriptors).types.get? part with
      | none => rfl
      | some d =>
        exact absurd ⟨part, d, qualifies, ne_empty, get?_ofList_eq_some_iff.mp hpart⟩ hknown

theorem lookup_ofList_eq_iff {found : Option (Descriptor M)} :
    (ofList descriptors).lookup tag = found ↔ Found descriptors tag found := by
  refine ⟨?_, Found.lookup_eq⟩
  rintro rfl
  obtain ⟨found, h⟩ := exists_found descriptors tag
  rwa [h.lookup_eq]

/-- A path finds the type that was added under its last name, if none has the whole path for its name. -/
theorem found_text {path : TypePath} (hclear : path.outer = [] ∨ Unlisted descriptors path.text)
    (added : LastAdded descriptors path.last.text d) : Found descriptors path.text (some d) := by
  rcases path.eq_or_qualifies with hwhole | hqualifies
  · exact .own (hwhole ▸ added)
  · rcases hclear with hsingle | unlisted
    · obtain ⟨outer, last⟩ := path
      subst hsingle
      exact absurd (TypePath.text_nil last).symm hqualifies.part_ne
    · exact .qualified unlisted hqualifies path.last.ne_empty added

end Catalog

end TypedBus
