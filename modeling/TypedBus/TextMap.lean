namespace TypedBus

/-- A finite map with text keys. The entries ascend, so two maps with the same lookups are equal. -/
structure TextMap (α : Type) where
  entries : List (String × α) := []
  ordered : entries.Pairwise (fun a b => a.1 < b.1) := by exact List.Pairwise.nil

namespace TextMap

variable {α : Type}

instance [DecidableEq α] : DecidableEq (TextMap α) := fun a b =>
  if h : a.entries = b.entries then
    .isTrue (by cases a; cases b; simp_all)
  else .isFalse (fun e => h (by rw [e]))

def empty : TextMap α := {}

instance : EmptyCollection (TextMap α) := ⟨empty⟩
instance : Inhabited (TextMap α) := ⟨empty⟩

def size (m : TextMap α) : Nat := m.entries.length

def keys (m : TextMap α) : List String := m.entries.map (·.1)

def get? (m : TextMap α) (key : String) : Option α :=
  (m.entries.find? (·.1 = key)).map (·.2)

def contains (m : TextMap α) (key : String) : Bool := (m.get? key).isSome

theorem ordered_insert {entries : List (String × α)} (key : String) (value : α)
    (h : entries.Pairwise (fun a b => a.1 < b.1)) :
    (entries.takeWhile (·.1 < key) ++ (key, value) :: entries.dropWhile (·.1 ≤ key)).Pairwise
      (fun a b => a.1 < b.1) := by
  have low : ∀ e ∈ entries.takeWhile (·.1 < key), e.1 < key := fun e he =>
    of_decide_eq_true (List.all_eq_true.mp List.all_takeWhile e he)
  have high : ∀ e ∈ entries.dropWhile (·.1 ≤ key), key < e.1 := by
    have sorted := h.sublist (List.dropWhile_sublist (fun e => decide (e.1 ≤ key)))
    have first := List.head?_dropWhile_not (fun e => decide (e.1 ≤ key)) entries
    cases hd : entries.dropWhile (·.1 ≤ key) with
    | nil => simp
    | cons d ds =>
      rw [hd] at sorted first
      have hfirst : key < d.1 := String.not_le.mp (of_decide_eq_false first)
      intro e he
      rcases List.mem_cons.mp he with rfl | he
      · exact hfirst
      · exact String.lt_trans hfirst ((List.pairwise_cons.mp sorted).1 e he)
  refine List.pairwise_append.mpr ⟨h.sublist (List.takeWhile_sublist _), ?_, ?_⟩
  · exact List.pairwise_cons.mpr ⟨high, h.sublist (List.dropWhile_sublist _)⟩
  · intro a ha b hb
    rcases List.mem_cons.mp hb with rfl | hb
    · exact low a ha
    · exact String.lt_trans (low a ha) (high b hb)

def insert (m : TextMap α) (key : String) (value : α) : TextMap α :=
  ⟨_, ordered_insert key value m.ordered⟩

def erase (m : TextMap α) (key : String) : TextMap α :=
  ⟨m.entries.filter (·.1 ≠ key), m.ordered.filter _⟩

/-- Puts an entry in front of entries in descending key order, in place of one with the same key. -/
def pushEntry (entries : List (String × α)) (e : String × α) : List (String × α) :=
  match entries with
  | [] => [e]
  | d :: ds => if d.1 = e.1 then e :: ds else e :: d :: ds

theorem descending_pushEntry {acc : List (String × α)} {e : String × α}
    (ha : acc.Pairwise (fun a b => b.1 < a.1)) (hle : ∀ a ∈ acc, a.1 ≤ e.1) :
    (pushEntry acc e).Pairwise (fun a b => b.1 < a.1) := by
  cases acc with
  | nil => simp [pushEntry]
  | cons d ds =>
    obtain ⟨hd, hds⟩ := List.pairwise_cons.mp ha
    simp only [pushEntry]
    split
    · rename_i heq
      exact List.pairwise_cons.mpr ⟨fun b hb => heq ▸ hd b hb, hds⟩
    · rename_i hne
      have hlt : d.1 < e.1 := String.not_le.mp fun h =>
        hne (String.le_antisymm (hle d (by simp)) h)
      refine List.pairwise_cons.mpr ⟨fun b hb => ?_, ha⟩
      rcases List.mem_cons.mp hb with rfl | hb
      · exact hlt
      · exact String.lt_trans (hd b hb) hlt

theorem mem_pushEntry {acc : List (String × α)} {e a : String × α} (h : a ∈ pushEntry acc e) :
    a = e ∨ a ∈ acc := by
  cases acc with
  | nil => simpa [pushEntry] using h
  | cons d ds =>
    simp only [pushEntry] at h
    split at h
    · rcases List.mem_cons.mp h with h | h
      · exact .inl h
      · exact .inr (List.mem_cons_of_mem d h)
    · exact List.mem_cons.mp h

theorem descending_foldl_pushEntry {es acc : List (String × α)}
    (hes : es.Pairwise (fun a b => a.1 ≤ b.1)) (ha : acc.Pairwise (fun a b => b.1 < a.1))
    (hle : ∀ a ∈ acc, ∀ e ∈ es, a.1 ≤ e.1) :
    (es.foldl pushEntry acc).Pairwise (fun a b => b.1 < a.1) := by
  induction es generalizing acc with
  | nil => exact ha
  | cons e es ih =>
    obtain ⟨he, hes⟩ := List.pairwise_cons.mp hes
    refine ih hes (descending_pushEntry ha fun a h => hle a h e (by simp)) ?_
    intro a h b hb
    rcases mem_pushEntry h with rfl | h
    · exact he b hb
    · exact hle a h b (by simp [hb])

/-- Entries in ascending key order, those with the same key in the order given. -/
def sortEntries (es : List (String × α)) : List (String × α) :=
  es.mergeSort (fun a b => decide (a.1 ≤ b.1))

theorem pairwise_sortEntries (es : List (String × α)) :
    (sortEntries es).Pairwise (fun a b => a.1 ≤ b.1) := by
  have trans : ∀ a b c : String × α, decide (a.1 ≤ b.1) = true → decide (b.1 ≤ c.1) = true →
      decide (a.1 ≤ c.1) = true := fun a b c hab hbc => by
    simp only [decide_eq_true_eq] at *
    exact String.le_trans hab hbc
  have total : ∀ a b : String × α, (decide (a.1 ≤ b.1) || decide (b.1 ≤ a.1)) = true :=
    fun a b => by simpa using String.le_total a.1 b.1
  exact (List.pairwise_mergeSort trans total es).imp (by simp)

/-- The map with the given entries; of several with one key the last counts. -/
def ofList (es : List (String × α)) : TextMap α :=
  ⟨((sortEntries es).foldl pushEntry []).reverse,
    List.pairwise_reverse.mpr
      (descending_foldl_pushEntry (pairwise_sortEntries es) List.Pairwise.nil (by simp))⟩

theorem mem_takeWhile_lt {entries : List (String × α)} {key : String}
    (h : entries.Pairwise (fun a b => a.1 < b.1)) (e : String × α) :
    e ∈ entries.takeWhile (·.1 < key) ↔ e ∈ entries ∧ e.1 < key := by
  induction entries with
  | nil => simp
  | cons d ds ih =>
    obtain ⟨hd, hds⟩ := List.pairwise_cons.mp h
    rw [List.takeWhile_cons]
    split
    · rename_i hlt
      have hlt := of_decide_eq_true hlt
      rw [List.mem_cons, List.mem_cons, ih hds]
      grind
    · rename_i hlt
      have hlt : ¬ d.1 < key := fun h => hlt (decide_eq_true h)
      refine iff_of_false List.not_mem_nil ?_
      rintro ⟨hm, he⟩
      rcases List.mem_cons.mp hm with rfl | hm
      · exact hlt he
      · exact hlt (String.lt_trans (hd e hm) he)

theorem mem_dropWhile_le {entries : List (String × α)} {key : String}
    (h : entries.Pairwise (fun a b => a.1 < b.1)) (e : String × α) :
    e ∈ entries.dropWhile (·.1 ≤ key) ↔ e ∈ entries ∧ key < e.1 := by
  induction entries with
  | nil => simp
  | cons d ds ih =>
    obtain ⟨hd, hds⟩ := List.pairwise_cons.mp h
    rw [List.dropWhile_cons]
    split
    · rename_i hle
      have hle := of_decide_eq_true hle
      rw [List.mem_cons, ih hds]
      constructor
      · exact fun ⟨hm, he⟩ => ⟨.inr hm, he⟩
      · rintro ⟨rfl | hm, he⟩
        · exact absurd he (String.not_lt.mpr hle)
        · exact ⟨hm, he⟩
    · rename_i hle
      have hlt : key < d.1 := String.not_le.mp fun h => hle (decide_eq_true h)
      constructor
      · intro hm
        refine ⟨hm, ?_⟩
        rcases List.mem_cons.mp hm with rfl | hm
        · exact hlt
        · exact String.lt_trans hlt (hd e hm)
      · exact And.left

theorem mem_insert (m : TextMap α) (key : String) (value : α) (e : String × α) :
    e ∈ (m.insert key value).entries ↔ e = (key, value) ∨ e ∈ m.entries ∧ e.1 ≠ key := by
  have split : e.1 ≠ key ↔ e.1 < key ∨ key < e.1 := by
    constructor
    · intro hne
      by_cases h : e.1 < key
      · exact .inl h
      · exact .inr (String.not_le.mp fun hle => hne (String.le_antisymm hle (String.not_lt.mp h)))
    · rintro (h | h) rfl
      · exact String.lt_irrefl _ h
      · exact String.lt_irrefl _ h
  simp only [insert, List.mem_append, List.mem_cons, mem_takeWhile_lt m.ordered,
    mem_dropWhile_le m.ordered, split]
  constructor
  · rintro (⟨hm, h⟩ | h | ⟨hm, h⟩)
    · exact .inr ⟨hm, .inl h⟩
    · exact .inl h
    · exact .inr ⟨hm, .inr h⟩
  · rintro (h | ⟨hm, h | h⟩)
    · exact .inr (.inl h)
    · exact .inl ⟨hm, h⟩
    · exact .inr (.inr ⟨hm, h⟩)

theorem find?_eq_some_iff_mem {es : List (String × α)} {key : String} {value : α}
    (h : es.Pairwise (fun a b => a.1 ≠ b.1)) :
    (es.find? (·.1 = key)).map (·.2) = some value ↔ (key, value) ∈ es := by
  induction es with
  | nil => simp
  | cons d ds ih =>
    obtain ⟨hd, hds⟩ := List.pairwise_cons.mp h
    rw [List.find?_cons]
    by_cases hk : d.1 = key
    · have absent : (key, value) ∉ ds := fun hm => hd _ hm hk
      have first : (key, value) = d ↔ d.2 = value := by
        subst hk
        exact ⟨fun h => (congrArg Prod.snd h).symm, fun h => by rw [← h]⟩
      simp [hk, absent, first]
    · have other : (key, value) ≠ d := fun h => hk (congrArg Prod.fst h).symm
      simp [hk, other, ih hds]

theorem get?_eq_some_iff {m : TextMap α} {key : String} {value : α} :
    m.get? key = some value ↔ (key, value) ∈ m.entries :=
  find?_eq_some_iff_mem (m.ordered.imp fun {a b} (hlt : a.1 < b.1) (he : a.1 = b.1) =>
    String.lt_irrefl b.1 (by rwa [he] at hlt))

@[simp] theorem get?_empty (key : String) : (∅ : TextMap α).get? key = none := rfl

theorem get?_insert (m : TextMap α) (key other : String) (value : α) :
    (m.insert key value).get? other = if other = key then some value else m.get? other := by
  apply Option.ext
  intro v
  rw [get?_eq_some_iff, mem_insert]
  split
  · rename_i h
    simp [h, eq_comm]
  · rename_i h
    simp [h, get?_eq_some_iff]

theorem get?_erase (m : TextMap α) (key other : String) :
    (m.erase key).get? other = if other = key then none else m.get? other := by
  apply Option.ext
  intro v
  rw [get?_eq_some_iff]
  split
  · rename_i h
    simp [erase, h]
  · rename_i h
    simp [erase, h, get?_eq_some_iff]

theorem nodup (m : TextMap α) : m.entries.Nodup :=
  m.ordered.imp fun {c d} (hlt : c.1 < d.1) (he : c = d) =>
    String.lt_irrefl d.1 (by rwa [he] at hlt)

theorem mem_keys {m : TextMap α} {key : String} :
    key ∈ m.keys ↔ ∃ value, m.get? key = some value := by
  rw [keys, List.mem_map]
  constructor
  · rintro ⟨⟨_, value⟩, hm, rfl⟩
    exact ⟨value, get?_eq_some_iff.mpr hm⟩
  · rintro ⟨value, hv⟩
    exact ⟨(key, value), get?_eq_some_iff.mp hv, rfl⟩

theorem nodup_keys (m : TextMap α) : m.keys.Nodup :=
  List.pairwise_map.mpr <| m.ordered.imp fun {c d} (hlt : c.1 < d.1) (he : c.1 = d.1) =>
    String.lt_irrefl d.1 (by rwa [he] at hlt)

/-- Maps with the same lookups are equal. -/
theorem ext_get? {a b : TextMap α} (h : ∀ key, a.get? key = b.get? key) : a = b := by
  have hm : ∀ e, e ∈ a.entries ↔ e ∈ b.entries := fun e => by
    rw [← get?_eq_some_iff (m := a), ← get?_eq_some_iff (m := b), h]
  have hp : a.entries.Perm b.entries := (List.perm_ext_iff_of_nodup a.nodup b.nodup).mpr hm
  have he : a.entries = b.entries :=
    hp.eq_of_pairwise (fun _ _ _ _ h h' => absurd (String.lt_trans h h') (String.lt_irrefl _))
      a.ordered b.ordered
  cases a
  cases b
  simp_all

/-- Of the entries of a map that pass a test, the first has the smallest key. -/
theorem le_of_find? {m : TextMap α} {p : String × α → Bool} {e : String × α}
    (h : m.entries.find? p = some e) {f : String × α} (hf : f ∈ m.entries) (hp : p f = true) :
    e.1 ≤ f.1 := by
  obtain ⟨-, front, back, hsplit, hfront⟩ := List.find?_eq_some_iff_append.mp h
  have hsorted := m.ordered
  rw [hsplit] at hf hsorted
  rcases List.mem_append.mp hf with hf | hf
  · exact absurd hp (by simpa using hfront f hf)
  · rcases List.mem_cons.mp hf with rfl | hf
    · exact String.le_refl _
    · exact String.not_lt.mp fun hlt => String.lt_irrefl _ <| String.lt_trans hlt <|
        (List.pairwise_cons.mp (List.pairwise_append.mp hsorted).2.1).1 f hf

/-- The first entry that passes a test is still the first when its value is replaced by one with which it
passes, too. -/
theorem find?_insert {m : TextMap α} {p : String × α → Bool} {key : String} {old new : α}
    (h : m.entries.find? p = some (key, old)) (hnew : p (key, new) = true) :
    (m.insert key new).entries.find? p = some (key, new) := by
  have hfront : (m.entries.takeWhile (·.1 < key)).find? p = none := by
    apply List.find?_eq_none.mpr
    intro e he hp
    obtain ⟨hmem, hlt⟩ := (mem_takeWhile_lt m.ordered e).mp he
    exact String.not_lt.mpr (le_of_find? h hmem hp) hlt
  simp only [insert, List.find?_append, hfront, List.find?_cons, hnew, Option.none_or]

theorem insert_eq_self {m : TextMap α} {key : String} {value : α} (h : m.get? key = some value) :
    m.insert key value = m := by
  apply ext_get?
  intro other
  rw [get?_insert]
  split
  · rename_i he
    rw [he, h]
  · rfl

theorem insert_insert (m : TextMap α) (key : String) (old new : α) :
    (m.insert key old).insert key new = m.insert key new := by
  apply ext_get?
  intro other
  simp only [get?_insert]
  split <;> rfl

theorem find?_pushEntry (acc : List (String × α)) (e : String × α) (key : String) :
    (pushEntry acc e).find? (·.1 = key) =
      if e.1 = key then some e else acc.find? (·.1 = key) := by
  cases acc with
  | nil => by_cases h : e.1 = key <;> simp [pushEntry, h]
  | cons d ds =>
    simp only [pushEntry]
    split
    · rename_i hd
      by_cases h : e.1 = key <;> simp [hd, h]
    · by_cases h : e.1 = key <;> simp [h]

theorem find?_foldl_pushEntry (es acc : List (String × α)) (key : String) :
    (es.foldl pushEntry acc).find? (·.1 = key) =
      (es.reverse.find? (·.1 = key)).or (acc.find? (·.1 = key)) := by
  induction es generalizing acc with
  | nil => simp
  | cons e es ih =>
    rw [List.foldl_cons, ih, find?_pushEntry, List.reverse_cons, List.find?_append]
    cases es.reverse.find? (·.1 = key) with
    | some _ => rfl
    | none => by_cases h : e.1 = key <;> simp [h]

/-- Sorting keeps the order of the entries with one key. -/
theorem filter_sortEntries (es : List (String × α)) (key : String) :
    (sortEntries es).filter (·.1 = key) = es.filter (·.1 = key) := by
  have sub : (es.filter (·.1 = key)).Sublist (sortEntries es) := by
    refine List.sublist_mergeSort ?_ ?_ ?_ List.filter_sublist
    · intro a b c hab hbc
      exact decide_eq_true (String.le_trans (of_decide_eq_true hab) (of_decide_eq_true hbc))
    · intro a b
      rcases String.le_total a.1 b.1 with h | h <;> simp [h]
    · refine List.pairwise_of_forall_mem_list fun a ha b hb => ?_
      have ha := of_decide_eq_true (List.mem_filter.mp ha).2
      have hb := of_decide_eq_true (List.mem_filter.mp hb).2
      exact decide_eq_true (ha.trans hb.symm ▸ String.le_refl a.1)
  have sub : (es.filter (·.1 = key)).Sublist ((sortEntries es).filter (·.1 = key)) := by
    simpa using sub.filter (·.1 = key)
  exact (sub.eq_of_length (((List.mergeSort_perm es _).filter _).length_eq).symm).symm

theorem find?_reverse_eq (es : List (String × α)) (key : String) :
    es.reverse.find? (·.1 = key) = (es.filter (·.1 = key)).getLast? := by
  rw [← List.head?_filter, List.filter_reverse, List.head?_reverse]

/-- Of several entries with one key the last counts. -/
theorem get?_ofList (es : List (String × α)) (key : String) :
    (ofList es).get? key = (es.reverse.find? (·.1 = key)).map (·.2) := by
  have descending := descending_foldl_pushEntry (pairwise_sortEntries es)
    List.Pairwise.nil (by simp)
  have distinct : ((sortEntries es).foldl pushEntry []).Pairwise (fun a b => a.1 ≠ b.1) :=
    descending.imp fun {a b} (hlt : b.1 < a.1) (he : a.1 = b.1) =>
      String.lt_irrefl b.1 (by rwa [he] at hlt)
  apply Option.ext
  intro v
  rw [get?_eq_some_iff, ofList, List.mem_reverse, ← find?_eq_some_iff_mem distinct,
    find?_foldl_pushEntry, find?_reverse_eq, filter_sortEntries, ← find?_reverse_eq]
  simp

theorem mem_of_mem_ofList {es : List (String × α)} {e : String × α} (h : e ∈ (ofList es).entries) :
    e ∈ es := by
  obtain ⟨key, value⟩ := e
  rw [← get?_eq_some_iff, get?_ofList, Option.map_eq_some_iff] at h
  obtain ⟨d, hd, rfl⟩ := h
  have hkey : d.1 = key := by simpa using List.find?_some hd
  have hmem := List.mem_reverse.mp (List.mem_of_find?_eq_some hd)
  rwa [← hkey]

theorem ofList_entries (m : TextMap α) : ofList m.entries = m := by
  apply ext_get?
  intro key
  have distinct : m.entries.reverse.Pairwise (fun a b => a.1 ≠ b.1) := by
    rw [List.pairwise_reverse]
    exact m.ordered.imp fun {a b} (hlt : a.1 < b.1) (he : b.1 = a.1) =>
      String.lt_irrefl a.1 (by rwa [he] at hlt)
  apply Option.ext
  intro v
  rw [get?_ofList, find?_eq_some_iff_mem distinct, List.mem_reverse, get?_eq_some_iff]

end TextMap

end TypedBus
