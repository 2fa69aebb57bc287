import TypedBus.Payload.Protobuf.Record
import TypedBus.Proofs.Payload.Wire

namespace TypedBus.Protobuf

theorem readContent_content {type : FieldType} {value : type.Val}
    (h : (type.content value).length < 2 ^ 64) (rest : Bytes) :
    readContent type .lengthDelimited
      (varint (type.content value).length ++ (type.content value ++ rest)) = .ok (value, rest) := by
  unfold readContent
  rw [if_neg (by simp), readDelimited_append (numberForm_varint h)]
  cases type with
  | text => simp [FieldType.content, Text.ofUtf8?_utf8]
  | bytes => rfl

theorem content_eq_nil {type : FieldType} {value : type.Val} (h : type.content value = []) :
    value = type.empty := by
  cases type with
  | text => exact Text.utf8_injective (h.trans rfl)
  | bytes => exact h

theorem length_le_fieldBytes (number : Nat) (content : Bytes) :
    content.length ≤ (fieldBytes number content).length := by
  unfold fieldBytes
  rw [List.length_append, List.length_append]
  omega

/-- A field with a value for it. -/
structure Entry where
  field : Field
  value : field.type.Val

namespace Entry

def content (e : Entry) : Bytes := e.field.type.content e.value

def bytes (e : Entry) : Bytes := fieldBytes e.field.number e.content

end Entry

/-- Entries one after the other, with fields among them whose numbers no field of the record has. -/
inductive ExtendedForm (fields : List Field) : List Entry → Bytes → Prop
  | nil : ExtendedForm fields [] []
  | entry {e : Entry} {entries : List Entry} {rest : Bytes} (more : ExtendedForm fields entries rest) :
      ExtendedForm fields (e :: entries) (e.bytes ++ rest)
  | unknown {number : Nat} {gap : Bytes} {entries : List Entry} {rest : Bytes}
      (absent : number ∉ fields.map (·.number)) (field : FieldForm number gap)
      (more : ExtendedForm fields entries rest) : ExtendedForm fields entries (gap ++ rest)

namespace Record

variable {f g : Field} {fields : List Field} {e : Entry} {entries : List Entry} {input : Bytes}

/-- The fields of a record that can be written: each has a number of its own. -/
def Numbered (fields : List Field) : Prop :=
  (fields.map (·.number)).Nodup ∧ ∀ f ∈ fields, ValidNumber f.number

theorem Numbered.tail (h : Numbered (f :: fields)) : Numbered fields :=
  ⟨(List.nodup_cons.mp h.1).2, fun g hg => h.2 g (List.mem_cons_of_mem f hg)⟩

theorem Numbered.number_ne (h : Numbered (f :: fields)) (hg : g ∈ fields) : f.number ≠ g.number := by
  intro he
  exact (List.nodup_cons.mp h.1).1 (List.mem_map.mpr ⟨g, hg, he.symm⟩)

/-- The entries of a record that are not empty, in the order of its fields. -/
def entriesOf : (fields : List Field) → Record fields → List Entry
  | [], () => []
  | f :: fields, (value, record) =>
    (if f.type.content value = [] then [] else [⟨f, value⟩]) ++ entriesOf fields record

/-- Puts an entry into its place. -/
def put : (fields : List Field) → Record fields → Entry → Record fields
  | [], (), _ => ()
  | f :: fields, (value, record), e =>
    if h : e.field = f then (h ▸ e.value, record) else (value, put fields record e)

/-- A record with each field that is not empty in another one replaced by that one's. -/
def overlay : (fields : List Field) → Record fields → Record fields → Record fields
  | [], (), () => ()
  | f :: fields, (old, record), (new, other) =>
    (if f.type.content new = [] then old else new, overlay fields record other)

theorem encode_eq_flatMap (fields : List Field) (record : Record fields) :
    encode fields record = (entriesOf fields record).flatMap Entry.bytes := by
  induction fields with
  | nil => rfl
  | cons f fields ih =>
    obtain ⟨value, record⟩ := record
    rw [encode, entriesOf, List.flatMap_append, ih]
    by_cases hc : f.type.content value = []
    · simp [hc]
    · simp [hc, Entry.bytes, Entry.content]

theorem field_mem {record : Record fields} (h : e ∈ entriesOf fields record) : e.field ∈ fields := by
  induction fields with
  | nil => cases h
  | cons f fields ih =>
    obtain ⟨value, record⟩ := record
    rw [entriesOf, List.mem_append] at h
    rcases h with h | h
    · split at h
      · cases h
      · obtain rfl := List.mem_singleton.mp h
        exact List.mem_cons_self
    · exact List.mem_cons_of_mem f (ih h)

theorem length_content_le {record : Record fields} (h : e ∈ entriesOf fields record) :
    e.content.length ≤ (encode fields record).length := by
  obtain ⟨front, rest, hsplit⟩ := List.append_of_mem h
  have hbytes := length_le_fieldBytes e.field.number e.content
  rw [encode_eq_flatMap, hsplit, List.flatMap_append, List.flatMap_cons, List.length_append,
    List.length_append, Entry.bytes]
  omega

theorem extendedForm_encode (fields : List Field) (record : Record fields) :
    ExtendedForm fields (entriesOf fields record) (encode fields record) := by
  rw [encode_eq_flatMap]
  induction entriesOf fields record with
  | nil => exact .nil
  | cons e entries ih => exact .entry ih

theorem readFields_nil (record : Record fields) : readFields fields record [] = .ok record := by
  rw [readFields]

/-- Reading goes on behind a field that is known, with its value in place. -/
theorem readFields_of_known {record after : Record fields} {number : Nat} {wire : WireType}
    {rest tail : Bytes} (hk : readKey input = .ok (number, wire, rest))
    (hi : readInto fields record number wire rest = some (.ok (after, tail))) :
    readFields fields record input = readFields fields after tail := by
  rw [readFields.eq_def]
  split
  · cases hk
  · split
    · rename_i hk'
      rw [hk] at hk'
      cases hk'
    · rename_i hk'
      rw [hk] at hk'
      cases hk'
      split
      all_goals
        rename_i hi'
        rw [hi] at hi'
        cases hi'
      rfl

/-- Reading goes on behind a field that is not known. -/
theorem readFields_of_unknown {record : Record fields} {number : Nat} {wire : WireType}
    {rest tail : Bytes} (hk : readKey input = .ok (number, wire, rest))
    (hi : readInto fields record number wire rest = none)
    (hs : skipField number wire rest = .ok tail) :
    readFields fields record input = readFields fields record tail := by
  rw [readFields.eq_def]
  split
  · cases hk
  · split
    · rename_i hk'
      rw [hk] at hk'
      cases hk'
    · rename_i hk'
      rw [hk] at hk'
      cases hk'
      split
      · rename_i hi'
        rw [hi] at hi'
        cases hi'
      · rename_i hi'
        rw [hi] at hi'
        cases hi'
      · split
        all_goals
          rename_i hs'
          rw [hs] at hs'
          cases hs'
        rfl

theorem readInto_of_absent {number : Nat} (h : number ∉ fields.map (·.number))
    (record : Record fields) (wire : WireType) (input : Bytes) :
    readInto fields record number wire input = none := by
  induction fields with
  | nil => rfl
  | cons f fields ih =>
    obtain ⟨value, record⟩ := record
    rw [List.map_cons, List.mem_cons, not_or] at h
    rw [readInto, if_neg (Ne.symm h.1), ih h.2]

theorem readInto_of_mem (hfields : Numbered fields) (he : e.field ∈ fields)
    (hsize : e.content.length < 2 ^ 64) (record : Record fields) (tail : Bytes) :
    readInto fields record e.field.number .lengthDelimited
      (varint e.content.length ++ (e.content ++ tail)) = some (.ok (put fields record e, tail)) := by
  induction fields with
  | nil => cases he
  | cons f fields ih =>
    obtain ⟨old, record⟩ := record
    obtain ⟨field, value⟩ := e
    rw [readInto, put]
    by_cases hf : field = f
    · subst hf
      have hread := readContent_content hsize tail
      simp only [Entry.content] at hread ⊢
      simp only [hread, if_true, dite_true]
    · have hmem : field ∈ fields := (List.mem_cons.mp he).resolve_left hf
      rw [if_neg (hfields.number_ne hmem), ih hfields.tail hmem record, dif_neg hf]

theorem readFields_entry (hfields : Numbered fields) (he : e.field ∈ fields)
    (hsize : e.content.length < 2 ^ 64) (record : Record fields) (tail : Bytes) :
    readFields fields record (e.bytes ++ tail) = readFields fields (put fields record e) tail := by
  have hkey := (keyForm_keyBytes (hfields.2 _ he) .lengthDelimited).read
    (varint e.content.length ++ (e.content ++ tail))
  rw [Entry.bytes, fieldBytes, List.append_assoc, List.append_assoc]
  exact readFields_of_known hkey (readInto_of_mem hfields he hsize record tail)

theorem readFields_field {number : Nat} {gap : Bytes} (habsent : number ∉ fields.map (·.number))
    (h : FieldForm number gap) (record : Record fields) (tail : Bytes) :
    readFields fields record (gap ++ tail) = readFields fields record tail := by
  obtain ⟨wire, behind, hkey, hskip⟩ := h.skip tail
  exact readFields_of_unknown hkey (readInto_of_absent habsent record wire behind) hskip

/-- Entries are put into their places one after the other, and what is not known is passed over. -/
theorem readFields_extended (hfields : Numbered fields) (h : ExtendedForm fields entries input)
    (hknown : ∀ e ∈ entries, e.field ∈ fields) (hsize : ∀ e ∈ entries, e.content.length < 2 ^ 64)
    (record : Record fields) (tail : Bytes) :
    readFields fields record (input ++ tail) =
      readFields fields (entries.foldl (put fields) record) tail := by
  induction h generalizing record with
  | nil => rfl
  | @entry e entries rest _ ih =>
    rw [List.append_assoc, readFields_entry hfields (hknown e List.mem_cons_self)
      (hsize e List.mem_cons_self), List.foldl_cons]
    exact ih (fun e he => hknown e (List.mem_cons_of_mem _ he))
      (fun e he => hsize e (List.mem_cons_of_mem _ he)) (put fields record e)
  | unknown absent field _ ih =>
    rw [List.append_assoc, readFields_field absent field]
    exact ih hknown hsize record

/-- Entries of other fields leave a value in place. -/
theorem foldl_put_cons (h : ∀ e ∈ entries, e.field ≠ f) (value : f.type.Val)
    (record : Record fields) :
    entries.foldl (put (f :: fields)) (value, record) = (value, entries.foldl (put fields) record) := by
  induction entries generalizing record with
  | nil => rfl
  | cons e entries ih =>
    rw [List.foldl_cons, List.foldl_cons, put, dif_neg (h e List.mem_cons_self)]
    exact ih (fun e he => h e (List.mem_cons_of_mem _ he)) (put fields record e)

theorem foldl_put_entriesOf (hfields : Numbered fields) (old new : Record fields) :
    (entriesOf fields new).foldl (put fields) old = overlay fields old new := by
  induction fields with
  | nil => rfl
  | cons f fields ih =>
    obtain ⟨first, old⟩ := old
    obtain ⟨value, new⟩ := new
    have hother : ∀ e ∈ entriesOf fields new, e.field ≠ f := fun e he hf =>
      hfields.number_ne (field_mem he) (congrArg Field.number hf.symm)
    rw [entriesOf, overlay, List.foldl_append]
    by_cases hc : f.type.content value = []
    · rw [if_pos hc, if_pos hc, List.foldl_nil, foldl_put_cons hother, ih hfields.tail]
    · rw [if_neg hc, if_neg hc, List.foldl_cons, List.foldl_nil, put, dif_pos rfl,
        foldl_put_cons hother, ih hfields.tail]

theorem overlay_empty (record : Record fields) :
    overlay fields (empty fields) record = record := by
  induction fields with
  | nil => rfl
  | cons f fields ih =>
    obtain ⟨value, record⟩ := record
    rw [empty, overlay, ih]
    by_cases hc : f.type.content value = []
    · rw [if_pos hc, content_eq_nil hc]
    · rw [if_neg hc]

/-- A record that is read over another one, with unknown fields anywhere between its entries. -/
theorem readFields_overlay (hfields : Numbered fields) (old : Record fields) {new : Record fields}
    (hsize : (encode fields new).length < 2 ^ 64)
    (h : ExtendedForm fields (entriesOf fields new) input) (tail : Bytes) :
    readFields fields old (input ++ tail) = readFields fields (overlay fields old new) tail := by
  rw [readFields_extended hfields h (fun _ => field_mem)
    (fun e he => Nat.lt_of_le_of_lt (length_content_le he) hsize), foldl_put_entriesOf hfields]

/-- A record is read back whatever unknown fields stand between its entries. -/
theorem decode_extended (hfields : Numbered fields) {record : Record fields}
    (hsize : (encode fields record).length < 2 ^ 64)
    (h : ExtendedForm fields (entriesOf fields record) input) :
    decode fields input = .ok record := by
  have hread := readFields_overlay hfields (empty fields) hsize h []
  rw [List.append_nil, overlay_empty, readFields_nil] at hread
  exact hread

theorem decode_encode (hfields : Numbered fields) (record : Record fields)
    (hsize : (encode fields record).length < 2 ^ 64) :
    decode fields (encode fields record) = .ok record :=
  decode_extended hfields hsize (extendedForm_encode fields record)

/-- Of two records one after the other, the second one is read over the first. -/
theorem decode_append (hfields : Numbered fields) {first second : Record fields} {more : Bytes}
    (hfirst : (encode fields first).length < 2 ^ 64)
    (hsecond : (encode fields second).length < 2 ^ 64)
    (h : ExtendedForm fields (entriesOf fields first) input)
    (hmore : ExtendedForm fields (entriesOf fields second) more) :
    decode fields (input ++ more) = .ok (overlay fields first second) := by
  have hread := readFields_overlay hfields first hsecond hmore []
  rw [List.append_nil, readFields_nil] at hread
  rw [decode, readFields_overlay hfields (empty fields) hfirst h, overlay_empty, hread]

end Record

end TypedBus.Protobuf
