import TypedBus.Proofs.Frame.Limits
import TypedBus.Proofs.Text.Order

namespace TypedBus.Frame

variable {width : Nat} {text : String} {bytes body frame payload data : Bytes}
  {entries others : List Entry} {m : Message}

/-- A complete frame: a length within the limit, and a body of that length. -/
inductive FrameForm (entries : List Entry) (payload : Bytes) : Bytes → Prop
  | mk {size body : Bytes} (sized : size.length = lengthWidth) (length : body.length = size.toNat)
      (limit : size.toNat ≤ bodyLimit) (form : BodyForm entries payload body) :
      FrameForm entries payload (size ++ body)

/-- The keys of entries in strictly increasing order of their UTF-8 bytes. -/
def KeysAscend (entries : List Entry) : Prop :=
  entries.Pairwise fun a b => Text.utf8 a.1 < Text.utf8 b.1

theorem keysAscend_iff : KeysAscend entries ↔ entries.Pairwise fun a b => a.1 < b.1 := by
  unfold KeysAscend
  simp only [Text.utf8_lt_utf8_iff]

theorem keysAscend_entries (metadata : Metadata) : KeysAscend metadata.entries :=
  keysAscend_iff.mpr metadata.ordered

/-- What is read from a buffer that is used up is the message of a complete frame. -/
theorem decode_eq_used_up_iff : decode bytes = (.ok (some m), []) ↔
    ∃ entries, FrameForm entries m.data bytes ∧ m.metadata = .ofList entries := by
  constructor
  · intro h
    have hd := decoded bytes
    rw [h] at hd
    generalize hr : (Except.ok (some m), ([] : Bytes)) = attempt at hd
    cases hd with
    | short | cut | oversized => cases hr
    | whole sized length limit =>
      obtain ⟨hbody, rfl⟩ := Prod.mk.inj hr
      obtain ⟨entries, form, hmeta⟩ := readBody_eq_ok_iff.mp (map_some_eq_ok_iff.mp hbody.symm)
      rw [List.append_nil]
      exact ⟨entries, .mk sized length limit form, hmeta⟩
  · rintro ⟨entries, ⟨sized, length, limit, form⟩, hmeta⟩
    have hread := decode_frame sized length limit []
    rw [List.append_nil, readBody_eq_ok_iff.mpr ⟨entries, form, hmeta⟩] at hread
    exact hread

theorem TextForm.bytes_eq (h : TextForm width text bytes) : bytes = textBytes width text := by
  obtain ⟨sized, length, utf8⟩ := h
  have hraw := Text.ofUtf8?_eq_some_iff.mp utf8
  rw [textBytes, ← Text.length_utf8, ← hraw, length, Bytes.ofNat_toNat sized]

theorem EntriesForm.bytes_eq (h : EntriesForm entries bytes) : bytes = entries.flatMap entryBytes := by
  induction h with
  | nil => rfl
  | cons hkey hvalue _ ih =>
    rw [List.flatMap_cons, entryBytes, hkey.bytes_eq, hvalue.bytes_eq, ih, List.append_assoc]

theorem BodyForm.bytes_eq (h : BodyForm entries payload body) :
    body = Bytes.ofNat countWidth entries.length ++ (entries.flatMap entryBytes ++ payload) := by
  obtain ⟨sized, number, form⟩ := h
  rw [number, Bytes.ofNat_toNat sized, ← form.bytes_eq]

theorem FrameForm.bytes_unique (h : FrameForm entries payload frame)
    (h' : FrameForm entries payload bytes) : frame = bytes := by
  obtain ⟨sized, length, -, form⟩ := h
  obtain ⟨sized', length', -, form'⟩ := h'
  have hbody := form.bytes_eq.trans form'.bytes_eq.symm
  rw [← Bytes.ofNat_toNat sized, ← Bytes.ofNat_toNat sized', ← length, ← length', hbody]

theorem FrameForm.length_eq (h : FrameForm entries payload frame) :
    frame.length = lengthWidth + (countWidth + metadataSize entries + payload.length) := by
  obtain ⟨sized, -, -, form⟩ := h
  rw [form.bytes_eq]
  simp only [List.length_append, sized, Bytes.length_ofNat, length_entriesBytes]
  omega

/-- The reader, which takes one entry after the other, finds those of the form. -/
theorem BodyForm.unique (h : BodyForm entries payload body) (h' : BodyForm others data body) :
    entries = others ∧ payload = data := by
  generalize hbody : body = body' at h'
  obtain ⟨sized, number, form⟩ := h
  obtain ⟨sized', number', form'⟩ := h'
  obtain ⟨rfl, hrest⟩ := List.append_inj hbody (sized.trans sized'.symm)
  have hread := form.read 0 [] payload
  have hread' := form'.read 0 [] data
  rw [Nat.add_zero, number, hrest] at hread
  rw [Nat.add_zero, number'] at hread'
  simpa [readEntries] using hread.symm.trans hread'

theorem FrameForm.unique (h : FrameForm entries payload frame) (h' : FrameForm others data frame) :
    entries = others ∧ payload = data := by
  generalize hframe : frame = frame' at h'
  obtain ⟨sized, -, -, form⟩ := h
  obtain ⟨sized', -, -, form'⟩ := h'
  obtain ⟨-, rfl⟩ := List.append_inj hframe (sized.trans sized'.symm)
  exact form.unique form'

theorem frameForm_of_encode (h : encode m = .ok frame) :
    FrameForm m.metadata.entries m.data frame := by
  obtain ⟨hm, rfl⟩ := encode_eq_ok_iff.mp h
  have hwhole := hm.whole
  rw [← length_bodyBytes] at hwhole
  have hsize : (Bytes.ofNat lengthWidth (bodyBytes m).length).toNat = (bodyBytes m).length :=
    Bytes.toNat_ofNat_of_lt (Nat.lt_of_le_of_lt hwhole (by decide))
  have hlimit := Nat.le_trans (Nat.le_of_eq hsize) hwhole
  exact .mk (Bytes.length_ofNat _ _) hsize.symm hlimit (bodyForm_bodyBytes hm.fieldsFit)

/-- Entries whose keys ascend are the entries of their map. -/
theorem entries_ofList_of_keysAscend (h : KeysAscend entries) :
    (TextMap.ofList entries).entries = entries :=
  congrArg TextMap.entries (TextMap.ofList_entries ⟨entries, keysAscend_iff.mp h⟩)

/-- A message that was read from a complete frame and can be written is written as that frame exactly
if the keys of its entries, which the frame determines, ascend. In every other case what is written is
no longer than the frame, is not the frame, and is read as the same message. -/
theorem reencoding_is_a_normal_form {again : Bytes} (hread : decode frame = (.ok (some m), []))
    (hwrite : encode m = .ok again) :
    ∃ entries, FrameForm entries m.data frame ∧
      (∀ others data, FrameForm others data frame → others = entries) ∧
      (again = frame ↔ KeysAscend entries) ∧
      (¬ KeysAscend entries →
        again.length ≤ frame.length ∧ again ≠ frame ∧ decode again = (.ok (some m), [])) := by
  obtain ⟨entries, hframe, hmeta⟩ := decode_eq_used_up_iff.mp hread
  have hagain := frameForm_of_encode hwrite
  have hiff : again = frame ↔ KeysAscend entries := by
    constructor
    · rintro rfl
      rw [(hframe.unique hagain).1]
      exact keysAscend_entries m.metadata
    · intro hsorted
      rw [hmeta, entries_ofList_of_keysAscend hsorted] at hagain
      exact hagain.bytes_unique hframe
  refine ⟨entries, hframe, fun others data h => (h.unique hframe).1, hiff, fun hunsorted => ?_⟩
  have hkept : metadataSize m.metadata.entries ≤ metadataSize entries := by
    rw [hmeta]
    exact metadataSize_le_of_subperm (entries_ofList_subperm entries)
  refine ⟨?_, fun heq => hunsorted (hiff.mp heq), decode_encode hwrite⟩
  rw [hframe.length_eq, hagain.length_eq]
  omega

/-- What is left of a frame with one key twice. -/
def lastKept : Message := (Message.withData [7]).putMeta "a" "2"

def lastKeptFrame : Bytes := [11, 0, 0, 0, 1, 0, 1, 0, 97, 1, 0, 0, 0, 50, 7]

/-- A frame with one key twice is written as a shorter one, and that one as it was. -/
theorem reencoding_is_a_normal_form_sample :
    decode ([19, 0, 0, 0] ++ repeatedKeyBody) = (.ok (some lastKept), []) ∧
      encode lastKept = .ok lastKeptFrame ∧ decode lastKeptFrame = (.ok (some lastKept), []) ∧
      (∃ entries, FrameForm entries [7] ([19, 0, 0, 0] ++ repeatedKeyBody) ∧ ¬ KeysAscend entries) ∧
      ∃ entries, FrameForm entries [7] lastKeptFrame ∧ KeysAscend entries := by
  have hread : decode ([19, 0, 0, 0] ++ repeatedKeyBody) = (.ok (some lastKept), []) := by
    have hmeta : TextMap.ofList [("a", "2")] = lastKept.metadata :=
      TextMap.ofList_entries lastKept.metadata
    have hbody := holds_iff.mp holds_repeatedKeyBody
    have hframe : decode ([19, 0, 0, 0] ++ (repeatedKeyBody ++ [])) =
        ((readBody repeatedKeyBody).map some, []) := decode_frame rfl rfl (by decide) []
    rwa [List.append_nil, hbody, hmeta] at hframe
  have hwrite : encode lastKept = .ok lastKeptFrame := rfl
  obtain ⟨entries, hform, -, hiff, hrest⟩ := reencoding_is_a_normal_form hread hwrite
  have hunsorted : ¬ KeysAscend entries := fun h => absurd (hiff.mpr h) (by decide)
  have hagain := (hrest hunsorted).2.2
  obtain ⟨kept, hkept, -, hsame, -⟩ := reencoding_is_a_normal_form hagain hwrite
  exact ⟨hread, hwrite, hagain, ⟨entries, hform, hunsorted⟩, kept, hkept, hsame.mp rfl⟩

end TypedBus.Frame
