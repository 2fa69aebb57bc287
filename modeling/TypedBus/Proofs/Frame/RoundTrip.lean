import TypedBus.Proofs.Frame.Grammar

namespace TypedBus.Frame

/-- The limits of the format. Within them every length in a frame fits into its field. -/
structure WithinLimits (m : Message) : Prop where
  count : m.metadata.entries.length ≤ wordLimit
  keys : ∀ e ∈ m.metadata.entries, e.1.utf8ByteSize ≤ wordLimit
  taken : metadataSize m.metadata.entries ≤ metadataLimit
  whole : countWidth + metadataSize m.metadata.entries + m.size ≤ bodyLimit

theorem find?_longKey_eq_none {entries : List Entry}
    (h : ∀ e ∈ entries, e.1.utf8ByteSize ≤ wordLimit) :
    entries.find? (fun e => decide (e.1.utf8ByteSize > wordLimit)) = none := by
  apply List.find?_eq_none.mpr
  intro e he
  simpa using h e he

theorem bodySize_eq_ok_iff {m : Message} {size : Nat} :
    bodySize m = .ok size ↔
      WithinLimits m ∧ size = countWidth + metadataSize m.metadata.entries + m.size := by
  constructor
  · intro h
    simp only [bodySize] at h
    split at h
    · cases h
    · rename_i hcount
      split at h
      · cases h
      · rename_i hkeys
        split at h
        · cases h
        · rename_i htaken
          split at h
          · cases h
          · rename_i hwhole
            cases h
            refine ⟨⟨by omega, ?_, by omega, by omega⟩, rfl⟩
            intro e he
            have := List.find?_eq_none.mp hkeys e he
            simpa using this
  · rintro ⟨h, rfl⟩
    have hkeys := find?_longKey_eq_none h.keys
    have hcount := h.count
    have htaken := h.taken
    have hwhole := h.whole
    simp only [bodySize, hkeys]
    rw [if_neg (by omega), if_neg (by omega), if_neg (by omega)]

theorem exists_bodySize_iff {m : Message} : (∃ size, bodySize m = .ok size) ↔ WithinLimits m :=
  ⟨fun ⟨_, hsize⟩ => (bodySize_eq_ok_iff.mp hsize).1, fun h => ⟨_, bodySize_eq_ok_iff.mpr ⟨h, rfl⟩⟩⟩

theorem length_textBytes (width : Nat) (text : String) :
    (textBytes width text).length = width + text.utf8ByteSize := by
  simp [textBytes]

theorem length_entryBytes (e : Entry) : (entryBytes e).length = entrySize e := by
  simp only [entryBytes, entrySize, List.length_append, length_textBytes]
  omega

theorem length_entriesBytes (entries : List Entry) :
    (entries.flatMap entryBytes).length = metadataSize entries := by
  induction entries with
  | nil => rfl
  | cons e entries ih =>
    rw [List.flatMap_cons, List.length_append, ih, length_entryBytes]
    rfl

theorem length_bodyBytes (m : Message) :
    (bodyBytes m).length = countWidth + metadataSize m.metadata.entries + m.size := by
  simp only [bodyBytes, List.length_append, Bytes.length_ofNat, length_entriesBytes, Message.size]
  omega

theorem valueSize_le {entries : List Entry} {e : Entry} (he : e ∈ entries) :
    e.2.utf8ByteSize ≤ metadataSize entries := by
  induction entries with
  | nil => cases he
  | cons d entries ih =>
    have hsum : metadataSize (d :: entries) = entrySize d + metadataSize entries := rfl
    rcases List.mem_cons.mp he with rfl | he
    · simp only [hsum, entrySize]
      omega
    · have := ih he
      omega

/-- The lengths in a frame's body fit into their fields. -/
structure FieldsFit (m : Message) : Prop where
  count : m.metadata.entries.length < Bytes.limit countWidth
  keys : ∀ e ∈ m.metadata.entries, e.1.utf8ByteSize < Bytes.limit keyWidth
  values : ∀ e ∈ m.metadata.entries, e.2.utf8ByteSize < Bytes.limit valueWidth

theorem WithinLimits.fieldsFit {m : Message} (h : WithinLimits m) : FieldsFit m where
  count := Nat.lt_of_le_of_lt h.count (by decide)
  keys e he := Nat.lt_of_le_of_lt (h.keys e he) (by decide)
  values e he := Nat.lt_of_le_of_lt (Nat.le_trans (valueSize_le he) h.taken) (by decide)

theorem textForm_textBytes {width : Nat} {text : String}
    (h : text.utf8ByteSize < Bytes.limit width) : TextForm width text (textBytes width text) := by
  refine .mk (Bytes.length_ofNat _ _) ?_ (Text.ofUtf8?_utf8 text)
  rw [Text.length_utf8, Bytes.toNat_ofNat_of_lt h]

theorem entriesForm_entriesBytes {entries : List Entry}
    (hkeys : ∀ e ∈ entries, e.1.utf8ByteSize < Bytes.limit keyWidth)
    (hvalues : ∀ e ∈ entries, e.2.utf8ByteSize < Bytes.limit valueWidth) :
    EntriesForm entries (entries.flatMap entryBytes) := by
  induction entries with
  | nil => exact .nil
  | cons e entries ih =>
    obtain ⟨key, value⟩ := e
    have hkey := textForm_textBytes (hkeys (key, value) (by simp))
    have hvalue := textForm_textBytes (hvalues (key, value) (by simp))
    have hrest := ih (fun d hd => hkeys d (by simp [hd])) (fun d hd => hvalues d (by simp [hd]))
    rw [List.flatMap_cons, entryBytes, List.append_assoc]
    exact .cons hkey hvalue hrest

theorem bodyForm_bodyBytes {m : Message} (h : FieldsFit m) :
    BodyForm m.metadata.entries m.data (bodyBytes m) :=
  .mk (Bytes.length_ofNat _ _) (Bytes.toNat_ofNat_of_lt h.count).symm
    (entriesForm_entriesBytes h.keys h.values)

theorem readBody_bodyBytes {m : Message} (h : FieldsFit m) : readBody (bodyBytes m) = .ok m := by
  rw [(bodyForm_bodyBytes h).read, TextMap.ofList_entries]

/-- The frame of a message: its body behind the length of the body. -/
def frameBytes (m : Message) : Bytes :=
  Bytes.ofNat lengthWidth (bodyBytes m).length ++ bodyBytes m

theorem encode_eq_ok_iff {m : Message} {frame : Bytes} :
    encode m = .ok frame ↔ WithinLimits m ∧ frame = frameBytes m := by
  constructor
  · intro h
    cases hs : bodySize m with
    | error e => simp [encode, hs, Except.map] at h
    | ok size =>
      obtain ⟨hm, rfl⟩ := bodySize_eq_ok_iff.mp hs
      simp only [encode, hs, Except.map, Except.ok.injEq] at h
      exact ⟨hm, by rw [← h, frameBytes, length_bodyBytes]⟩
  · rintro ⟨hm, rfl⟩
    simp only [encode, bodySize_eq_ok_iff.mpr ⟨hm, rfl⟩, Except.map, frameBytes, length_bodyBytes]

theorem encode_eq_error {m : Message} {e : FrameError} (h : bodySize m = .error e) :
    encode m = .error e := by
  rw [encode, h]
  rfl

/-- The frame of a message whose fields fit is read back, and nothing of what stands behind it. -/
theorem decode_frameBytes {m : Message} (h : FieldsFit m)
    (hlimit : countWidth + metadataSize m.metadata.entries + m.size ≤ bodyLimit) (rest : Bytes) :
    decode (frameBytes m ++ rest) = (.ok (some m), rest) := by
  rw [← length_bodyBytes] at hlimit
  have hsize : (Bytes.ofNat lengthWidth (bodyBytes m).length).toNat = (bodyBytes m).length :=
    Bytes.toNat_ofNat_of_lt (Nat.lt_of_le_of_lt hlimit (by decide))
  have hframe := decode_frame (Bytes.length_ofNat lengthWidth (bodyBytes m).length) hsize.symm
    (Nat.le_trans (Nat.le_of_eq hsize) hlimit) rest
  rw [frameBytes, List.append_assoc, hframe, readBody_bodyBytes h]
  rfl

theorem decode_encode_append {m : Message} {frame : Bytes} (h : encode m = .ok frame)
    (rest : Bytes) : decode (frame ++ rest) = (.ok (some m), rest) := by
  obtain ⟨hm, rfl⟩ := encode_eq_ok_iff.mp h
  exact decode_frameBytes hm.fieldsFit hm.whole rest

theorem decode_encode {m : Message} {frame : Bytes} (h : encode m = .ok frame) :
    decode frame = (.ok (some m), []) := by
  simpa using decode_encode_append h []

end TypedBus.Frame
