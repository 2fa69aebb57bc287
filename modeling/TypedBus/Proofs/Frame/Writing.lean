import TypedBus.Proofs.Frame.Limits
import TypedBus.Proofs.Frame.Stream
import TypedBus.Proofs.Text.Order

namespace TypedBus.Frame

variable {m : Message} {e : FrameError}

/-- The first of the keys that are too long, in the order of their UTF-8 bytes. -/
structure FirstLongKey (metadata : Metadata) (entry : Entry) : Prop where
  mem : entry ∈ metadata.entries
  long : wordLimit < entry.1.utf8ByteSize
  first : ∀ other ∈ metadata.entries, wordLimit < other.1.utf8ByteSize →
    other = entry ∨ Text.utf8 entry.1 < Text.utf8 other.1

/-- The first limit that a message exceeds: entries are counted before their keys are looked at, the
metadata are measured before the whole body. -/
inductive Excess (m : Message) : FrameError → Prop
  | count (beyond : wordLimit < m.metadata.entries.length) :
      Excess m (.tooManyEntries m.metadata.entries.length)
  | key {entry : Entry} (count : m.metadata.entries.length ≤ wordLimit)
      (beyond : FirstLongKey m.metadata entry) : Excess m (.keyTooLong entry.1.utf8ByteSize)
  | metadata (count : m.metadata.entries.length ≤ wordLimit)
      (keys : ∀ entry ∈ m.metadata.entries, entry.1.utf8ByteSize ≤ wordLimit)
      (beyond : metadataLimit < metadataSize m.metadata.entries) :
      Excess m (.frameTooLarge (metadataSize m.metadata.entries))
  | whole (count : m.metadata.entries.length ≤ wordLimit)
      (keys : ∀ entry ∈ m.metadata.entries, entry.1.utf8ByteSize ≤ wordLimit)
      (taken : metadataSize m.metadata.entries ≤ metadataLimit)
      (beyond : bodyLimit < countWidth + metadataSize m.metadata.entries + m.size) :
      Excess m (.frameTooLarge (countWidth + metadataSize m.metadata.entries + m.size))

/-- Every length in the frame of a message is read back from the bytes that it is written in: none is
too large for the width of its field. -/
structure LengthsKept (m : Message) : Prop where
  body : (Bytes.ofNat lengthWidth (bodyBytes m).length).toNat = (bodyBytes m).length
  count : (Bytes.ofNat countWidth m.metadata.entries.length).toNat = m.metadata.entries.length
  keys : ∀ e ∈ m.metadata.entries,
    (Bytes.ofNat keyWidth e.1.utf8ByteSize).toNat = e.1.utf8ByteSize
  values : ∀ e ∈ m.metadata.entries,
    (Bytes.ofNat valueWidth e.2.utf8ByteSize).toNat = e.2.utf8ByteSize

theorem WithinLimits.lengthsKept (h : WithinLimits m) : LengthsKept m where
  body := by
    have hwhole := h.whole
    rw [← length_bodyBytes] at hwhole
    exact Bytes.toNat_ofNat_of_lt (Nat.lt_of_le_of_lt hwhole (by decide))
  count := Bytes.toNat_ofNat_of_lt h.fieldsFit.count
  keys e he := Bytes.toNat_ofNat_of_lt (h.fieldsFit.keys e he)
  values e he := Bytes.toNat_ofNat_of_lt (h.fieldsFit.values e he)

/-- A search along the entries finds the first key, as they are in the order of their keys. -/
theorem find?_longKey_eq_some_iff {metadata : Metadata} {entry : Entry} :
    metadata.entries.find? (fun e => decide (e.1.utf8ByteSize > wordLimit)) = some entry ↔
      FirstLongKey metadata entry := by
  constructor
  · intro hfind
    obtain ⟨hlong, before, after, hsplit, hbefore⟩ := List.find?_eq_some_iff_append.mp hfind
    refine ⟨List.mem_of_find?_eq_some hfind, of_decide_eq_true hlong, ?_⟩
    intro other hother hover
    have hordered := metadata.ordered
    rw [hsplit] at hother hordered
    rcases List.mem_append.mp hother with hother | hother
    · have hshort := hbefore other hother
      simp [hover] at hshort
    · rcases List.mem_cons.mp hother with rfl | hother
      · exact .inl rfl
      · have hafter := (List.pairwise_append.mp hordered).2.1
        exact .inr (Text.utf8_lt_utf8 ((List.pairwise_cons.mp hafter).1 other hother))
  · intro h
    obtain ⟨before, after, hsplit⟩ := List.append_of_mem h.mem
    refine List.find?_eq_some_iff_append.mpr ⟨decide_eq_true h.long, before, after, hsplit, ?_⟩
    intro other hother
    have hordered := metadata.ordered
    rw [hsplit] at hordered
    have hlt : other.1 < entry.1 :=
      (List.pairwise_append.mp hordered).2.2 other hother entry (by simp)
    -- a long key in front of the first one would have to be behind it as well
    have hshort : ¬ wordLimit < other.1.utf8ByteSize := by
      intro hlong
      rcases h.first other (hsplit ▸ List.mem_append_left _ hother) hlong with rfl | hbehind
      · exact String.lt_irrefl _ hlt
      · exact String.lt_irrefl _ (String.lt_trans hlt (Text.utf8_lt_utf8_iff.mp hbehind))
    simpa using hshort

theorem Excess.bodySize_eq (h : Excess m e) : bodySize m = .error e := by
  cases h with
  | count beyond => simp only [bodySize, if_pos beyond]
  | key count beyond =>
    simp only [bodySize, if_neg (Nat.not_lt.mpr count), find?_longKey_eq_some_iff.mpr beyond]
  | metadata count keys beyond =>
    simp only [bodySize, if_neg (Nat.not_lt.mpr count), find?_longKey_eq_none keys, if_pos beyond]
  | whole count keys taken beyond =>
    simp only [bodySize, if_neg (Nat.not_lt.mpr count), find?_longKey_eq_none keys,
      if_neg (Nat.not_lt.mpr taken), if_pos beyond]

/-- Every message is within the limits, or there is a first one that it exceeds. -/
theorem withinLimits_or_excess (m : Message) : WithinLimits m ∨ ∃ e, Excess m e := by
  by_cases count : m.metadata.entries.length ≤ wordLimit
  · cases hfind : m.metadata.entries.find? (fun e => decide (e.1.utf8ByteSize > wordLimit)) with
    | some entry => exact .inr ⟨_, .key count (find?_longKey_eq_some_iff.mp hfind)⟩
    | none =>
      have keys : ∀ entry ∈ m.metadata.entries, entry.1.utf8ByteSize ≤ wordLimit := by
        intro entry hentry
        simpa using List.find?_eq_none.mp hfind entry hentry
      by_cases taken : metadataSize m.metadata.entries ≤ metadataLimit
      · by_cases whole : countWidth + metadataSize m.metadata.entries + m.size ≤ bodyLimit
        · exact .inl ⟨count, keys, taken, whole⟩
        · exact .inr ⟨_, .whole count keys taken (Nat.not_le.mp whole)⟩
      · exact .inr ⟨_, .metadata count keys (Nat.not_le.mp taken)⟩
  · exact .inr ⟨_, .count (Nat.not_le.mp count)⟩

theorem Excess.unique {d : FrameError} (h : Excess m e) (h' : Excess m d) : e = d :=
  Except.error.inj (h.bodySize_eq.symm.trans h'.bodySize_eq)

theorem Excess.not_withinLimits (h : Excess m e) : ¬ WithinLimits m := by
  intro hm
  cases h.bodySize_eq.symm.trans (bodySize_eq_ok_iff.mpr ⟨hm, rfl⟩)

theorem encodeInto_of_excess (h : Excess m e) (buffer : Bytes) :
    encodeInto m buffer = (.error e, buffer) := by
  simp only [encodeInto, encode_eq_error h.bodySize_eq]

theorem encodeInto_eq_ok_iff {buffer : Bytes} :
    (encodeInto m buffer).1 = .ok () ↔ WithinLimits m := by
  constructor
  · intro h
    rcases withinLimits_or_excess m with hm | ⟨e, he⟩
    · exact hm
    · rw [encodeInto_of_excess he] at h
      cases h
  · intro h
    rw [encodeInto_of_withinLimits h]

theorem encodeInto_eq_error_iff {buffer : Bytes} :
    (encodeInto m buffer).1 = .error e ↔ Excess m e := by
  constructor
  · intro h
    rcases withinLimits_or_excess m with hm | ⟨d, hd⟩
    · rw [encodeInto_of_withinLimits hm] at h
      cases h
    · rw [encodeInto_of_excess hd] at h
      cases h
      exact hd
  · intro h
    rw [encodeInto_of_excess h]

/-- A message is written exactly if it keeps the limits. Its frame is then appended to the buffer: the
size that was predicted for the body in four bytes, and a body of that size, in which no length has
lost anything to the width of its field. Otherwise the buffer stays as it is, and the error is for the
first limit that the message exceeds. -/
theorem frames_are_written_whole_or_not_at_all (m : Message) (buffer : Bytes) :
    ((encodeInto m buffer).1 = .ok () ↔ WithinLimits m) ∧
      (∀ e, (encodeInto m buffer).1 = .error e ↔ Excess m e) ∧
      (WithinLimits m → ∃ size, bodySize m = .ok size ∧ (bodyBytes m).length = size ∧
        encodeInto m buffer = (.ok (), buffer ++ (Bytes.ofNat lengthWidth size ++ bodyBytes m)) ∧
        (encodeInto m buffer).2.length = buffer.length + (lengthWidth + size) ∧ LengthsKept m) ∧
      (¬ WithinLimits m → ∃ e, Excess m e ∧ encodeInto m buffer = (.error e, buffer)) := by
  refine ⟨encodeInto_eq_ok_iff, fun e => encodeInto_eq_error_iff, fun hm => ?_, fun hm => ?_⟩
  · have hwrite : encodeInto m buffer =
        (.ok (), buffer ++ (Bytes.ofNat lengthWidth (bodyBytes m).length ++ bodyBytes m)) :=
      encodeInto_of_withinLimits hm buffer
    have hsize := bodySize_eq_ok_iff.mpr ⟨hm, length_bodyBytes m⟩
    refine ⟨(bodyBytes m).length, hsize, rfl, hwrite, ?_, hm.lengthsKept⟩
    simp only [hwrite, List.length_append, Bytes.length_ofNat]
  · obtain ⟨e, he⟩ := (withinLimits_or_excess m).resolve_left hm
    exact ⟨e, he, encodeInto_of_excess he buffer⟩

/-- A message of one byte with one entry, whose key has `n` letters. -/
def longKeyed (n : Nat) : Message :=
  (Message.withData [7]).putMeta (String.ofList (List.replicate n 'a')) "v"

theorem metadataSize_longKeyed (n : Nat) : metadataSize (longKeyed n).metadata.entries = 7 + n := by
  have hsize : metadataSize (longKeyed n).metadata.entries =
      entrySize (String.ofList (List.replicate n 'a'), "v") + 0 := rfl
  have hvalue : "v".utf8ByteSize = 1 := by decide
  simp only [hsize, entrySize, utf8ByteSize_letters, hvalue, keyWidth, valueWidth]
  omega

theorem withinLimits_longKeyed {n : Nat} (h : n ≤ wordLimit) : WithinLimits (longKeyed n) where
  count := by
    have hone : (longKeyed n).metadata.entries.length = 1 := rfl
    rw [hone]
    decide
  keys e he := by
    obtain rfl := List.mem_singleton.mp he
    rwa [utf8ByteSize_letters]
  taken := by
    rw [metadataSize_longKeyed]
    simp only [wordLimit, metadataLimit] at h ⊢
    omega
  whole := by
    have hone : (longKeyed n).size = 1 := rfl
    rw [metadataSize_longKeyed, hone]
    simp only [wordLimit, countWidth, bodyLimit, payloadLimit, metadataLimit] at h ⊢
    omega

theorem excess_longKeyed {n : Nat} (h : wordLimit < n) : Excess (longKeyed n) (.keyTooLong n) := by
  have hcount : (longKeyed n).metadata.entries.length ≤ wordLimit := by
    have hone : (longKeyed n).metadata.entries.length = 1 := rfl
    rw [hone]
    decide
  have hkey : FirstLongKey (longKeyed n).metadata (String.ofList (List.replicate n 'a'), "v") := by
    refine ⟨List.mem_singleton.mpr rfl, by rwa [utf8ByteSize_letters], fun other hother _ => ?_⟩
    exact .inl (List.mem_singleton.mp hother)
  have hexcess := Excess.key hcount hkey
  rwa [utf8ByteSize_letters] at hexcess

/-- A key of three letters is written, one letter more than two bytes can count is refused. -/
theorem frames_are_written_whole_or_not_at_all_sample :
    WithinLimits (longKeyed 3) ∧
      encodeInto (longKeyed 3) [9] =
        (.ok (), [9, 13, 0, 0, 0, 1, 0, 3, 0, 97, 97, 97, 1, 0, 0, 0, 118, 7]) ∧
      ¬ WithinLimits (longKeyed 65536) ∧
      encodeInto (longKeyed 65536) [9] = (.error (.keyTooLong 65536), [9]) := by
  have hwithin : WithinLimits (longKeyed 3) := withinLimits_longKeyed (by decide)
  have hexcess : Excess (longKeyed 65536) (.keyTooLong 65536) := excess_longKeyed (by decide)
  obtain ⟨-, -, hwritten, -⟩ := frames_are_written_whole_or_not_at_all (longKeyed 3) [9]
  obtain ⟨size, hsize, -, hwrite, -⟩ := hwritten hwithin
  have hpredicted : bodySize (longKeyed 3) = .ok 13 := rfl
  obtain rfl : 13 = size := Except.ok.inj (hpredicted.symm.trans hsize)
  obtain ⟨-, -, -, hkept⟩ := frames_are_written_whole_or_not_at_all (longKeyed 65536) [9]
  obtain ⟨e, he, hrefuse⟩ := hkept hexcess.not_withinLimits
  obtain rfl := hexcess.unique he
  exact ⟨hwithin, hwrite, hexcess.not_withinLimits, hrefuse⟩

end TypedBus.Frame
