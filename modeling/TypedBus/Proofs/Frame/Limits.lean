import Mathlib.Algebra.Order.Ring.Nat
import Mathlib.Algebra.Order.BigOperators.Group.List
import TypedBus.Proofs.Frame.RoundTrip

namespace TypedBus.Frame

variable {width : Nat} {text : String} {bytes body buffer payload rest : Bytes}
  {entries others : List Entry} {m : Message}

theorem TextForm.length_eq (h : TextForm width text bytes) :
    bytes.length = width + text.utf8ByteSize := by
  obtain ⟨sized, -, utf8⟩ := h
  rw [Text.ofUtf8?_eq_some_iff.mp utf8, List.length_append, sized, Text.length_utf8]

theorem TextForm.size_lt (h : TextForm width text bytes) : text.utf8ByteSize < Bytes.limit width := by
  obtain ⟨sized, length, utf8⟩ := h
  rw [← Text.length_utf8, ← Text.ofUtf8?_eq_some_iff.mp utf8, length, ← sized]
  exact Bytes.toNat_lt _

theorem EntriesForm.length_eq (h : EntriesForm entries bytes) :
    bytes.length = metadataSize entries := by
  induction h with
  | nil => rfl
  | @cons key value k v written entries hkey hvalue _ ih =>
    have hsum : metadataSize ((key, value) :: entries) =
        entrySize (key, value) + metadataSize entries := rfl
    simp only [hsum, entrySize, List.length_append, hkey.length_eq, hvalue.length_eq, ih]
    omega

theorem EntriesForm.key_lt (h : EntriesForm entries bytes) :
    ∀ e ∈ entries, e.1.utf8ByteSize < Bytes.limit keyWidth := by
  induction h with
  | nil => simp
  | cons hkey _ _ ih =>
    intro e he
    rcases List.mem_cons.mp he with rfl | he
    · exact hkey.size_lt
    · exact ih e he

theorem metadataSize_eq_sum (entries : List Entry) :
    metadataSize entries = (entries.map entrySize).sum := by
  rw [metadataSize, List.sum_eq_foldr, List.foldr_map]

/-- Fewer entries, in whatever order, take no more room. -/
theorem metadataSize_le_of_subperm (h : entries.Subperm others) :
    metadataSize entries ≤ metadataSize others := by
  obtain ⟨kept, hperm, hsub⟩ := h
  rw [metadataSize_eq_sum, metadataSize_eq_sum, ← (hperm.map entrySize).sum_eq]
  exact (hsub.map entrySize).sum_le_sum (by simp)

theorem entries_ofList_subperm (entries : List Entry) :
    (TextMap.ofList entries).entries.Subperm entries :=
  List.subperm_of_subset (TextMap.nodup _) fun _ => TextMap.mem_of_mem_ofList

/-- The limits that the reader checks, be it by the widths of the fields. -/
structure ReadLimits (m : Message) : Prop where
  count : m.metadata.entries.length ≤ wordLimit
  keys : ∀ e ∈ m.metadata.entries, e.1.utf8ByteSize ≤ wordLimit
  whole : countWidth + metadataSize m.metadata.entries + m.size ≤ bodyLimit

/-- What keeps those limits can be refused for its metadata only. -/
theorem ReadLimits.bodySize_eq_error (h : ReadLimits m)
    (htaken : metadataLimit < metadataSize m.metadata.entries) :
    bodySize m = .error (.frameTooLarge (metadataSize m.metadata.entries)) := by
  simp only [bodySize, find?_longKey_eq_none h.keys]
  rw [if_neg (Nat.not_lt.mpr h.count), if_pos htaken]

/-- A message from a body of the grammar is no larger than the body: repeated keys only make it
smaller. -/
theorem BodyForm.readLimits (h : BodyForm entries m.data body) (hmeta : m.metadata = .ofList entries)
    (hlimit : body.length ≤ bodyLimit) : ReadLimits m := by
  have hsub : m.metadata.entries.Subperm entries := hmeta ▸ entries_ofList_subperm entries
  have htaken := metadataSize_le_of_subperm hsub
  cases h with
  | @mk count written _ _ sized number form =>
    have hcount := Bytes.toNat_lt count
    rw [sized, ← number] at hcount
    simp only [List.length_append, sized, form.length_eq] at hlimit
    refine ⟨?_, ?_, ?_⟩
    · exact Nat.le_of_lt_succ (Nat.lt_of_le_of_lt hsub.length_le hcount)
    · intro e he
      exact Nat.le_of_lt_succ (form.key_lt e (hsub.subset he))
    · simp only [Message.size]
      omega

theorem readLimits_of_decode (h : decode buffer = (.ok (some m), rest)) : ReadLimits m := by
  have hd := decoded buffer
  rw [h] at hd
  generalize hr : (Except.ok (some m), rest) = attempt at hd
  cases hd with
  | short | cut | oversized => cases hr
  | whole sized length limit =>
    obtain ⟨entries, form, hmeta⟩ :=
      readBody_eq_ok_iff.mp (map_some_eq_ok_iff.mp (congrArg Prod.fst hr).symm)
    exact form.readLimits hmeta (length ▸ limit)

/-- A message without payload, whose only entry has a value of `n` letters. -/
def longValued (n : Nat) : Message :=
  (Message.withData []).putMeta "" (String.ofList (List.replicate n 'a'))

theorem utf8ByteSize_letters (n : Nat) : (String.ofList (List.replicate n 'a')).utf8ByteSize = n := by
  induction n with
  | zero => rfl
  | succ n ih =>
    have hletter : (String.ofList ['a']).utf8ByteSize = 1 := by decide
    rw [List.replicate_succ', String.ofList_append, String.utf8ByteSize_append, ih, hletter]

theorem metadataSize_longValued (n : Nat) : metadataSize (longValued n).metadata.entries = 6 + n := by
  have hsize : metadataSize (longValued n).metadata.entries =
      entrySize ("", String.ofList (List.replicate n 'a')) + 0 := rfl
  rw [hsize, entrySize, utf8ByteSize_letters]
  rfl

theorem fieldsFit_longValued {n : Nat} (h : n < Bytes.limit valueWidth) : FieldsFit (longValued n) where
  count := by
    have hone : (longValued n).metadata.entries.length = 1 := rfl
    rw [hone]
    decide
  keys e he := by
    obtain rfl := List.mem_singleton.mp he
    have hempty : "".utf8ByteSize < Bytes.limit keyWidth := by decide
    exact hempty
  values e he := by
    obtain rfl := List.mem_singleton.mp he
    rwa [utf8ByteSize_letters]

theorem decode_longValued {n : Nat} (h : n ≤ payloadLimit) :
    decode (frameBytes (longValued n)) = (.ok (some (longValued n)), []) := by
  have hsize : (longValued n).size = 0 := rfl
  have hvalue : n < Bytes.limit valueWidth := Nat.lt_of_le_of_lt h (by decide)
  have hlimit : countWidth + metadataSize (longValued n).metadata.entries + (longValued n).size ≤
      bodyLimit := by
    rw [metadataSize_longValued, hsize]
    simp only [countWidth, bodyLimit, metadataLimit]
    omega
  simpa using decode_frameBytes (fieldsFit_longValued hvalue) hlimit []

/-- A value of a mebibyte takes the metadata over their limit, as the lengths count too. -/
theorem bodySize_longValued :
    bodySize (longValued metadataLimit) = .error (.frameTooLarge 1048582) := by
  have hread := decode_longValued (n := metadataLimit) (by decide)
  have htaken : metadataSize (longValued metadataLimit).metadata.entries = 1048582 :=
    metadataSize_longValued metadataLimit
  have hover : metadataLimit < metadataSize (longValued metadataLimit).metadata.entries := by
    rw [htaken]
    decide
  have hrefused := (readLimits_of_decode hread).bodySize_eq_error hover
  rwa [htaken] at hrefused

/-- A message that was read keeps the limits on entries, keys and the whole body. It can be written
again, and then comes back, exactly if its metadata keep theirs; if not, the writer refuses it. -/
theorem read_messages_are_writable_up_to_metadata (h : decode buffer = (.ok (some m), rest)) :
    ReadLimits m ∧
      ((∃ frame, encode m = .ok frame ∧ decode frame = (.ok (some m), [])) ↔
        metadataSize m.metadata.entries ≤ metadataLimit) ∧
      (metadataLimit < metadataSize m.metadata.entries →
        encode m = .error (.frameTooLarge (metadataSize m.metadata.entries))) := by
  have hlimits := readLimits_of_decode h
  refine ⟨hlimits, ⟨?_, fun htaken => ?_⟩, fun htaken =>
    encode_eq_error (hlimits.bodySize_eq_error htaken)⟩
  · rintro ⟨frame, hencode, -⟩
    exact (encode_eq_ok_iff.mp hencode).1.taken
  · have hencode : encode m = .ok (frameBytes m) :=
      encode_eq_ok_iff.mpr ⟨⟨hlimits.count, hlimits.keys, htaken, hlimits.whole⟩, rfl⟩
    exact ⟨frameBytes m, hencode, decode_encode hencode⟩

theorem read_messages_are_writable_up_to_metadata_sample :
    decode (frameBytes (longValued 3)) = (.ok (some (longValued 3)), []) ∧
      ∃ frame, encode (longValued 3) = .ok frame ∧
        decode frame = (.ok (some (longValued 3)), []) := by
  have hread := decode_longValued (n := 3) (by decide)
  have htaken : metadataSize (longValued 3).metadata.entries ≤ metadataLimit := by
    rw [metadataSize_longValued]
    decide
  exact ⟨hread, (read_messages_are_writable_up_to_metadata hread).2.1.mpr htaken⟩

/-- The reader admits a message that the writer refuses. -/
theorem oversized_metadata_is_read_but_not_written :
    decode (frameBytes (longValued metadataLimit)) = (.ok (some (longValued metadataLimit)), []) ∧
      encode (longValued metadataLimit) = .error (.frameTooLarge 1048582) :=
  ⟨decode_longValued (by decide), encode_eq_error bodySize_longValued⟩

end TypedBus.Frame
