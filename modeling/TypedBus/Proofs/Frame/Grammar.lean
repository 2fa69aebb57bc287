import TypedBus.Proofs.Frame.Bounds

namespace TypedBus.Frame

variable {width n : Nat} {field : FrameField} {bytes body rest : Bytes} {text : String}
  {seen entries : List Entry} {e : FrameError} {m : Message}

/-- The bytes of a text: its length in `width` bytes, then its UTF-8 form. -/
inductive TextForm (width : Nat) : String → Bytes → Prop
  | mk {size raw : Bytes} {text : String} (sized : size.length = width)
      (length : raw.length = size.toNat) (utf8 : Text.ofUtf8? raw = some text) :
      TextForm width text (size ++ raw)

/-- The bytes of entries, each a key and a value. -/
inductive EntriesForm : List Entry → Bytes → Prop
  | nil : EntriesForm [] []
  | cons {key value : String} {k v written : Bytes} {entries : List Entry}
      (hkey : TextForm keyWidth key k) (hvalue : TextForm valueWidth value v)
      (rest : EntriesForm entries written) :
      EntriesForm ((key, value) :: entries) (k ++ (v ++ written))

/-- A body: the number of its entries, the entries, and as payload whatever follows. -/
inductive BodyForm : List Entry → Bytes → Bytes → Prop
  | mk {count written payload : Bytes} {entries : List Entry} (sized : count.length = countWidth)
      (number : entries.length = count.toNat) (form : EntriesForm entries written) :
      BodyForm entries payload (count ++ (written ++ payload))

/-- Bytes that do not begin with a text: its length or the text is cut off, or it is not UTF-8. -/
inductive TextFault (width : Nat) (field : FrameField) : Bytes → FrameError → Prop
  | size {bytes : Bytes} (short : bytes.length < width) :
      TextFault width field bytes (.truncated field)
  | raw {size rest : Bytes} (sized : size.length = width) (short : rest.length < size.toNat) :
      TextFault width field (size ++ rest) (.truncated field)
  | utf8 {size raw rest : Bytes} (sized : size.length = width) (length : raw.length = size.toNat)
      (broken : Text.ofUtf8? raw = none) :
      TextFault width field (size ++ (raw ++ rest)) (.invalidUtf8 field)

/-- Bytes that do not begin with an entry. The value is only looked at behind a good key. -/
inductive EntryFault : Bytes → FrameError → Prop
  | key {bytes : Bytes} {e : FrameError} (fault : TextFault keyWidth .key bytes e) :
      EntryFault bytes e
  | value {key : String} {k rest : Bytes} {e : FrameError} (hkey : TextForm keyWidth key k)
      (fault : TextFault valueWidth .value rest e) : EntryFault (k ++ rest) e

/-- What is wrong with the first field of a body that cannot be read. -/
inductive BodyFault : Bytes → FrameError → Prop
  | count {body : Bytes} (short : body.length < countWidth) : BodyFault body (.truncated .count)
  | entry {count written rest : Bytes} {seen : List Entry} {e : FrameError}
      (sized : count.length = countWidth) (early : seen.length < count.toNat)
      (form : EntriesForm seen written) (fault : EntryFault rest e) :
      BodyFault (count ++ (written ++ rest)) e

theorem TextForm.read (h : TextForm width text bytes) (field : FrameField) (rest : Bytes) :
    readText width field (bytes ++ rest) = .ok (text, rest) := by
  obtain ⟨sized, length, utf8⟩ := h
  rw [List.append_assoc]
  simp only [readText, Bytes.split?_append sized, Bytes.split?_append length, utf8]

theorem TextFault.read (h : TextFault width field bytes e) : readText width field bytes = .error e := by
  cases h with
  | size short => simp only [readText, Bytes.split?_eq_none_iff.mpr short]
  | raw sized short =>
    simp only [readText, Bytes.split?_append sized, Bytes.split?_eq_none_iff.mpr short]
  | utf8 sized length broken =>
    simp only [readText, Bytes.split?_append sized, Bytes.split?_append length, broken]

theorem text_or_fault (width : Nat) (field : FrameField) (bytes : Bytes) :
    (∃ text written rest, TextForm width text written ∧ bytes = written ++ rest) ∨
      ∃ e, TextFault width field bytes e := by
  cases hs : Bytes.split? width bytes with
  | none => exact .inr ⟨_, .size (Bytes.split?_eq_none_iff.mp hs)⟩
  | some cut =>
    obtain ⟨size, rest⟩ := cut
    obtain ⟨rfl, sized⟩ := Bytes.split?_eq_some_iff.mp hs
    cases hr : Bytes.split? size.toNat rest with
    | none => exact .inr ⟨_, .raw sized (Bytes.split?_eq_none_iff.mp hr)⟩
    | some cut =>
      obtain ⟨raw, rest⟩ := cut
      obtain ⟨rfl, length⟩ := Bytes.split?_eq_some_iff.mp hr
      cases hu : Text.ofUtf8? raw with
      | none => exact .inr ⟨_, .utf8 sized length hu⟩
      | some text =>
        exact .inl ⟨text, size ++ raw, rest, .mk sized length hu, (List.append_assoc ..).symm⟩

/-- Entries are passed over on the way to what is behind them. -/
theorem EntriesForm.read (h : EntriesForm entries bytes) (n : Nat) (seen : List Entry)
    (rest : Bytes) : readEntries (entries.length + n) seen (bytes ++ rest) =
      readEntries n (entries.reverse ++ seen) rest := by
  induction h generalizing seen with
  | nil => simp
  | @cons key value k v written entries hkey hvalue _ ih =>
    have hlength : ((key, value) :: entries).length + n = (entries.length + n) + 1 := by
      simp only [List.length_cons]
      omega
    rw [hlength]
    simp only [readEntries, List.append_assoc, hkey.read, hvalue.read, ih]
    simp

theorem EntryFault.read (h : EntryFault bytes e) (n : Nat) (seen : List Entry) :
    readEntries (n + 1) seen bytes = .error e := by
  cases h with
  | key fault => simp only [readEntries, fault.read]
  | value hkey fault => simp only [readEntries, hkey.read, fault.read]

/-- Bytes begin with so many entries, or with fewer and a fault. -/
theorem entries_or_fault (n : Nat) (bytes : Bytes) :
    (∃ entries written rest, entries.length = n ∧ EntriesForm entries written ∧
        bytes = written ++ rest) ∨
      ∃ entries written rest e, entries.length < n ∧ EntriesForm entries written ∧
        EntryFault rest e ∧ bytes = written ++ rest := by
  -- a value is only looked for behind a key, and a later entry only behind both
  induction n generalizing bytes with
  | zero => exact .inl ⟨[], [], bytes, rfl, .nil, rfl⟩
  | succ n ih =>
    rcases text_or_fault keyWidth .key bytes with ⟨key, k, rest, hkey, rfl⟩ | ⟨e, fault⟩
    · rcases text_or_fault valueWidth .value rest with ⟨value, v, rest, hvalue, rfl⟩ | ⟨e, fault⟩
      · rcases ih rest with
          ⟨entries, written, rest, hn, form, rfl⟩ | ⟨entries, written, rest, e, hn, form, fault, rfl⟩
        · exact .inl ⟨(key, value) :: entries, k ++ (v ++ written), rest, by simp [hn],
            .cons hkey hvalue form, by simp⟩
        · exact .inr ⟨(key, value) :: entries, k ++ (v ++ written), rest, e, by simp [hn],
            .cons hkey hvalue form, fault, by simp⟩
      · exact .inr ⟨[], [], k ++ rest, e, by simp, .nil, .value hkey fault, rfl⟩
    · exact .inr ⟨[], [], bytes, e, by simp, .nil, .key fault, rfl⟩

theorem BodyForm.read (h : BodyForm entries bytes body) :
    readBody body = .ok ⟨bytes, .ofList entries⟩ := by
  obtain ⟨sized, number, form⟩ := h
  have hread := form.read 0 [] bytes
  simp only [Nat.add_zero, number, readEntries] at hread
  simp only [readBody, Bytes.split?_append sized, hread]
  simp

theorem BodyFault.read (h : BodyFault body e) : readBody body = .error e := by
  cases h with
  | count short => simp only [readBody, Bytes.split?_eq_none_iff.mpr short]
  | @entry count written rest seen e sized early form fault =>
    obtain ⟨n, hn⟩ : ∃ n, count.toNat = seen.length + (n + 1) :=
      ⟨count.toNat - seen.length - 1, by omega⟩
    simp only [readBody, Bytes.split?_append sized, hn, form.read, fault.read]

/-- Every body is of the grammar or has a first fault. -/
theorem body_or_fault (body : Bytes) :
    (∃ entries payload, BodyForm entries payload body) ∨ ∃ e, BodyFault body e := by
  cases hs : Bytes.split? countWidth body with
  | none => exact .inr ⟨_, .count (Bytes.split?_eq_none_iff.mp hs)⟩
  | some cut =>
    obtain ⟨count, rest⟩ := cut
    obtain ⟨rfl, sized⟩ := Bytes.split?_eq_some_iff.mp hs
    rcases entries_or_fault count.toNat rest with
      ⟨entries, written, payload, number, form, rfl⟩ | ⟨seen, written, rest, e, early, form, fault, rfl⟩
    · exact .inl ⟨entries, payload, .mk sized number form⟩
    · exact .inr ⟨e, .entry sized early form fault⟩

theorem readBody_eq_ok_iff : readBody body = .ok m ↔
    ∃ entries, BodyForm entries m.data body ∧ m.metadata = .ofList entries := by
  constructor
  · intro h
    rcases body_or_fault body with ⟨entries, payload, form⟩ | ⟨e, fault⟩
    · cases form.read.symm.trans h
      exact ⟨entries, form, rfl⟩
    · cases fault.read.symm.trans h
  · rintro ⟨entries, form, hmeta⟩
    rw [form.read, ← hmeta]

theorem readBody_eq_error_iff : readBody body = .error e ↔ BodyFault body e := by
  refine ⟨fun h => ?_, BodyFault.read⟩
  rcases body_or_fault body with ⟨entries, payload, form⟩ | ⟨d, fault⟩
  · cases form.read.symm.trans h
  · cases fault.read.symm.trans h
    exact fault

theorem map_some_eq_ok_iff {read : Except FrameError Message} :
    read.map some = .ok (some m) ↔ read = .ok m := by
  cases read <;> simp [Except.map]

theorem map_some_ne_none {read : Except FrameError Message} : read.map some ≠ .ok none := by
  cases read <;> simp [Except.map]

theorem map_some_eq_error_iff {read : Except FrameError Message} :
    read.map some = .error e ↔ read = .error e := by
  cases read <;> simp [Except.map]

/-- The value of the last entry with a key. -/
def lastValue? (entries : List Entry) (key : String) : Option String :=
  (entries.reverse.find? (·.1 = key)).map (·.2)

theorem metadata_eq_ofList_iff {metadata : Metadata} :
    metadata = .ofList entries ↔ ∀ key, metadata.get? key = lastValue? entries key := by
  constructor
  · rintro rfl key
    exact TextMap.get?_ofList entries key
  · intro h
    apply TextMap.ext_get?
    intro key
    rw [h key, TextMap.get?_ofList]
    rfl

/-- A buffer that begins with a whole frame: a length within the limit, and a body of that length. -/
inductive BeginsWith (body : Bytes) : Bytes → Prop
  | mk {size rest : Bytes} (sized : size.length = lengthWidth) (length : body.length = size.toNat)
      (limit : size.toNat ≤ bodyLimit) : BeginsWith body (size ++ (body ++ rest))

/-- A frame that is all there is taken off the buffer and read, whatever is in it. -/
theorem decode_frame {size : Bytes} (sized : size.length = lengthWidth)
    (length : body.length = size.toNat) (limit : size.toNat ≤ bodyLimit) (rest : Bytes) :
    decode (size ++ (body ++ rest)) = ((readBody body).map some, rest) := by
  simp only [decode, Bytes.split?_append sized, Bytes.split?_append length]
  rw [if_neg (Nat.not_lt.mpr limit)]

/-- A length over the limit is refused as soon as it is there. -/
theorem decode_oversized {size : Bytes} (sized : size.length = lengthWidth)
    (beyond : bodyLimit < size.toNat) (rest : Bytes) :
    decode (size ++ rest) = (.error (.frameTooLarge size.toNat), size ++ rest) := by
  simp only [decode, Bytes.split?_append sized, if_pos beyond]

/-- What can come of a buffer, and what is left in it. -/
inductive Decoded : Bytes → Except FrameError (Option Message) × Bytes → Prop
  | short {buffer : Bytes} (short : buffer.length < lengthWidth) : Decoded buffer (.ok none, buffer)
  | cut {size rest : Bytes} (sized : size.length = lengthWidth) (limit : size.toNat ≤ bodyLimit)
      (short : rest.length < size.toNat) : Decoded (size ++ rest) (.ok none, size ++ rest)
  | oversized {size rest : Bytes} (sized : size.length = lengthWidth)
      (beyond : bodyLimit < size.toNat) :
      Decoded (size ++ rest) (.error (.frameTooLarge size.toNat), size ++ rest)
  | whole {size body rest : Bytes} (sized : size.length = lengthWidth)
      (length : body.length = size.toNat) (limit : size.toNat ≤ bodyLimit) :
      Decoded (size ++ (body ++ rest)) ((readBody body).map some, rest)

theorem decoded (buffer : Bytes) : Decoded buffer (decode buffer) := by
  cases hs : Bytes.split? lengthWidth buffer with
  | none =>
    simp only [decode, hs]
    exact .short (Bytes.split?_eq_none_iff.mp hs)
  | some cut =>
    obtain ⟨size, rest⟩ := cut
    obtain ⟨rfl, sized⟩ := Bytes.split?_eq_some_iff.mp hs
    by_cases beyond : bodyLimit < size.toNat
    · rw [decode_oversized sized beyond]
      exact .oversized sized beyond
    · have limit : size.toNat ≤ bodyLimit := Nat.not_lt.mp beyond
      cases hr : Bytes.split? size.toNat rest with
      | none =>
        simp only [decode, hs, hr]
        rw [if_neg beyond]
        exact .cut sized limit (Bytes.split?_eq_none_iff.mp hr)
      | some cut =>
        obtain ⟨body, rest⟩ := cut
        obtain ⟨rfl, length⟩ := Bytes.split?_eq_some_iff.mp hr
        rw [decode_frame sized length limit]
        exact .whole sized length limit

theorem BeginsWith.decode {buffer : Bytes} (h : BeginsWith body buffer) :
    (decode buffer).1 = (readBody body).map some := by
  obtain ⟨sized, length, limit⟩ := h
  rw [decode_frame sized length limit]

/-- What a frame holds: the payload behind its entries, and for each key its last value. -/
def Holds (body : Bytes) (m : Message) : Prop :=
  ∃ entries, BodyForm entries m.data body ∧ ∀ key, m.metadata.get? key = lastValue? entries key

theorem holds_iff : Holds body m ↔ readBody body = .ok m := by
  simp only [Holds, readBody_eq_ok_iff, metadata_eq_ofList_iff]

def repeatedKeyBody : Bytes :=
  [2, 0] ++ (([1, 0] ++ [97] ++ ([1, 0, 0, 0] ++ [49] ++ ([1, 0] ++ [97] ++
    ([1, 0, 0, 0] ++ [50] ++ [])))) ++ [7])

def cutValueBody : Bytes :=
  [2, 0] ++ (([1, 0] ++ [97] ++ ([1, 0, 0, 0] ++ [49] ++ [])) ++
    ([1, 0] ++ [97] ++ ([2, 0, 0, 0] ++ [50])))

theorem textForm_letter {size : Bytes} {letter : UInt8} (sized : size.length = width)
    (one : size.toNat = 1) (utf8 : [letter] = Text.utf8 text) :
    TextForm width text (size ++ [letter]) :=
  .mk sized one.symm (Text.ofUtf8?_eq_some_iff.mpr utf8)

theorem holds_repeatedKeyBody : Holds repeatedKeyBody ⟨[7], .ofList [("a", "2")]⟩ := by
  have hkey : TextForm keyWidth "a" ([1, 0] ++ [97]) := textForm_letter rfl rfl (by decide)
  have hone : TextForm valueWidth "1" ([1, 0, 0, 0] ++ [49]) := textForm_letter rfl rfl (by decide)
  have htwo : TextForm valueWidth "2" ([1, 0, 0, 0] ++ [50]) := textForm_letter rfl rfl (by decide)
  refine ⟨[("a", "1"), ("a", "2")], .mk rfl rfl (.cons hkey hone (.cons hkey htwo .nil)), ?_⟩
  intro key
  rw [TextMap.get?_ofList]
  by_cases h : "a" = key <;> simp [lastValue?, h]

theorem bodyFault_cutValueBody : BodyFault cutValueBody (.truncated .value) := by
  have hkey : TextForm keyWidth "a" ([1, 0] ++ [97]) := textForm_letter rfl rfl (by decide)
  have hone : TextForm valueWidth "1" ([1, 0, 0, 0] ++ [49]) := textForm_letter rfl rfl (by decide)
  exact .entry rfl (by decide) (.cons hkey hone .nil) (.value hkey (.raw rfl (by decide)))

/-- A whole frame is read as a message exactly when its body is of the grammar, and is refused for the
first of its fields that is not. For no buffer does the reader reach past the end of its bytes. -/
theorem frames_are_read_by_their_grammar (buffer : Bytes) :
    (∀ body, BeginsWith body buffer →
      (∀ m, (decode buffer).1 = .ok (some m) ↔ Holds body m) ∧
      (∀ e, (decode buffer).1 = .error e ↔ BodyFault body e) ∧
      ((∃ m, Holds body m) ∨ ∃ e, BodyFault body e)) ∧
    guardedDecode buffer = some (decode buffer) := by
  refine ⟨fun body hbuffer => ⟨fun m => ?_, fun e => ?_, ?_⟩, guardedDecode_eq buffer⟩
  · rw [hbuffer.decode, map_some_eq_ok_iff, holds_iff]
  · rw [hbuffer.decode, map_some_eq_error_iff, readBody_eq_error_iff]
  · rcases body_or_fault body with ⟨entries, payload, form⟩ | fault
    · exact .inl ⟨⟨payload, .ofList entries⟩, holds_iff.mpr form.read⟩
    · exact .inr fault

/-- Of a repeated key the last value counts; a value that is cut off is reported, also when more bytes
follow behind the frame. -/
theorem frames_are_read_by_their_grammar_sample :
    BeginsWith repeatedKeyBody ([19, 0, 0, 0] ++ (repeatedKeyBody ++ [])) ∧
      (decode ([19, 0, 0, 0] ++ (repeatedKeyBody ++ []))).1 =
        .ok (some ⟨[7], .ofList [("a", "2")]⟩) ∧
      BeginsWith cutValueBody ([18, 0, 0, 0] ++ (cutValueBody ++ [50])) ∧
      (decode ([18, 0, 0, 0] ++ (cutValueBody ++ [50]))).1 = .error (.truncated .value) := by
  have hrepeated : BeginsWith repeatedKeyBody ([19, 0, 0, 0] ++ (repeatedKeyBody ++ [])) :=
    .mk rfl rfl (by decide)
  have hcut : BeginsWith cutValueBody ([18, 0, 0, 0] ++ (cutValueBody ++ [50])) :=
    .mk rfl rfl (by decide)
  have hread := (frames_are_read_by_their_grammar _).1 _ hrepeated
  have hfault := (frames_are_read_by_their_grammar _).1 _ hcut
  exact ⟨hrepeated, (hread.1 _).mpr holds_repeatedKeyBody, hcut,
    (hfault.2.1 _).mpr bodyFault_cutValueBody⟩

end TypedBus.Frame
