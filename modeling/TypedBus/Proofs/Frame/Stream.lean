import TypedBus.Proofs.Frame.RoundTrip

namespace TypedBus.Frame

/-- What comes of calling a reader so many times, and what is left in the buffer. -/
def readTimes {ρ : Type} (read : Bytes → ρ × Bytes) : Nat → Bytes → List ρ × Bytes
  | 0, buffer => ([], buffer)
  | n + 1, buffer =>
    let (result, rest) := read buffer
    let (results, rest) := readTimes read n rest
    (result :: results, rest)

/-- What comes of writing messages one after the other, and the buffer after the last. -/
def writeAll {ρ : Type} (write : Message → Bytes → ρ × Bytes) : List Message → Bytes → List ρ × Bytes
  | [], buffer => ([], buffer)
  | m :: ms, buffer =>
    let (result, buffer) := write m buffer
    let (results, buffer) := writeAll write ms buffer
    (result :: results, buffer)

theorem readTimes_add {ρ : Type} {read : Bytes → ρ × Bytes} {first : List ρ} {buffer rest : Bytes}
    {n : Nat} (h : readTimes read n buffer = (first, rest)) (more : Nat) :
    readTimes read (n + more) buffer =
      (first ++ (readTimes read more rest).1, (readTimes read more rest).2) := by
  induction n generalizing buffer first with
  | zero =>
    obtain ⟨rfl, rfl⟩ := Prod.mk.inj h
    rw [Nat.zero_add, List.nil_append]
  | succ n ih =>
    obtain ⟨hfirst, hrest⟩ := Prod.mk.inj h
    subst hfirst
    rw [Nat.succ_add]
    simp only [readTimes, ih (Prod.ext rfl hrest), List.cons_append]

/-- What takes nothing off the buffer gives the same every time. -/
theorem readTimes_of_kept {ρ : Type} {read : Bytes → ρ × Bytes} {result : ρ} {buffer : Bytes}
    (h : read buffer = (result, buffer)) (n : Nat) :
    readTimes read n buffer = (List.replicate n result, buffer) := by
  induction n with
  | zero => rfl
  | succ n ih => simp only [readTimes, h, ih, List.replicate_succ]

/-- What is in a buffer after messages have been written to it one after the other. -/
def stream (ms : List Message) : Bytes := (writeAll encodeInto ms []).2

/-- Frames one behind the other, each of which a reader takes off whatever follows it, are taken off
one after the other. -/
theorem readTimes_flatMap {ρ β : Type} {read : Bytes → ρ × Bytes} {frame : β → Bytes}
    {result : β → ρ} {items : List β}
    (h : ∀ b ∈ items, ∀ rest, read (frame b ++ rest) = (result b, rest)) (tail : Bytes) :
    readTimes read items.length (items.flatMap frame ++ tail) = (items.map result, tail) := by
  induction items with
  | nil => rfl
  | cons b items ih =>
    obtain ⟨hb, hitems⟩ := List.forall_mem_cons.mp h
    simp only [List.length_cons, readTimes, List.flatMap_cons, List.append_assoc, hb, ih hitems,
      List.map_cons]

theorem encodeInto_of_withinLimits {m : Message} (h : WithinLimits m) (buffer : Bytes) :
    encodeInto m buffer = (.ok (), buffer ++ frameBytes m) := by
  simp only [encodeInto, encode_eq_ok_iff.mpr ⟨h, rfl⟩]

theorem writeAll_encodeInto {ms : List Message} (h : ∀ m ∈ ms, WithinLimits m) (buffer : Bytes) :
    writeAll encodeInto ms buffer =
      (ms.map fun _ => .ok (), buffer ++ ms.flatMap frameBytes) := by
  induction ms generalizing buffer with
  | nil => simp [writeAll]
  | cons m ms ih =>
    have hm := encodeInto_of_withinLimits (h m (by simp)) buffer
    have ih := ih (fun q hq => h q (by simp [hq])) (buffer ++ frameBytes m)
    simp only [writeAll, hm, ih, List.map_cons, List.flatMap_cons, List.append_assoc]

theorem stream_eq {ms : List Message} (h : ∀ m ∈ ms, WithinLimits m) :
    stream ms = ms.flatMap frameBytes := by
  simp only [stream, writeAll_encodeInto h, List.nil_append]

theorem readTimes_decode {ms : List Message} (h : ∀ m ∈ ms, WithinLimits m) (tail : Bytes) :
    readTimes decode ms.length (ms.flatMap frameBytes ++ tail) =
      (ms.map fun m => .ok (some m), tail) :=
  readTimes_flatMap (fun m hm => decode_encode_append (encode_eq_ok_iff.mpr ⟨h m hm, rfl⟩)) tail

/-- Messages that have a body size are written without an error, and come back in the same order
with nothing but the tail left. -/
theorem written_messages_are_read_back (ms : List Message) (tail : Bytes)
    (h : ∀ m ∈ ms, ∃ size, bodySize m = .ok size) :
    (writeAll encodeInto ms []).1 = (ms.map fun _ => .ok ()) ∧
      readTimes decode ms.length ((writeAll encodeInto ms []).2 ++ tail) =
        (ms.map fun m => .ok (some m), tail) := by
  have hlimits : ∀ m ∈ ms, WithinLimits m := by
    intro m hm
    obtain ⟨size, hsize⟩ := h m hm
    exact (bodySize_eq_ok_iff.mp hsize).1
  rw [writeAll_encodeInto hlimits]
  exact ⟨rfl, by simpa using readTimes_decode hlimits tail⟩

/-- Two messages, one with an empty key and texts beyond ASCII, the other with nothing at all. -/
def sampleMessages : List Message :=
  [((Message.withData [0, 255, 4]).putMeta "" "").putMeta "größe" "日本", {}]

theorem written_messages_are_read_back_sample :
    (∀ m ∈ sampleMessages, ∃ size, bodySize m = .ok size) ∧
      (writeAll encodeInto sampleMessages []).1 = [.ok (), .ok ()] ∧
      readTimes decode 2 ((writeAll encodeInto sampleMessages []).2 ++ [1, 0]) =
        (sampleMessages.map fun m => .ok (some m), [1, 0]) := by
  have h : ∀ m ∈ sampleMessages, ∃ size, bodySize m = .ok size := by
    intro m hm
    simp only [sampleMessages, List.mem_cons, List.not_mem_nil, or_false] at hm
    rcases hm with rfl | rfl
    · exact ⟨30, rfl⟩
    · exact ⟨2, rfl⟩
  exact ⟨h, written_messages_are_read_back sampleMessages [1, 0] h⟩

end TypedBus.Frame
