import TypedBus.Proofs.Frame.Chunks
import TypedBus.Proofs.Frame.Writing

namespace TypedBus.StreamCodec

open TypedBus.Frame

variable {codec : StreamCodec} {m : Message} {ms : List Message}

/-- What a writer accepts: a payload within its limit, in a message that has a body size. -/
def Accepts (codec : StreamCodec) (m : Message) : Prop :=
  m.size ≤ codec.maxPayload ∧ ∃ size, bodySize m = .ok size

instance : DecidablePred codec.Accepts := fun m =>
  decidable_of_iff (m.size ≤ codec.maxPayload ∧ (bodySize m).toBool = true) <| by
    cases h : bodySize m <;> simp [Accepts, h, Except.toBool]

/-- What comes of a message's frame: the message, or the size of a payload that is over the limit. -/
def outcome (codec : StreamCodec) (m : Message) : Except FrameError (Option Message) :=
  if m.size ≤ codec.maxPayload then .ok (some m) else .error (.frameTooLarge m.size)

theorem Accepts.withinLimits (h : codec.Accepts m) : WithinLimits m := exists_bodySize_iff.mp h.2

theorem Accepts.outcome_eq (h : codec.Accepts m) : codec.outcome m = .ok (some m) := if_pos h.1

theorem Accepts.mono {reader : StreamCodec} (h : codec.Accepts m)
    (hlimit : codec.maxPayload ≤ reader.maxPayload) : reader.Accepts m :=
  ⟨Nat.le_trans h.1 hlimit, h.2⟩

theorem judge_some (codec : StreamCodec) (m : Message) :
    codec.judge (.ok (some m)) = codec.outcome m := by
  by_cases h : m.size > codec.maxPayload
  · simp only [judge, checkPayload, outcome, if_pos h, if_neg (Nat.not_le.mpr h), Except.map]
  · simp only [judge, checkPayload, outcome, if_neg h, if_pos (Nat.not_lt.mp h), Except.map]

/-- A frame is taken off the buffer whole, also when its payload is over the limit. -/
theorem decode_frameBytes_append (codec : StreamCodec) (h : WithinLimits m) (rest : Bytes) :
    codec.decode (frameBytes m ++ rest) = (codec.outcome m, rest) := by
  rw [decode_eq_judge, decode_frameBytes h.fieldsFit h.whole, judge_some]

theorem readTimes_decode (codec : StreamCodec) (h : ∀ m ∈ ms, WithinLimits m) (tail : Bytes) :
    readTimes codec.decode ms.length (ms.flatMap frameBytes ++ tail) =
      (ms.map codec.outcome, tail) :=
  readTimes_flatMap (fun m hm => codec.decode_frameBytes_append (h m hm)) tail

theorem encode_of_accepts (h : codec.Accepts m) (buffer : Bytes) :
    codec.encode m buffer = encodeInto m buffer := by
  simp only [encode, checkPayload, if_neg (Nat.not_lt.mpr h.1)]

theorem encode_of_not_accepts (h : ¬ codec.Accepts m) (buffer : Bytes) :
    ∃ e, codec.encode m buffer = (.error e, buffer) := by
  by_cases hpayload : m.size > codec.maxPayload
  · exact ⟨.frameTooLarge m.size, by simp only [encode, checkPayload, if_pos hpayload]⟩
  · have hlimits : ¬ WithinLimits m := fun hm =>
      h ⟨Nat.not_lt.mp hpayload, exists_bodySize_iff.mpr hm⟩
    obtain ⟨e, he⟩ := (withinLimits_or_excess m).resolve_left hlimits
    refine ⟨e, ?_⟩
    simp only [encode, checkPayload, if_neg hpayload, encodeInto_of_excess he]

/-- What messages leave in a buffer is the frames of those that the writer accepts. -/
theorem writeAll_encode (codec : StreamCodec) (ms : List Message) (buffer : Bytes) :
    (writeAll codec.encode ms buffer).2 =
      buffer ++ (ms.filter codec.Accepts).flatMap frameBytes := by
  induction ms generalizing buffer with
  | nil => simp [writeAll]
  | cons m ms ih =>
    by_cases h : codec.Accepts m
    · have hwrite := (encode_of_accepts h buffer).trans (encodeInto_of_withinLimits h.withinLimits buffer)
      simp [writeAll, hwrite, ih, h]
    · obtain ⟨e, hwrite⟩ := encode_of_not_accepts h buffer
      simp [writeAll, hwrite, ih, h]

theorem encode_eq_ok_iff {buffer : Bytes} : (codec.encode m buffer).1 = .ok () ↔ codec.Accepts m := by
  by_cases h : codec.Accepts m
  · simp only [encode_of_accepts h, encodeInto_of_withinLimits h.withinLimits, h]
  · obtain ⟨e, he⟩ := encode_of_not_accepts h buffer
    simp only [he, h, reduceCtorEq]

/-- A reader with a limit gives each message of a stream or, where the payload is over the limit, the size
of the payload; either way it takes off exactly that frame. A writer with a limit, be a message handed over
or lent, accepts it exactly if its payload is within the limit and it has a body size; it then writes the
same frame as without a limit, and otherwise nothing. So whatever a writer writes is read by every reader
whose limit is no lower. -/
theorem payload_limits_hold_at_both_ends :
    (∀ (codec : StreamCodec) (before after : List Message) (tail : Bytes),
      (∀ m ∈ before ++ after, ∃ size, bodySize m = .ok size) →
      readTimes codec.decode before.length (stream (before ++ after) ++ tail) =
        (before.map codec.outcome, stream after ++ tail)) ∧
    (∀ codec : StreamCodec, ∀ write ∈ [codec.encode, codec.encodeOwned], ∀ m buffer,
      ((write m buffer).1 = .ok () ↔ codec.Accepts m) ∧
      (codec.Accepts m → write m buffer = encodeInto m buffer) ∧
      (¬ codec.Accepts m → (write m buffer).2 = buffer)) ∧
    ∀ writer reader : StreamCodec, writer.maxPayload ≤ reader.maxPayload →
      ∀ write ∈ [writer.encode, writer.encodeOwned], ∀ ms tail,
      readTimes reader.decode (ms.filter writer.Accepts).length ((writeAll write ms []).2 ++ tail) =
        ((ms.filter writer.Accepts).map fun m => .ok (some m), tail) := by
  have hone : ∀ codec : StreamCodec, ∀ write ∈ [codec.encode, codec.encodeOwned],
      write = codec.encode := by
    intro codec write hwrite
    rcases List.mem_pair.mp hwrite with rfl | rfl <;> rfl
  refine ⟨?_, ?_, ?_⟩
  · intro codec before after tail h
    have hlimits : ∀ m ∈ before ++ after, WithinLimits m := fun m hm => exists_bodySize_iff.mp (h m hm)
    obtain ⟨hbefore, hafter⟩ := List.forall_mem_append.mp hlimits
    rw [stream_eq hlimits, stream_eq hafter, List.flatMap_append, List.append_assoc]
    exact codec.readTimes_decode hbefore _
  · intro codec write hwrite m buffer
    rw [hone codec write hwrite]
    refine ⟨encode_eq_ok_iff, fun h => encode_of_accepts h buffer, fun h => ?_⟩
    obtain ⟨e, he⟩ := encode_of_not_accepts h buffer
    rw [he]
  · intro writer reader hlimit write hwrite ms tail
    have haccepted : ∀ m ∈ ms.filter writer.Accepts, writer.Accepts m := by
      intro m hm
      simpa using (List.mem_filter.mp hm).2
    have hread := reader.readTimes_decode (fun m hm => (haccepted m hm).withinLimits) tail
    have houtcome : (ms.filter writer.Accepts).map reader.outcome =
        (ms.filter writer.Accepts).map fun m => .ok (some m) :=
      List.map_congr_left fun m hm => ((haccepted m hm).mono hlimit).outcome_eq
    rw [hone writer write hwrite, writeAll_encode, List.nil_append, hread, houtcome]

/-- A message with a payload of one byte, and one without. -/
def taggedAndEmpty : List Message := [longKeyed 3, {}]

theorem sized_taggedAndEmpty : ∀ m ∈ taggedAndEmpty, ∃ size, bodySize m = .ok size :=
  List.forall_mem_cons.mpr ⟨⟨13, rfl⟩, List.forall_mem_cons.mpr ⟨⟨2, rfl⟩, by simp⟩⟩

/-- A limit of no bytes at all keeps a payload of one byte out, at either end. -/
theorem payload_limits_hold_at_both_ends_sample :
    (∀ m ∈ taggedAndEmpty ++ [], ∃ size, bodySize m = .ok size) ∧
      readTimes (StreamCodec.mk 0).decode 2 (stream (taggedAndEmpty ++ []) ++ [1, 0]) =
        ([.error (.frameTooLarge 1), .ok (some {})], [1, 0]) ∧
      readTimes (StreamCodec.mk 1).decode 1
        ((writeAll (StreamCodec.mk 0).encodeOwned taggedAndEmpty []).2 ++ [1, 0]) =
        ([.ok (some {})], [1, 0]) := by
  obtain ⟨hread, -, hwritten⟩ := payload_limits_hold_at_both_ends
  exact ⟨sized_taggedAndEmpty, hread ⟨0⟩ taggedAndEmpty [] [1, 0] sized_taggedAndEmpty,
    hwritten ⟨0⟩ ⟨1⟩ (by decide) _ (by simp) taggedAndEmpty [1, 0]⟩

end TypedBus.StreamCodec
