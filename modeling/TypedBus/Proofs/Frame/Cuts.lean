import Mathlib.Data.List.Infix
import TypedBus.Proofs.Frame.Payloads

namespace TypedBus

open TypedBus.Frame

variable {codec : StreamCodec} {ms before after : List Message} {m : Message} {front cut : Bytes}

namespace FrameReader

variable {read atEnd : FrameReader} {reason : String}

/-- What is promised of the attempts on a stream that has ended. They are as those before the end, but
bytes that stay in the buffer without being a frame are an error of the stream. -/
structure EndsLike (read : FrameReader) (reason : String) (atEnd : FrameReader) : Prop where
  reads : ∀ buffer, (read buffer).1 ≠ .ok none → atEnd buffer = read buffer
  ends : ∀ buffer, read buffer = (.ok none, []) → atEnd buffer = (.ok none, [])
  remains : ∀ buffer rest, read buffer = (.ok none, rest) → rest ≠ [] →
    atEnd buffer = (.error (.io reason), rest)

/-- What the end of a stream comes to: nothing is left, or a frame has been cut off. -/
def ending (reason : String) (cut : Bytes) : Except FrameError (Option Message) :=
  if cut = [] then .ok none else .error (.io reason)

theorem EndsLike.of_waiting (h : EndsLike read reason atEnd) (hwait : read cut = (.ok none, cut)) :
    atEnd cut = (ending reason cut, cut) := by
  by_cases hempty : cut = []
  · subst hempty
    exact h.ends [] hwait
  · rw [h.remains cut cut hwait hempty, ending, if_neg hempty]

/-- A part of what is read as one message is waited for: had anything come of it, the rest would have
stayed behind it. -/
theorem Steady.read_of_cut (h : Steady read) {whole : Bytes} (hwhole : read whole = (.ok (some m), []))
    (hpart : cut <+: whole) (hproper : cut ≠ whole) : read cut = (.ok none, cut) := by
  obtain ⟨more, rfl⟩ := hpart
  have hnone : (read cut).1 = .ok none := by
    by_contra hsome
    have hlasts := h.lasts cut more hsome
    rw [hwhole] at hlasts
    have hleft := List.append_eq_nil_iff.mp (congrArg Prod.snd hlasts).symm
    exact hproper (by rw [hleft.2, List.append_nil])
  exact Prod.ext hnone (h.waits cut hnone)

end FrameReader

namespace StreamCodec

open FrameReader

theorem endsLike_decodeEnd (codec : StreamCodec) :
    EndsLike codec.decode "bytes remaining on stream" codec.decodeEnd where
  reads buffer hsome := by
    rw [decodeEnd]
    generalize codec.decode buffer = attempt at hsome ⊢
    obtain ⟨result, rest⟩ := attempt
    cases result with
    | error e => rfl
    | ok m =>
      cases m with
      | none => exact absurd rfl hsome
      | some m => rfl
  ends buffer hnone := by
    simp only [decodeEnd, hnone]
  remains buffer rest hnone hrest := by
    simp only [decodeEnd, hnone]

/-- What is left of frames that have been cut off: nothing where they end, or a part of the first one. -/
inductive Cut : List Message → Bytes → Prop
  | atEnd : Cut [] []
  | inside {m : Message} {later : List Message} {cut : Bytes} (part : cut <+: frameBytes m)
      (proper : cut ≠ frameBytes m) : Cut (m :: later) cut

/-- Whatever a stream of frames is cut to is some whole frames and what is left of the others. -/
theorem exists_cut (h : front <+: ms.flatMap frameBytes) :
    ∃ before after cut, ms = before ++ after ∧ front = before.flatMap frameBytes ++ cut ∧
      Cut after cut := by
  induction ms generalizing front with
  | nil => exact ⟨[], [], [], rfl, List.prefix_nil.mp h, .atEnd⟩
  | cons m ms ih =>
    rw [List.flatMap_cons] at h
    by_cases hwhole : frameBytes m <+: front
    · obtain ⟨rest, rfl⟩ := hwhole
      obtain ⟨before, after, cut, rfl, rfl, hcut⟩ := ih ((List.prefix_append_right_inj _).mp h)
      exact ⟨m :: before, after, cut, rfl, by simp, hcut⟩
    · have hpart : front <+: frameBytes m :=
        (List.prefix_or_prefix_of_prefix h (List.prefix_append _ _)).resolve_right hwhole
      refine ⟨[], m :: ms, front, rfl, rfl, .inside hpart ?_⟩
      rintro rfl
      exact hwhole List.prefix_rfl

/-- The whole frames in front of a cut are those of the messages before it. -/
theorem Cut.take_iff (h : Cut after cut) {i : Nat} (hi : i ≤ (before ++ after).length) :
    ((before ++ after).take i).flatMap frameBytes <+: before.flatMap frameBytes ++ cut ↔
      i ≤ before.length := by
  constructor
  · intro hfront
    by_contra hbeyond
    cases h with
    | atEnd => exact hbeyond (by rwa [List.append_nil] at hi)
    | @inside m later cut part proper =>
      obtain ⟨j, rfl⟩ : ∃ j, i = before.length + (j + 1) := ⟨i - before.length - 1, by omega⟩
      rw [List.take_length_add_append, List.take_succ_cons, List.flatMap_append,
        List.prefix_append_right_inj, List.flatMap_cons] at hfront
      have hwhole := (List.prefix_append _ _).trans hfront
      exact proper (part.eq_of_length (Nat.le_antisymm part.length_le hwhole.length_le))
  · intro hle
    rw [List.take_append_of_le_length hle]
    exact ((List.take_prefix i before).flatMap _).trans (List.prefix_append _ _)

theorem Cut.decode (h : Cut after cut) (haccepts : ∀ m ∈ after, codec.Accepts m) :
    codec.decode cut = (.ok none, cut) := by
  cases h with
  | atEnd => exact codec.steady_decode.empty
  | @inside m later cut part proper =>
    have hm := haccepts m (by simp)
    have hwhole := codec.decode_frameBytes_append hm.withinLimits []
    rw [List.append_nil, hm.outcome_eq] at hwhole
    exact codec.steady_decode.read_of_cut hwhole part proper

/-- The messages whose frames are whole are read first, and from then on every attempt gives the end. -/
theorem readTimes_atEnd {reason : String} {atEnd : FrameReader}
    (hend : EndsLike codec.decode reason atEnd) (hbefore : ∀ m ∈ before, codec.Accepts m)
    (hafter : ∀ m ∈ after, codec.Accepts m) (hcut : Cut after cut) (calls : Nat) :
    readTimes atEnd (before.length + calls) (before.flatMap frameBytes ++ cut) =
      (before.map (fun m => .ok (some m)) ++ List.replicate calls (ending reason cut), cut) := by
  have hframe : ∀ m ∈ before, ∀ rest, atEnd (frameBytes m ++ rest) = (.ok (some m), rest) := by
    intro m hm rest
    have hread := codec.decode_frameBytes_append (hbefore m hm).withinLimits rest
    rw [(hbefore m hm).outcome_eq] at hread
    rw [hend.reads _ (by simp [hread]), hread]
  have hwhole := readTimes_flatMap hframe cut
  have hrest := readTimes_of_kept (hend.of_waiting (hcut.decode hafter)) calls
  rw [readTimes_add hwhole, hrest]

/-- Messages that a reader accepts are written one after the other, and the stream is cut somewhere. At
its end the reader gives exactly the messages whose whole frames are in front of the cut, in order. After
them it gives nothing if the cut is behind a whole frame, and else the error of the stream; the bytes of
the frame that was cut off are left in the buffer. -/
theorem cut_streams_are_read_up_to_the_cut {reason : String} {atEnd : FrameReader}
    (hend : EndsLike codec.decode reason atEnd) (haccepts : ∀ m ∈ ms, codec.Accepts m)
    (hfront : front <+: stream ms) :
    ∃ n cut, n ≤ ms.length ∧ front = stream (ms.take n) ++ cut ∧
      (∀ i ≤ ms.length, stream (ms.take i) <+: front ↔ i ≤ n) ∧
      (cut = [] ↔ ∃ i ≤ ms.length, front = stream (ms.take i)) ∧
      ∀ calls, readTimes atEnd (n + calls) front =
        ((ms.take n).map (fun m => .ok (some m)) ++ List.replicate calls (ending reason cut), cut) := by
  have hlimits : ∀ m ∈ ms, WithinLimits m := fun m hm => (haccepts m hm).withinLimits
  have hstream : ∀ i, stream (ms.take i) = (ms.take i).flatMap frameBytes := fun i =>
    stream_eq fun m hm => hlimits m (List.mem_of_mem_take hm)
  simp only [hstream]
  rw [stream_eq hlimits] at hfront
  obtain ⟨before, after, cut, rfl, rfl, hcut⟩ := exists_cut hfront
  obtain ⟨hbefore, hafter⟩ := List.forall_mem_append.mp haccepts
  have htake : (before ++ after).take before.length = before := List.take_left
  refine ⟨before.length, cut, by simp, by rw [htake], fun i hi => hcut.take_iff hi, ⟨?_, ?_⟩, ?_⟩
  · rintro rfl
    exact ⟨before.length, by simp, by rw [htake, List.append_nil]⟩
  · rintro ⟨i, hi, heq⟩
    have hle : i ≤ before.length := (hcut.take_iff hi).mp (heq ▸ List.prefix_rfl)
    rw [List.take_append_of_le_length hle] at heq
    have hshort := ((List.take_prefix i before).flatMap frameBytes).length_le
    rw [← heq, List.length_append] at hshort
    exact List.eq_nil_of_length_eq_zero (by omega)
  · intro calls
    rw [htake]
    exact readTimes_atEnd hend hbefore hafter hcut calls

/-- The second of two frames is cut off inside its length. -/
theorem cut_streams_are_read_up_to_the_cut_sample :
    EndsLike (StreamCodec.mk 1).decode "bytes remaining on stream" (StreamCodec.mk 1).decodeEnd ∧
      (∀ m ∈ taggedAndEmpty, (StreamCodec.mk 1).Accepts m) ∧
      (stream taggedAndEmpty).take 20 <+: stream taggedAndEmpty ∧
      readTimes (StreamCodec.mk 1).decodeEnd 3 ((stream taggedAndEmpty).take 20) =
        ([.ok (some (longKeyed 3)), .error (.io "bytes remaining on stream"),
          .error (.io "bytes remaining on stream")], [2, 0, 0]) := by
  have hend := (StreamCodec.mk 1).endsLike_decodeEnd
  have haccepts : ∀ m ∈ taggedAndEmpty, (StreamCodec.mk 1).Accepts m :=
    List.forall_mem_cons.mpr
      ⟨⟨by decide, 13, rfl⟩, List.forall_mem_cons.mpr ⟨⟨by decide, 2, rfl⟩, by simp⟩⟩
  have hfront := List.take_prefix 20 (stream taggedAndEmpty)
  obtain ⟨n, cut, -, hcut, hwhole, -, hread⟩ :=
    cut_streams_are_read_up_to_the_cut hend haccepts hfront
  have hone : 1 ≤ n := (hwhole 1 (by decide)).mp (by decide)
  have htwo : ¬ 2 ≤ n := fun h => absurd ((hwhole 2 (by decide)).mpr h) (by decide)
  obtain rfl : n = 1 := by omega
  have hfirst : (stream taggedAndEmpty).take 20 = stream (taggedAndEmpty.take 1) ++ [2, 0, 0] := rfl
  obtain rfl : [2, 0, 0] = cut := List.append_cancel_left (hfirst.symm.trans hcut)
  exact ⟨hend, haccepts, hfront, hread 2⟩

end StreamCodec

end TypedBus
