import TypedBus.Frame.Stream
import TypedBus.Proofs.Frame.Grammar

namespace TypedBus

/-- One attempt to take a frame off a buffer: what comes of it, and what is left. -/
abbrev FrameReader := Bytes → Except FrameError (Option Message) × Bytes

namespace FrameReader

variable {read : FrameReader} {buffer : Bytes} {result : Except FrameError Message}

/-- What has been read from a stream, and the bytes that have not been taken. A reader that fails
without taking anything is stuck. -/
structure Progress where
  results : List (Except FrameError Message) := []
  buffer : Bytes := []
  stuck : Bool := false

/-- The message or the error that an attempt gives, if it gives one. -/
def result? : Except FrameError (Option Message) → Option (Except FrameError Message)
  | .ok none => none
  | .ok (some m) => some (.ok m)
  | .error e => some (.error e)

/-- Reads until nothing comes of it any more, or something does that takes no bytes. -/
def drain (read : FrameReader) (buffer : Bytes) : Progress :=
  match result? (read buffer).1 with
  | none => { buffer := (read buffer).2 }
  | some result =>
    if (read buffer).2.length < buffer.length then
      let later := drain read (read buffer).2
      { later with results := result :: later.results }
    else { results := [result], buffer := (read buffer).2, stuck := true }
termination_by buffer.length

/-- Appends a chunk and reads what there is to read, if the reader is not stuck. -/
def feed (read : FrameReader) (p : Progress) (chunk : Bytes) : Progress :=
  if p.stuck then { p with buffer := p.buffer ++ chunk }
  else
    let later := drain read (p.buffer ++ chunk)
    { later with results := p.results ++ later.results }

/-- What a reader makes of a buffer stays the same when more bytes come behind it, unless it was
waiting for them. A message always takes bytes. -/
structure Steady (read : FrameReader) : Prop where
  empty : read [] = (.ok none, [])
  waits : ∀ buffer, (read buffer).1 = .ok none → (read buffer).2 = buffer
  takes : ∀ buffer m, (read buffer).1 = .ok (some m) → (read buffer).2.length < buffer.length
  lasts : ∀ buffer more, (read buffer).1 ≠ .ok none →
    read (buffer ++ more) = ((read buffer).1, (read buffer).2 ++ more)

theorem result?_eq_none_iff {r : Except FrameError (Option Message)} :
    result? r = none ↔ r = .ok none := by
  cases r with
  | error e => simp [result?]
  | ok m => cases m <;> simp [result?]

theorem result?_eq_some_ok_iff {r : Except FrameError (Option Message)} {m : Message} :
    result? r = some (.ok m) ↔ r = .ok (some m) := by
  cases r with
  | error e => simp [result?]
  | ok m => cases m <;> simp [result?]

theorem drain_of_waiting (h : result? (read buffer).1 = none) :
    drain read buffer = { buffer := (read buffer).2 } := by
  rw [drain, h]

theorem drain_of_taken (h : result? (read buffer).1 = some result)
    (htaken : (read buffer).2.length < buffer.length) :
    drain read buffer = { drain read (read buffer).2 with
      results := result :: (drain read (read buffer).2).results } := by
  rw [drain, h]
  simp only [if_pos htaken]

theorem drain_of_kept (h : result? (read buffer).1 = some result)
    (hkept : ¬ (read buffer).2.length < buffer.length) :
    drain read buffer = { results := [result], buffer := (read buffer).2, stuck := true } := by
  rw [drain, h]
  simp only [if_neg hkept]

/-- What was read before stays in front of what a chunk brings. -/
theorem feed_cons (result : Except FrameError Message) (p : Progress) (chunk : Bytes) :
    feed read { p with results := result :: p.results } chunk =
      { feed read p chunk with results := result :: (feed read p chunk).results } := by
  cases hs : p.stuck <;> simp [feed, hs]

/-- Bytes that come later do not change what was read before, and are read as if they had been there. -/
theorem drain_append (h : Steady read) (buffer more : Bytes) :
    drain read (buffer ++ more) = feed read (drain read buffer) more := by
  -- every attempt but the last takes bytes, so the induction is on how many are left
  induction hn : buffer.length using Nat.strongRecOn generalizing buffer with
  | ind n ih =>
    subst hn
    cases hr : result? (read buffer).1 with
    | none =>
      rw [drain_of_waiting hr, h.waits buffer (result?_eq_none_iff.mp hr)]
      simp [feed]
    | some result =>
      have hlasts : read (buffer ++ more) = ((read buffer).1, (read buffer).2 ++ more) := by
        apply h.lasts
        intro hnone
        rw [result?_eq_none_iff.mpr hnone] at hr
        cases hr
      have hresult : result? (read (buffer ++ more)).1 = some result := by rw [hlasts, hr]
      by_cases htaken : (read buffer).2.length < buffer.length
      · have htaken' : (read (buffer ++ more)).2.length < (buffer ++ more).length := by
          simpa [hlasts] using htaken
        rw [drain_of_taken hresult htaken', drain_of_taken hr htaken, feed_cons, hlasts,
          ih _ htaken _ rfl]
      · have hkept : ¬ (read (buffer ++ more)).2.length < (buffer ++ more).length := by
          simpa [hlasts] using htaken
        rw [drain_of_kept hresult hkept, drain_of_kept hr htaken, hlasts]
        rfl

theorem feed_feed (h : Steady read) (p : Progress) (first second : Bytes) :
    feed read (feed read p first) second = feed read p (first ++ second) := by
  cases hs : p.stuck with
  | true => simp [feed, hs]
  | false =>
    have hdrain := drain_append h (p.buffer ++ first) second
    rw [List.append_assoc] at hdrain
    cases hl : (drain read (p.buffer ++ first)).stuck <;> simp [feed, hs, hl, hdrain]

/-- Stated for one chunk at least: the first one is what the reader tries the buffer for. -/
theorem foldl_feed (h : Steady read) (p : Progress) (chunk : Bytes) (chunks : List Bytes) :
    (chunk :: chunks).foldl (feed read) p = feed read p (chunk :: chunks).flatten := by
  induction chunks generalizing chunk with
  | nil => simp
  | cons next chunks ih =>
    have hjoin := ih (chunk ++ next)
    simp only [List.foldl_cons, List.flatten_cons] at hjoin ⊢
    rw [feed_feed h, hjoin, List.append_assoc]

/-- However a stream is cut, the same is read from it. -/
theorem foldl_feed_flatten (h : Steady read) (chunks : List Bytes) :
    chunks.foldl (feed read) {} = feed read {} chunks.flatten := by
  cases chunks with
  | nil =>
    have hempty : drain read [] = {} := by
      rw [drain_of_waiting (by rw [h.empty]; rfl), h.empty]
    simp [feed, hempty]
  | cons chunk chunks => exact foldl_feed h {} chunk chunks

theorem error_of_stuck (h : Steady read) (buffer : Bytes) (hstuck : (drain read buffer).stuck = true) :
    ∃ e, (drain read buffer).results.getLast? = some (.error e) := by
  induction hn : buffer.length using Nat.strongRecOn generalizing buffer with
  | ind n ih =>
    subst hn
    cases hr : result? (read buffer).1 with
    | none =>
      rw [drain_of_waiting hr] at hstuck
      cases hstuck
    | some result =>
      by_cases htaken : (read buffer).2.length < buffer.length
      · rw [drain_of_taken hr htaken] at hstuck ⊢
        obtain ⟨e, he⟩ := ih _ htaken _ hstuck rfl
        exact ⟨e, by simp [List.getLast?_cons, he]⟩
      · rw [drain_of_kept hr htaken]
        cases result with
        | error e => exact ⟨e, rfl⟩
        | ok m => exact absurd (h.takes buffer m (result?_eq_some_ok_iff.mp hr)) htaken

/-- A reader stays steady when only what comes of an attempt is changed, and a message at most into an
error. -/
theorem Steady.map (h : Steady read)
    (judge : Except FrameError (Option Message) → Except FrameError (Option Message))
    (hwait : ∀ r, judge r = .ok none ↔ r = .ok none)
    (hmessage : ∀ r m, judge r = .ok (some m) → r = .ok (some m)) :
    Steady fun buffer => (judge (read buffer).1, (read buffer).2) where
  empty := by rw [h.empty, (hwait _).mpr rfl]
  waits buffer hnone := h.waits buffer ((hwait _).mp hnone)
  takes buffer m hm := h.takes buffer m (hmessage _ m hm)
  lasts buffer more hsome := by
    rw [h.lasts buffer more fun hnone => hsome ((hwait _).mpr hnone)]

end FrameReader

theorem Frame.steady_decode : FrameReader.Steady Frame.decode where
  empty := rfl
  waits buffer hnone := by
    have hd := Frame.decoded buffer
    generalize Frame.decode buffer = attempt at hd hnone ⊢
    cases hd with
    | short | cut => rfl
    | oversized => cases hnone
    | whole => exact absurd hnone Frame.map_some_ne_none
  takes buffer m hm := by
    have hd := Frame.decoded buffer
    generalize Frame.decode buffer = attempt at hd hm ⊢
    cases hd with
    | short | cut | oversized => cases hm
    | whole sized =>
      simp only [List.length_append, sized, Frame.lengthWidth]
      omega
  lasts buffer more hsome := by
    have hd := Frame.decoded buffer
    generalize Frame.decode buffer = attempt at hd hsome ⊢
    cases hd with
    | short | cut => exact absurd rfl hsome
    | oversized sized beyond => rw [List.append_assoc, Frame.decode_oversized sized beyond]
    | whole sized length limit =>
      rw [List.append_assoc, List.append_assoc, Frame.decode_frame sized length limit]

namespace StreamCodec

def judge (codec : StreamCodec) :
    Except FrameError (Option Message) → Except FrameError (Option Message)
  | .ok (some m) => (codec.checkPayload m).map fun _ => some m
  | other => other

theorem decode_eq_judge (codec : StreamCodec) (buffer : Bytes) :
    codec.decode buffer = (codec.judge (Frame.decode buffer).1, (Frame.decode buffer).2) := by
  rw [decode]
  generalize Frame.decode buffer = attempt
  obtain ⟨result, rest⟩ := attempt
  cases result with
  | error e => rfl
  | ok m => cases m <;> rfl

theorem judge_eq_none_iff {codec : StreamCodec} {r : Except FrameError (Option Message)} :
    codec.judge r = .ok none ↔ r = .ok none := by
  cases r with
  | error e => simp [judge]
  | ok m =>
    cases m with
    | none => simp [judge]
    | some m => cases hc : codec.checkPayload m <;> simp [judge, hc, Except.map]

theorem eq_of_judge_eq_some {codec : StreamCodec} {r : Except FrameError (Option Message)}
    {m : Message} (h : codec.judge r = .ok (some m)) : r = .ok (some m) := by
  cases r with
  | error e => simp [judge] at h
  | ok m' =>
    cases m' with
    | none => simp [judge] at h
    | some m' => cases hc : codec.checkPayload m' <;> simp_all [judge, Except.map]

theorem steady_decode (codec : StreamCodec) : FrameReader.Steady codec.decode := by
  have h := Frame.steady_decode.map codec.judge (fun _ => judge_eq_none_iff)
    fun _ _ => eq_of_judge_eq_some
  rwa [← funext codec.decode_eq_judge] at h

end StreamCodec

/-- However a stream is cut into chunks, the same messages and errors are read from it in the same
order, and the same bytes are left, with every limit on the payloads and with none. What a reader gets
stuck at is always an error. -/
theorem chunks_are_read_as_a_whole (chunks : List Bytes) :
    (∀ codec : StreamCodec, chunks.foldl (FrameReader.feed codec.decode) {} =
      FrameReader.feed codec.decode {} chunks.flatten) ∧
    chunks.foldl (FrameReader.feed Frame.decode) {} =
      FrameReader.feed Frame.decode {} chunks.flatten ∧
    (∀ (codec : StreamCodec) buffer, (FrameReader.drain codec.decode buffer).stuck = true →
      ∃ e, (FrameReader.drain codec.decode buffer).results.getLast? = some (.error e)) ∧
    ∀ buffer, (FrameReader.drain Frame.decode buffer).stuck = true →
      ∃ e, (FrameReader.drain Frame.decode buffer).results.getLast? = some (.error e) :=
  ⟨fun codec => FrameReader.foldl_feed_flatten codec.steady_decode chunks,
    FrameReader.foldl_feed_flatten Frame.steady_decode chunks,
    fun codec => FrameReader.error_of_stuck codec.steady_decode,
    FrameReader.error_of_stuck Frame.steady_decode⟩

end TypedBus
