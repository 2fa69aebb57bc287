import TypedBus.Proofs.Frame.Chunks
import TypedBus.Proofs.Frame.Stream

namespace TypedBus.Frame

variable {buffer body : Bytes} {n : Nat}

/-- A body behind its length, well-formed or not. -/
def frameOf (body : Bytes) : Bytes := Bytes.ofNat lengthWidth body.length ++ body

/-- A buffer that begins with the length of a frame. -/
def Announces (n : Nat) (buffer : Bytes) : Prop :=
  n < Bytes.limit lengthWidth ∧ ∃ rest, buffer = Bytes.ofNat lengthWidth n ++ rest

/-- A message, or what is wrong with a field of a body. -/
inductive BodyResult : Except FrameError (Option Message) → Prop
  | message (m : Message) : BodyResult (.ok (some m))
  | truncated (field : FrameField) : BodyResult (.error (.truncated field))
  | invalidUtf8 (field : FrameField) : BodyResult (.error (.invalidUtf8 field))

/-- A frame with a body of `n` bytes has been taken off a buffer, and nothing else has. -/
structure Took (n : Nat) (buffer : Bytes) (attempt : Except FrameError (Option Message) × Bytes) :
    Prop where
  announced : Announces n buffer
  limit : n ≤ bodyLimit
  whole : lengthWidth + n ≤ buffer.length
  left : attempt.2 = buffer.drop (lengthWidth + n)
  result : BodyResult attempt.1

/-- What comes of reading after each of some chunks has been appended, and what is in the buffer then. -/
def readAfterEach {ρ : Type} (read : Bytes → ρ × Bytes) : List Bytes → Bytes → List ρ × Bytes
  | [], buffer => ([], buffer)
  | chunk :: chunks, buffer =>
    let (result, rest) := read (buffer ++ chunk)
    let (results, rest) := readAfterEach read chunks rest
    (result :: results, rest)

theorem announces_of_sized {size : Bytes} (sized : size.length = lengthWidth) (rest : Bytes) :
    Announces size.toNat (size ++ rest) :=
  ⟨sized ▸ Bytes.toNat_lt size, rest, by rw [Bytes.ofNat_toNat sized]⟩

theorem TextFault.result {width : Nat} {field : FrameField} {bytes : Bytes} {e : FrameError}
    (h : TextFault width field bytes e) : BodyResult (.error e) := by
  cases h with
  | size | raw => exact .truncated field
  | utf8 => exact .invalidUtf8 field

/-- A body is never refused for a length: its fields are cut off or not UTF-8. -/
theorem BodyFault.result {e : FrameError} (h : BodyFault body e) : BodyResult (.error e) := by
  cases h with
  | count => exact .truncated .count
  | entry sized early form fault =>
    cases fault with
    | key fault => exact fault.result
    | value hkey fault => exact fault.result

theorem bodyResult_readBody (body : Bytes) : BodyResult ((readBody body).map some) := by
  rcases body_or_fault body with ⟨entries, payload, form⟩ | ⟨e, fault⟩
  · rw [form.read]
    exact .message _
  · rw [fault.read]
    exact fault.result

/-- Whatever comes of a buffer but waiting, a length was announced, and it is over the limit or a frame
of that length has been taken off. -/
theorem took_of_decode (h : (decode buffer).1 ≠ .ok none) :
    ∃ n, Announces n buffer ∧ (bodyLimit < n ∨ Took n buffer (decode buffer)) := by
  have hd := decoded buffer
  generalize decode buffer = attempt at hd h ⊢
  cases hd with
  | short | cut => exact absurd rfl h
  | @oversized size rest sized beyond =>
    exact ⟨size.toNat, announces_of_sized sized rest, .inl beyond⟩
  | @whole size body rest sized length limit =>
    have hannounced := announces_of_sized sized (body ++ rest)
    refine ⟨size.toNat, hannounced, .inr ⟨hannounced, limit, ?_, ?_, bodyResult_readBody body⟩⟩
    · simp only [List.length_append, sized, length]
      omega
    · rw [← sized, ← length, ← List.length_append, ← List.append_assoc, List.drop_left]

/-- A length over the limit is refused for good, whatever comes behind it. -/
theorem readAfterEach_decode_of_oversized (h : Announces n buffer) (beyond : bodyLimit < n)
    (chunks : List Bytes) :
    readAfterEach decode chunks buffer =
      (chunks.map fun _ => .error (.frameTooLarge n), buffer ++ chunks.flatten) := by
  obtain ⟨hlt, rest, rfl⟩ := h
  have hn := Bytes.toNat_ofNat_of_lt hlt
  induction chunks generalizing rest with
  | nil => simp [readAfterEach]
  | cons chunk chunks ih =>
    have hnow := decode_oversized (Bytes.length_ofNat lengthWidth n) (hn.symm ▸ beyond) (rest ++ chunk)
    rw [hn] at hnow
    simp only [readAfterEach, List.append_assoc, hnow, ih (rest ++ chunk), List.map_cons,
      List.flatten_cons]

/-- A body of at most the limit is read from behind its length, and what follows stays. -/
theorem decode_frameOf_append (h : body.length ≤ bodyLimit) (rest : Bytes) :
    decode (frameOf body ++ rest) = ((readBody body).map some, rest) := by
  have hlt : body.length < Bytes.limit lengthWidth := Nat.lt_of_le_of_lt h (by decide)
  have hn := Bytes.toNat_ofNat_of_lt hlt
  have hlimit : (Bytes.ofNat lengthWidth body.length).toNat ≤ bodyLimit := by rwa [hn]
  rw [frameOf, List.append_assoc, decode_frame (Bytes.length_ofNat _ _) hn.symm hlimit]

theorem decode_frameOf (h : body.length ≤ bodyLimit) :
    decode (frameOf body) = ((readBody body).map some, []) := by
  have hd := decode_frameOf_append h []
  rwa [List.append_nil] at hd

/-- However good or bad the bodies in front of it are, every frame is read as it is by itself. -/
theorem readTimes_frames {bodies : List Bytes} (h : ∀ body ∈ bodies, body.length ≤ bodyLimit)
    (tail : Bytes) :
    readTimes decode bodies.length (bodies.flatMap frameOf ++ tail) =
      (bodies.map fun body => (decode (frameOf body)).1, tail) := by
  refine readTimes_flatMap (fun body hbody rest => ?_) tail
  rw [decode_frameOf_append (h body hbody), decode_frameOf (h body hbody)]

/-- A buffer stays as it is as long as no frame in it is complete, and for good when the length of the
first one is over the limit; in every other case exactly that frame is taken off, be it a message or
not. So of frames one behind the other each is read as it is by itself. -/
theorem bad_frames_cost_only_themselves :
    (∀ buffer : Bytes,
      ((decode buffer).1 = .ok none → (decode buffer).2 = buffer) ∧
      (∀ n, Announces n buffer → bodyLimit < n → ∀ chunks, readAfterEach decode chunks buffer =
        (chunks.map fun _ => .error (.frameTooLarge n), buffer ++ chunks.flatten)) ∧
      ((decode buffer).1 ≠ .ok none →
        ∃ n, Announces n buffer ∧ (bodyLimit < n ∨ Took n buffer (decode buffer)))) ∧
    ∀ bodies : List Bytes, (∀ body ∈ bodies, body.length ≤ bodyLimit) → ∀ tail,
      readTimes decode bodies.length (bodies.flatMap frameOf ++ tail) =
        (bodies.map fun body => (decode (frameOf body)).1, tail) := by
  refine ⟨fun buffer => ⟨steady_decode.waits buffer, ?_, took_of_decode⟩, fun bodies => readTimes_frames⟩
  intro n hn beyond chunks
  exact readAfterEach_decode_of_oversized hn beyond chunks

/-- A value that is cut off, no entries where there should be some, and a good frame behind both; and a
length over the limit, to which a good frame is appended. -/
theorem bad_frames_cost_only_themselves_sample :
    (∀ body ∈ [cutValueBody, [1, 0], repeatedKeyBody], body.length ≤ bodyLimit) ∧
      readTimes decode 3 ([cutValueBody, [1, 0], repeatedKeyBody].flatMap frameOf ++ [9]) =
        ([.error (.truncated .value), .error (.truncated .key),
          .ok (some ⟨[7], .ofList [("a", "2")]⟩)], [9]) ∧
      (decode (frameOf [1, 0])).1 ≠ .ok none ∧
      (∃ n, Announces n (frameOf [1, 0]) ∧
        (bodyLimit < n ∨ Took n (frameOf [1, 0]) (decode (frameOf [1, 0])))) ∧
      Announces 4294967295 [255, 255, 255, 255] ∧ bodyLimit < 4294967295 ∧
      readAfterEach decode [[], frameOf repeatedKeyBody] [255, 255, 255, 255] =
        ([.error (.frameTooLarge 4294967295), .error (.frameTooLarge 4294967295)],
          [255, 255, 255, 255] ++ frameOf repeatedKeyBody) := by
  obtain ⟨hbuffer, hframes⟩ := bad_frames_cost_only_themselves
  have hbodies : ∀ body ∈ [cutValueBody, [1, 0], repeatedKeyBody], body.length ≤ bodyLimit := by
    decide
  have hcut := decode_frameOf (hbodies cutValueBody (by simp))
  have hempty := decode_frameOf (hbodies [1, 0] (by simp))
  have hgood := decode_frameOf (hbodies repeatedKeyBody (by simp))
  rw [bodyFault_cutValueBody.read] at hcut
  rw [holds_iff.mp holds_repeatedKeyBody] at hgood
  have hresults := hframes _ hbodies [9]
  simp only [List.map_cons, List.map_nil, hcut, hempty, hgood] at hresults
  have htaken : (decode (frameOf [1, 0])).1 ≠ .ok none := by
    have hread : (readBody [1, 0]).map some ≠ .ok none := map_some_ne_none
    rwa [hempty]
  have hannounced : Announces 4294967295 [255, 255, 255, 255] := ⟨by decide, [], rfl⟩
  have hbeyond : bodyLimit < 4294967295 := by decide
  exact ⟨hbodies, hresults, htaken, (hbuffer _).2.2 htaken, hannounced, hbeyond,
    (hbuffer _).2.1 _ hannounced hbeyond _⟩

end TypedBus.Frame
