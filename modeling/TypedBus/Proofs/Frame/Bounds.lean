import TypedBus.Frame.Basic

namespace TypedBus.Frame

/-- A number of `width` bytes off the front. -/
def takeNumber (width : Nat) (bytes : Bytes) : Option (Nat × Bytes) :=
  (Bytes.split? width bytes).map fun (number, rest) => (number.toNat, rest)

/-- A cut past the end has no result, and neither has a difference below zero. -/
def advance (n : Nat) (bytes : Bytes) : Option Bytes := (Bytes.split? n bytes).map (·.2)

def difference (a b : Nat) : Option Nat := if b ≤ a then some (a - b) else none

def guardedText (width : Nat) (field : FrameField) (bytes : Bytes) :
    Option (Except FrameError (String × Bytes)) :=
  if bytes.length < width then some (.error (.truncated field))
  else do
    let (size, rest) ← takeNumber width bytes
    if rest.length < size then some (.error (.truncated field))
    else do
      let (raw, rest) ← Bytes.split? size rest
      match Text.ofUtf8? raw with
      | none => some (.error (.invalidUtf8 field))
      | some text => some (.ok (text, rest))

def guardedEntries : Nat → List Entry → Bytes → Option (Except FrameError (List Entry × Bytes))
  | 0, seen, bytes => some (.ok (seen.reverse, bytes))
  | n + 1, seen, bytes => do
    match ← guardedText keyWidth .key bytes with
    | .error e => some (.error e)
    | .ok (key, rest) =>
      match ← guardedText valueWidth .value rest with
      | .error e => some (.error e)
      | .ok (value, rest) => guardedEntries n ((key, value) :: seen) rest

def guardedBody (body : Bytes) : Option (Except FrameError Message) :=
  if body.length < countWidth then some (.error (.truncated .count))
  else do
    let (count, rest) ← takeNumber countWidth body
    match ← guardedEntries count [] rest with
    | .error e => some (.error e)
    | .ok (entries, payload) => some (.ok ⟨payload, .ofList entries⟩)

/-- Takes the first frame off a buffer. Of a frame that is not all there it works out how many bytes
are missing, to make room for them. -/
def guardedDecode (buffer : Bytes) : Option (Except FrameError (Option Message) × Bytes) :=
  if buffer.length < lengthWidth then some (.ok none, buffer)
  else do
    let (size, _) ← takeNumber lengthWidth buffer
    if size > bodyLimit then some (.error (.frameTooLarge size), buffer)
    else if buffer.length < lengthWidth + size then do
      let _missing ← difference (lengthWidth + size) buffer.length
      some (.ok none, buffer)
    else do
      let rest ← advance lengthWidth buffer
      let (body, rest) ← Bytes.split? size rest
      let result ← guardedBody body
      some (result.map some, rest)

theorem exists_split? {n : Nat} {bytes : Bytes} (h : ¬ bytes.length < n) :
    ∃ front rest, Bytes.split? n bytes = some (front, rest) := by
  cases hs : Bytes.split? n bytes with
  | none => exact absurd (Bytes.split?_eq_none_iff.mp hs) h
  | some cut => exact ⟨cut.1, cut.2, rfl⟩

theorem guardedText_eq (width : Nat) (field : FrameField) (bytes : Bytes) :
    guardedText width field bytes = some (readText width field bytes) := by
  by_cases hwidth : bytes.length < width
  · simp only [guardedText, if_pos hwidth, readText, Bytes.split?_eq_none_iff.mpr hwidth]
  obtain ⟨size, rest, hs⟩ := exists_split? hwidth
  by_cases hsize : rest.length < size.toNat
  · simp [guardedText, hwidth, takeNumber, hs, hsize, readText, Bytes.split?_eq_none_iff.mpr hsize]
  obtain ⟨raw, tail, hraw⟩ := exists_split? hsize
  cases hu : Text.ofUtf8? raw <;>
    simp [guardedText, hwidth, takeNumber, hs, hsize, readText, hraw, hu]

theorem guardedEntries_eq (n : Nat) (seen : List Entry) (bytes : Bytes) :
    guardedEntries n seen bytes = some (readEntries n seen bytes) := by
  induction n generalizing seen bytes with
  | zero => rfl
  | succ n ih =>
    simp only [guardedEntries, readEntries, guardedText_eq, Option.bind_eq_bind, Option.bind_some]
    cases readText keyWidth .key bytes with
    | error e => rfl
    | ok first =>
      obtain ⟨key, rest⟩ := first
      cases hv : readText valueWidth .value rest with
      | error e => simp only [hv]
      | ok second =>
        obtain ⟨value, rest⟩ := second
        simp only [hv]
        exact ih ((key, value) :: seen) rest

theorem guardedBody_eq (body : Bytes) : guardedBody body = some (readBody body) := by
  by_cases hwidth : body.length < countWidth
  · simp only [guardedBody, if_pos hwidth, readBody, Bytes.split?_eq_none_iff.mpr hwidth]
  obtain ⟨count, rest, hs⟩ := exists_split? hwidth
  cases he : readEntries count.toNat [] rest <;>
    simp [guardedBody, hwidth, takeNumber, hs, guardedEntries_eq, readBody, he]

/-- No cut of the reader reaches past the end. -/
theorem guardedDecode_eq (buffer : Bytes) : guardedDecode buffer = some (decode buffer) := by
  by_cases hwidth : buffer.length < lengthWidth
  · simp only [guardedDecode, if_pos hwidth, decode, Bytes.split?_eq_none_iff.mpr hwidth]
  obtain ⟨size, rest, hs⟩ := exists_split? hwidth
  obtain ⟨hbuffer, hlength⟩ := Bytes.split?_eq_some_iff.mp hs
  have htotal : buffer.length = lengthWidth + rest.length := by
    rw [hbuffer, List.length_append, hlength]
  by_cases hlimit : size.toNat > bodyLimit
  · simp [guardedDecode, hwidth, takeNumber, hs, hlimit, decode]
  by_cases hshort : buffer.length < lengthWidth + size.toNat
  · have hrest : rest.length < size.toNat := by omega
    simp [guardedDecode, hwidth, takeNumber, hs, hlimit, hshort, difference, Nat.le_of_lt hshort,
      decode, Bytes.split?_eq_none_iff.mpr hrest]
  · have hrest : ¬ rest.length < size.toNat := by omega
    obtain ⟨body, tail, hbody⟩ := exists_split? hrest
    simp [guardedDecode, hwidth, takeNumber, hs, hlimit, hshort, advance, hbody, guardedBody_eq,
      decode]

end TypedBus.Frame
