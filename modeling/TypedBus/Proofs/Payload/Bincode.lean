import Mathlib.Algebra.Ring.Nat
import TypedBus.Payload.Bincode

namespace TypedBus.Bincode

theorem readNat_ofNat (width : Nat) {n : Nat} (h : n < Bytes.limit width) (rest : Bytes) :
    readNat width (Bytes.ofNat width n ++ rest) = .ok (n, rest) := by
  simp [readNat, Bytes.split?_append (Bytes.length_ofNat width n), Bytes.toNat_ofNat_of_lt h]

theorem readBytes_append {data : Bytes} (h : data.length < 2 ^ 64) (short : Fault) (rest : Bytes) :
    readBytes short (Bytes.ofNat lengthWidth data.length ++ (data ++ rest)) = .ok (data, rest) := by
  have hsize := readNat_ofNat lengthWidth h (data ++ rest)
  simp [readBytes, hsize, Bytes.split?_append rfl]

theorem readNat_singleton (b : UInt8) (rest : Bytes) : readNat 1 (b :: rest) = .ok (b.toNat, rest) := by
  have hb := b.toNat_lt
  have hread := readNat_ofNat 1 hb rest
  simpa [Bytes.ofNat] using hread

/-- A value is read from the front of the input, whatever follows it. -/
theorem read_encode (shape : Shape) (value : shape.Val) (rest : Bytes)
    (h : (encode shape value).length < 2 ^ 64) :
    read shape (encode shape value ++ rest) = .ok (value, rest) := by
  induction shape generalizing rest with
  | u8 => simp [encode, read, readNat_singleton, Except.map]
  | u16 =>
    have hread := readNat_ofNat 2 value.toNat_lt rest
    simp [encode, read, hread, Except.map]
  | u32 =>
    have hread := readNat_ofNat 4 value.toNat_lt rest
    simp [encode, read, hread, Except.map]
  | i32 =>
    have hread := readNat_ofNat 4 value.toUInt32.toNat_lt rest
    simp [encode, read, hread, Except.map]
  | f64 =>
    have hread := readNat_ofNat 8 value.toNat_lt rest
    simp [encode, read, hread, Except.map]
  | bool => cases value <;> simp [encode, read, readNat_singleton]
  | text =>
    have hsize : (Text.utf8 value).length < 2 ^ 64 := by
      rw [encode, List.length_append] at h
      omega
    have hread := readBytes_append hsize .shortText rest
    rw [Text.length_utf8] at hread
    simp [encode, read, hread, Text.ofUtf8?_utf8]
  | bytes =>
    have hsize : value.length < 2 ^ 64 := by
      rw [encode, List.length_append] at h
      omega
    have hread := readBytes_append hsize .endOfInput rest
    simp [encode, read, hread]
  | pair a b iha ihb =>
    obtain ⟨x, y⟩ := value
    rw [encode, List.length_append] at h
    have hx := iha x (encode b y ++ rest) (by omega)
    have hy := ihb y rest (by omega)
    simp [encode, read, hx, hy]

theorem decode_encode {shape : Shape} {value : shape.Val}
    (h : (encode shape value).length < 2 ^ 64) : decode shape (encode shape value) = .ok value := by
  have hread := read_encode shape value [] h
  rw [List.append_nil] at hread
  simp [decode, hread]

theorem eq_of_readNat {width n : Nat} {input rest : Bytes} (h : readNat width input = .ok (n, rest)) :
    input = Bytes.ofNat width n ++ rest ∧ n < Bytes.limit width := by
  unfold readNat at h
  split at h
  · cases h
  · rename_i front tail hsplit
    cases h
    obtain ⟨rfl, hwidth⟩ := Bytes.split?_eq_some_iff.mp hsplit
    refine ⟨?_, hwidth ▸ Bytes.toNat_lt front⟩
    rw [Bytes.ofNat_toNat hwidth]

theorem eq_of_readBytes {short : Fault} {data input rest : Bytes}
    (h : readBytes short input = .ok (data, rest)) :
    input = Bytes.ofNat lengthWidth data.length ++ data ++ rest := by
  unfold readBytes at h
  split at h
  · cases h
  · rename_i size tail hsize
    obtain ⟨rfl, -⟩ := eq_of_readNat hsize
    split at h
    · cases h
    · rename_i taken hsplit
      cases h
      obtain ⟨rfl, rfl⟩ := Bytes.split?_eq_some_iff.mp hsplit
      exact (List.append_assoc _ _ _).symm

theorem eq_of_map_readNat {α : Type} {width : Nat} {f : Nat → α} {value : α} {input rest : Bytes}
    (h : (readNat width input).map (fun (n, rest) => (f n, rest)) = .ok (value, rest)) :
    ∃ n, f n = value ∧ n < Bytes.limit width ∧ input = Bytes.ofNat width n ++ rest := by
  cases hr : readNat width input with
  | error e =>
    rw [hr] at h
    cases h
  | ok taken =>
    obtain ⟨n, tail⟩ := taken
    rw [hr] at h
    cases h
    obtain ⟨hinput, hlt⟩ := eq_of_readNat hr
    exact ⟨n, rfl, hlt, hinput⟩

/-- What is read from the front of the input is there as it is written. -/
theorem eq_of_read {shape : Shape} {value : shape.Val} {input rest : Bytes}
    (h : read shape input = .ok (value, rest)) : input = encode shape value ++ rest := by
  induction shape generalizing input rest with
  | u8 =>
    obtain ⟨n, rfl, hlt, rfl⟩ := eq_of_map_readNat h
    rfl
  | u16 =>
    obtain ⟨n, rfl, hlt, rfl⟩ := eq_of_map_readNat h
    rw [encode, UInt16.toNat_ofNat_of_lt' hlt]
  | u32 =>
    obtain ⟨n, rfl, hlt, rfl⟩ := eq_of_map_readNat h
    rw [encode, UInt32.toNat_ofNat_of_lt' hlt]
  | i32 =>
    obtain ⟨n, rfl, hlt, rfl⟩ := eq_of_map_readNat (f := fun n => (UInt32.ofNat n).toInt32) h
    rw [encode, UInt32.toUInt32_toInt32, UInt32.toNat_ofNat_of_lt' hlt]
  | f64 =>
    obtain ⟨n, rfl, hlt, rfl⟩ := eq_of_map_readNat h
    rw [encode, UInt64.toNat_ofNat_of_lt' hlt]
  | bool =>
    simp only [read] at h
    split at h
    · cases h
    · rename_i tail hr
      cases h
      exact (eq_of_readNat hr).1
    · rename_i tail hr
      cases h
      exact (eq_of_readNat hr).1
    · cases h
  | text =>
    simp only [read] at h
    split at h
    · cases h
    · rename_i raw tail hr
      split at h
      · rename_i text htext
        cases h
        obtain rfl := Text.ofUtf8?_eq_some_iff.mp htext
        rw [eq_of_readBytes hr, encode, Text.length_utf8]
      · cases h
  | bytes => exact eq_of_readBytes h
  | pair a b iha ihb =>
    simp only [read] at h
    split at h
    · cases h
    · rename_i x middle hx
      split at h
      · cases h
      · rename_i y tail hy
        cases h
        rw [iha hx, ihb hy, encode, List.append_assoc]

theorem read_of_decode {shape : Shape} {value : shape.Val} {data : Bytes}
    (h : decode shape data = .ok value) : read shape data = .ok (value, []) := by
  unfold decode at h
  split at h
  · cases h
  · rename_i hr
    cases h
    exact hr
  · cases h

theorem eq_encode_of_decode {shape : Shape} {value : shape.Val} {data : Bytes}
    (h : decode shape data = .ok value) : data = encode shape value := by
  rw [eq_of_read (read_of_decode h), List.append_nil]

/-- Whatever follows an encoding is refused. -/
theorem decode_encode_append {shape : Shape} {value : shape.Val} {more : Bytes}
    (h : (encode shape value).length < 2 ^ 64) (hmore : more ≠ []) :
    decode shape (encode shape value ++ more) = .error .trailingBytes := by
  obtain ⟨b, more, rfl⟩ := List.exists_cons_of_ne_nil hmore
  simp only [decode, read_encode shape value (b :: more) h]

/-- No encoding starts with another one. -/
theorem encode_eq_of_append {shape : Shape} {value other : shape.Val} {more : Bytes}
    (hother : (encode shape other).length < 2 ^ 64)
    (h : encode shape other = encode shape value ++ more) : more = [] := by
  have hsize : (encode shape value).length < 2 ^ 64 := by
    rw [h, List.length_append] at hother
    omega
  have hread := decode_encode hother
  rw [h] at hread
  by_contra hmore
  rw [decode_encode_append hsize hmore] at hread
  cases hread

end TypedBus.Bincode
