import TypedBus.Bytes

namespace TypedBus.Text

def utf8 (text : String) : Bytes := text.toUTF8.data.toList

def ofUtf8? (bytes : Bytes) : Option String := String.fromUTF8? bytes.toByteArray

/-- Where reading UTF-8 fails: after `valid` good bytes comes a sequence that is broken after
`bad` of its bytes, or (`none`) one that the end cuts off. -/
structure Utf8Fault where
  valid : Nat
  bad : Option Nat
deriving DecidableEq, Repr

/-- How many bytes follow a leading byte, and the range of the first of them. -/
def followers? (lead : UInt8) : Option (Nat × UInt8 × UInt8) :=
  if 0xC2 ≤ lead ∧ lead ≤ 0xDF then some (1, 0x80, 0xBF)
  else if lead = 0xE0 then some (2, 0xA0, 0xBF)
  else if lead = 0xED then some (2, 0x80, 0x9F)
  else if 0xE1 ≤ lead ∧ lead ≤ 0xEF then some (2, 0x80, 0xBF)
  else if lead = 0xF0 then some (3, 0x90, 0xBF)
  else if 0xF1 ≤ lead ∧ lead ≤ 0xF3 then some (3, 0x80, 0xBF)
  else if lead = 0xF4 then some (3, 0x80, 0x8F)
  else none

/-- What is wrong with the bytes after a leading byte: nothing, or the number of bytes before the
one that does not fit, or `none` when the bytes end too early. -/
def followFault? : Nat → UInt8 → UInt8 → Nat → Bytes → Option (Option Nat)
  | 0, _, _, _, _ => none
  | _ + 1, _, _, _, [] => some none
  | n + 1, low, high, seen, b :: rest =>
    if low ≤ b ∧ b ≤ high then followFault? n 0x80 0xBF (seen + 1) rest else some (some seen)

/-- The first place, counted from `position`, where bytes are not UTF-8. -/
def utf8FaultFrom (position : Nat) : Bytes → Option Utf8Fault
  | [] => none
  | b :: rest =>
    if b < 0x80 then utf8FaultFrom (position + 1) rest
    else match followers? b with
      | none => some ⟨position, some 1⟩
      | some (n, low, high) =>
        match followFault? n low high 1 rest with
        | some bad => some ⟨position, bad⟩
        | none => utf8FaultFrom (position + 1 + n) (rest.drop n)
termination_by bytes => bytes.length
decreasing_by
  all_goals simp only [List.length_cons, List.length_drop]; omega

def utf8Fault? (bytes : Bytes) : Option Utf8Fault := utf8FaultFrom 0 bytes

@[simp] theorem toByteArray_utf8 (text : String) : (utf8 text).toByteArray = text.toByteArray := by
  apply ByteArray.ext
  simp [utf8, String.toUTF8, List.data_toByteArray]

@[simp] theorem length_utf8 (text : String) : (utf8 text).length = text.utf8ByteSize := by
  rw [utf8, String.toUTF8, Array.length_toList]
  rfl

theorem ofUtf8?_utf8 (text : String) : ofUtf8? (utf8 text) = some text := by
  simp [ofUtf8?, String.fromUTF8?, String.fromUTF8, text.isValidUTF8]

theorem ofUtf8?_eq_some_iff {bytes : Bytes} {text : String} :
    ofUtf8? bytes = some text ↔ bytes = utf8 text := by
  constructor
  · intro h
    simp only [ofUtf8?, String.fromUTF8?] at h
    split at h
    · simp only [Option.some.injEq] at h
      subst h
      simp [utf8, String.toUTF8, String.fromUTF8, List.data_toByteArray]
    · simp at h
  · rintro rfl
    exact ofUtf8?_utf8 text

theorem utf8_injective {a b : String} (h : utf8 a = utf8 b) : a = b := by
  have := ofUtf8?_utf8 a
  rw [h, ofUtf8?_utf8] at this
  exact (Option.some.inj this).symm

end TypedBus.Text
