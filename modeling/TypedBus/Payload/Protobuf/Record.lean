import TypedBus.Text.Utf8
import TypedBus.Payload.Protobuf.Wire

namespace TypedBus.Protobuf

inductive FieldType
  | text
  | bytes
deriving DecidableEq, Repr

namespace FieldType

abbrev Val : FieldType → Type
  | text => String
  | bytes => Bytes

def empty : (type : FieldType) → type.Val
  | text => ""
  | bytes => []

def content : (type : FieldType) → type.Val → Bytes
  | text, value => Text.utf8 value
  | bytes, value => value

end FieldType

structure Field where
  number : Nat
  name : String
  type : FieldType
deriving DecidableEq, Repr

abbrev Record : List Field → Type
  | [] => Unit
  | f :: fields => f.type.Val × Record fields

/-- A fault, and the known field whose content has it. -/
structure Refusal where
  field : Option String := none
  fault : Fault
deriving DecidableEq, Repr

def Refusal.message (owner : String) (r : Refusal) : String :=
  let place := match r.field with
    | some name => s!"{owner}.{name}: "
    | none => ""
  s!"failed to decode Protobuf message: {place}{r.fault.message}"

def fieldBytes (number : Nat) (content : Bytes) : Bytes :=
  keyBytes number .lengthDelimited ++ (varint content.length ++ content)

def readContent (type : FieldType) (wire : WireType) (input : Bytes) :
    Except Fault (type.Val × Bytes) :=
  if wire ≠ .lengthDelimited then .error (.unexpectedWireType wire)
  else match readDelimited input with
    | .error e => .error e
    | .ok (raw, rest) =>
      match type with
      | .bytes => .ok (raw, rest)
      | .text =>
        match Text.ofUtf8? raw with
        | some text => .ok (text, rest)
        | none => .error .invalidText

theorem length_readContent_le {type : FieldType} {wire : WireType} {input rest : Bytes}
    {value : type.Val} (h : readContent type wire input = .ok (value, rest)) :
    rest.length ≤ input.length := by
  simp only [readContent] at h
  split at h
  · simp at h
  · split at h
    · simp at h
    · rename_i raw tail hd
      have := length_readDelimited_le hd
      cases type with
      | bytes =>
        simp only [Except.ok.injEq, Prod.mk.injEq] at h
        rw [← h.2]
        exact this
      | text =>
        simp only at h
        split at h
        · simp only [Except.ok.injEq, Prod.mk.injEq] at h
          rw [← h.2]
          exact this
        · simp at h

namespace Record

def empty : (fields : List Field) → Record fields
  | [] => ()
  | f :: fields => (f.type.empty, empty fields)

/-- The fields that are not empty, in the order of the list. -/
def encode : (fields : List Field) → Record fields → Bytes
  | [], () => []
  | f :: fields, (value, record) =>
    let content := f.type.content value
    (if content = [] then [] else fieldBytes f.number content) ++ encode fields record

/-- Reads the content of a field into its place; `none` when no field has the number. -/
def readInto : (fields : List Field) → Record fields → Nat → WireType → Bytes →
    Option (Except Refusal (Record fields × Bytes))
  | [], (), _, _, _ => none
  | f :: fields, (value, record), number, wire, input =>
    if f.number = number then
      some (match readContent f.type wire input with
        | .error fault => .error ⟨some f.name, fault⟩
        | .ok (value, rest) => .ok ((value, record), rest))
    else match readInto fields record number wire input with
      | none => none
      | some (.error e) => some (.error e)
      | some (.ok (record, rest)) => some (.ok ((value, record), rest))

theorem length_readInto_le {fields : List Field} {record after : Record fields} {number : Nat}
    {wire : WireType} {input rest : Bytes}
    (h : readInto fields record number wire input = some (.ok (after, rest))) :
    rest.length ≤ input.length := by
  induction fields with
  | nil => simp [readInto] at h
  | cons f fields ih =>
    obtain ⟨value, record⟩ := record
    simp only [readInto] at h
    split at h
    · split at h
      · simp at h
      · rename_i hr
        simp only [Option.some.injEq, Except.ok.injEq, Prod.mk.injEq] at h
        rw [← h.2]
        exact length_readContent_le hr
    · split at h
      · simp at h
      · simp at h
      · rename_i hr
        simp only [Option.some.injEq, Except.ok.injEq, Prod.mk.injEq] at h
        obtain ⟨_, rfl⟩ := h
        exact ih hr

/-- Reads fields up to the end of the input. A field that is not known is passed over, and of several
with one number the last counts. -/
def readFields (fields : List Field) (record : Record fields) (input : Bytes) :
    Except Refusal (Record fields) :=
  match input with
  | [] => .ok record
  | b :: bs =>
    match _hk : readKey (b :: bs) with
    | .error fault => .error { fault }
    | .ok (number, wire, rest) =>
      match _hi : readInto fields record number wire rest with
      | some (.error e) => .error e
      | some (.ok (record, rest)) => readFields fields record rest
      | none =>
        match _hs : skipField number wire rest with
        | .error fault => .error { fault }
        | .ok rest => readFields fields record rest
termination_by input.length
decreasing_by
  · exact Nat.lt_of_le_of_lt (length_readInto_le _hi) (length_readKey_lt _hk)
  · exact Nat.lt_of_le_of_lt (length_skipField_le _hs) (length_readKey_lt _hk)

/-- The record that the input writes; fields that it does not write are empty. -/
def decode (fields : List Field) (input : Bytes) : Except Refusal (Record fields) :=
  readFields fields (empty fields) input

end Record

end TypedBus.Protobuf
