import TypedBus.Text.Utf8

namespace TypedBus.Bincode

/-- The values that the format can hold. A float is known by its bits. -/
inductive Shape
  | u8
  | u16
  | u32
  | i32
  | f64
  | bool
  | text
  | bytes
  | pair (first second : Shape)
deriving DecidableEq, Repr

namespace Shape

abbrev Val : Shape → Type
  | u8 => UInt8
  | u16 => UInt16
  | u32 => UInt32
  | i32 => Int32
  | f64 => UInt64
  | bool => Bool
  | text => String
  | bytes => Bytes
  | pair a b => a.Val × b.Val

end Shape

inductive Fault
  | endOfInput
  | shortText
  | invalidText (fault : Text.Utf8Fault)
  | invalidBool (found : UInt8)
  | trailingBytes
deriving DecidableEq, Repr

def Fault.message : Fault → String
  | endOfInput => "io error: unexpected end of file"
  | shortText => "io error: "
  | invalidText ⟨valid, some bad⟩ =>
    s!"string is not valid utf8: invalid utf-8 sequence of {bad} bytes from index {valid}"
  | invalidText ⟨valid, none⟩ =>
    s!"string is not valid utf8: incomplete utf-8 byte sequence from index {valid}"
  | invalidBool found =>
    s!"invalid u8 while decoding bool, expected 0 or 1, found {found.toNat}"
  | trailingBytes => "Slice had bytes remaining after deserialization"

def lengthWidth : Nat := 8

/-- The first `width` bytes as a number. -/
def readNat (width : Nat) (input : Bytes) : Except Fault (Nat × Bytes) :=
  match Bytes.split? width input with
  | none => .error .endOfInput
  | some (front, rest) => .ok (Bytes.toNat front, rest)

def readBytes (short : Fault) (input : Bytes) : Except Fault (Bytes × Bytes) :=
  match readNat lengthWidth input with
  | .error e => .error e
  | .ok (size, rest) =>
    match Bytes.split? size rest with
    | none => .error short
    | some taken => .ok taken

/-- Numbers are little-endian in as many bytes as their type has, texts and byte strings stand
behind a length of eight bytes, and the parts of a pair follow each other. -/
def encode : (shape : Shape) → shape.Val → Bytes
  | .u8, n => [n]
  | .u16, n => Bytes.ofNat 2 n.toNat
  | .u32, n => Bytes.ofNat 4 n.toNat
  | .i32, n => Bytes.ofNat 4 n.toUInt32.toNat
  | .f64, bits => Bytes.ofNat 8 bits.toNat
  | .bool, b => [if b then 1 else 0]
  | .text, text => Bytes.ofNat lengthWidth text.utf8ByteSize ++ Text.utf8 text
  | .bytes, data => Bytes.ofNat lengthWidth data.length ++ data
  | .pair a b, (x, y) => encode a x ++ encode b y

def tooLong : String := "the size limit has been reached"

/-- The bytes of a value if they are no more than a limit, or else the text of the error. Reading knows
no limit. -/
def encodeWithin (limit : Nat) (shape : Shape) (value : shape.Val) : Except String Bytes :=
  let data := encode shape value
  if data.length ≤ limit then .ok data else .error tooLong

/-- The value at the start of the input, and the bytes after it. -/
def read : (shape : Shape) → Bytes → Except Fault (shape.Val × Bytes)
  | .u8, input => (readNat 1 input).map fun (n, rest) => (UInt8.ofNat n, rest)
  | .u16, input => (readNat 2 input).map fun (n, rest) => (UInt16.ofNat n, rest)
  | .u32, input => (readNat 4 input).map fun (n, rest) => (UInt32.ofNat n, rest)
  | .i32, input => (readNat 4 input).map fun (n, rest) => ((UInt32.ofNat n).toInt32, rest)
  | .f64, input => (readNat 8 input).map fun (n, rest) => (UInt64.ofNat n, rest)
  | .bool, input =>
    match readNat 1 input with
    | .error e => .error e
    | .ok (0, rest) => .ok (false, rest)
    | .ok (1, rest) => .ok (true, rest)
    | .ok (n, _) => .error (.invalidBool (UInt8.ofNat n))
  | .text, input =>
    match readBytes .shortText input with
    | .error e => .error e
    | .ok (raw, rest) =>
      match Text.ofUtf8? raw with
      | some text => .ok (text, rest)
      | none => .error (.invalidText ((Text.utf8Fault? raw).getD ⟨raw.length, none⟩))
  | .bytes, input => readBytes .endOfInput input
  | .pair a b, input =>
    match read a input with
    | .error e => .error e
    | .ok (x, rest) =>
      match read b rest with
      | .error e => .error e
      | .ok (y, rest) => .ok ((x, y), rest)

/-- The value whose encoding is the whole input. -/
def decode (shape : Shape) (input : Bytes) : Except Fault shape.Val :=
  match read shape input with
  | .error e => .error e
  | .ok (value, []) => .ok value
  | .ok (_, _ :: _) => .error .trailingBytes

end TypedBus.Bincode
