import TypedBus.Message

namespace TypedBus

/-- The part of a frame's body that a reader was looking at. -/
inductive FrameField
  | count
  | key
  | value
deriving DecidableEq, Repr

def FrameField.name : FrameField → String
  | count => "count"
  | key => "key"
  | value => "value"

inductive FrameError
  | frameTooLarge (size : Nat)
  | tooManyEntries (count : Nat)
  | keyTooLong (size : Nat)
  | truncated (field : FrameField)
  | invalidUtf8 (field : FrameField)
  | io (reason : String)
deriving DecidableEq, Repr

def FrameError.message : FrameError → String
  | frameTooLarge size => s!"帧过大: {size} 字节"
  | tooManyEntries count => s!"元数据条目过多: {count}"
  | keyTooLong size => s!"元数据键过长: {size} 字节"
  | truncated field => s!"帧字段被截断: {field.name}"
  | invalidUtf8 field => s!"元数据不是有效的 UTF-8: {field.name}"
  | io reason => s!"IO 错误: {reason}"

/-- The largest payload that any part of the bus accepts. -/
def payloadLimit : Nat := 256 * 1024 * 1024

namespace Frame

def lengthWidth : Nat := 4
def countWidth : Nat := 2
def keyWidth : Nat := 2
def valueWidth : Nat := 4

def wordLimit : Nat := 65535

/-- All metadata entries together, with their lengths. -/
def metadataLimit : Nat := 1024 * 1024

def bodyLimit : Nat := payloadLimit + metadataLimit

abbrev Entry := String × String

def entrySize (e : Entry) : Nat := keyWidth + e.1.utf8ByteSize + valueWidth + e.2.utf8ByteSize

def metadataSize (entries : List Entry) : Nat := entries.foldr (fun e size => entrySize e + size) 0

/-- The size of a message's body. A message is refused for the number of its entries, then for its
first key of more than two bytes' length, then for its metadata, then for its whole size. -/
def bodySize (m : Message) : Except FrameError Nat :=
  let entries := m.metadata.entries
  if entries.length > wordLimit then .error (.tooManyEntries entries.length)
  else match entries.find? (fun e => decide (e.1.utf8ByteSize > wordLimit)) with
    | some e => .error (.keyTooLong e.1.utf8ByteSize)
    | none =>
      let taken := metadataSize entries
      if taken > metadataLimit then .error (.frameTooLarge taken)
      else
        let size := countWidth + taken + m.size
        if size > bodyLimit then .error (.frameTooLarge size) else .ok size

def textBytes (width : Nat) (text : String) : Bytes :=
  Bytes.ofNat width text.utf8ByteSize ++ Text.utf8 text

def entryBytes (e : Entry) : Bytes := textBytes keyWidth e.1 ++ textBytes valueWidth e.2

def bodyBytes (m : Message) : Bytes :=
  Bytes.ofNat countWidth m.metadata.entries.length ++ (m.metadata.entries.flatMap entryBytes ++ m.data)

/-- The length of a body in four bytes, then the body: the number of metadata entries in two bytes,
each entry as key and value behind their lengths in two and four bytes, and the payload up to the
end. Numbers are little-endian, texts are UTF-8. -/
def encode (m : Message) : Except FrameError Bytes :=
  (bodySize m).map fun size => Bytes.ofNat lengthWidth size ++ bodyBytes m

/-- Appends the frame of a message to a buffer, or leaves the buffer as it is. -/
def encodeInto (m : Message) (buffer : Bytes) : Except FrameError Unit × Bytes :=
  match encode m with
  | .ok frame => (.ok (), buffer ++ frame)
  | .error e => (.error e, buffer)

def readText (width : Nat) (field : FrameField) (bytes : Bytes) : Except FrameError (String × Bytes) :=
  match Bytes.split? width bytes with
  | none => .error (.truncated field)
  | some (size, rest) =>
    match Bytes.split? size.toNat rest with
    | none => .error (.truncated field)
    | some (raw, rest) =>
      match Text.ofUtf8? raw with
      | none => .error (.invalidUtf8 field)
      | some text => .ok (text, rest)

/-- A number of entries, put in reverse in front of those read before. -/
def readEntries : Nat → List Entry → Bytes → Except FrameError (List Entry × Bytes)
  | 0, seen, bytes => .ok (seen.reverse, bytes)
  | n + 1, seen, bytes =>
    match readText keyWidth .key bytes with
    | .error e => .error e
    | .ok (key, rest) =>
      match readText valueWidth .value rest with
      | .error e => .error e
      | .ok (value, rest) => readEntries n ((key, value) :: seen) rest

/-- The message in a body. Of several entries with one key the last counts, and what follows the
last entry is the payload. -/
def readBody (body : Bytes) : Except FrameError Message :=
  match Bytes.split? countWidth body with
  | none => .error (.truncated .count)
  | some (count, rest) =>
    match readEntries count.toNat [] rest with
    | .error e => .error e
    | .ok (entries, payload) => .ok ⟨payload, .ofList entries⟩

/-- Takes the first frame off a buffer, whatever is in it. A frame that is not all there yet stays,
and so does one whose length is over the limit. -/
def decode (buffer : Bytes) : Except FrameError (Option Message) × Bytes :=
  match Bytes.split? lengthWidth buffer with
  | none => (.ok none, buffer)
  | some (size, rest) =>
    if size.toNat > bodyLimit then (.error (.frameTooLarge size.toNat), buffer)
    else match Bytes.split? size.toNat rest with
      | none => (.ok none, buffer)
      | some (body, rest) => ((readBody body).map some, rest)

end Frame

end TypedBus
