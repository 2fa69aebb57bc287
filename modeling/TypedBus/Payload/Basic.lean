import TypedBus.Bytes

namespace TypedBus

inductive PayloadKind
  | protobuf
  | bincode
deriving DecidableEq, Repr

namespace PayloadKind

def name : PayloadKind → String
  | protobuf => "protobuf"
  | bincode => "bincode"

def title : PayloadKind → String
  | protobuf => "Protobuf"
  | bincode => "Bincode"

end PayloadKind

/-- An object could not be encoded, or bytes could not be decoded, for a reason given as text. -/
inductive CodecError
  | encode (reason : String)
  | decode (reason : String)
deriving DecidableEq, Repr

def CodecError.message : CodecError → String
  | encode reason => s!"编码失败: {reason}"
  | decode reason => s!"解码失败: {reason}"

end TypedBus
