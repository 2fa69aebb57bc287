import TypedBus.Error.Typed

namespace TypedBus

/-- What an error has to do with. -/
inductive ErrorContext
  | channel (name : String)
  | typeTag (tag : String)
  | keyValue (key value : String)
  | custom (text : String)
deriving DecidableEq, Repr

def ErrorContext.text : ErrorContext → String
  | channel name => s!"频道: {name}"
  | typeTag tag => s!"类型: {tag}"
  | keyValue key value => s!"{key}: {value}"
  | custom text => text

inductive ErrorKind
  | io
  | config
  | transport
  | serialization
  | registry
  | unknownType
  | timeout
  | validation
deriving DecidableEq, Repr

inductive BusError
  | io (reason : String)
  | config (reason : String)
  | transport (cause : TransportError)
  | serialization (reason : String)
  | registry (reason : String)
  | unknownType (tag : String)
  | timeout
  | validation (reason : String)
  | withContext (inner : BusError) (context : ErrorContext)
deriving DecidableEq, Repr

namespace BusError

def message : BusError → String
  | io reason => s!"IO 错误: {reason}"
  | config reason => s!"配置错误: {reason}"
  | transport cause => s!"传输错误: {cause.message}"
  | serialization reason => s!"序列化错误: {reason}"
  | registry reason => s!"类型注册错误: {reason}"
  | unknownType tag => s!"未知的消息类型: {tag}"
  | timeout => "操作超时"
  | validation reason => s!"验证失败: {reason}"
  | withContext inner context => s!"{inner.message} ({context.text})"

def kind : BusError → ErrorKind
  | io _ => .io
  | config _ => .config
  | transport _ => .transport
  | serialization _ => .serialization
  | registry _ => .registry
  | unknownType _ => .unknownType
  | timeout => .timeout
  | validation _ => .validation
  | withContext inner _ => inner.kind

/-- The messages of the errors behind this one, nearest first. -/
def causes : BusError → List String
  | io reason => [reason]
  | transport cause => cause.message :: cause.causes
  | withContext inner _ => inner.message :: inner.causes
  | _ => []

/-- Codec errors keep their tag as context. -/
def ofTyped : TypedError → BusError
  | .unknownType tag => .unknownType tag
  | .transport cause => .transport cause
  | .missingTypeTag => .serialization TypedError.missingTypeTag.message
  | .decode tag cause | .encode tag cause =>
    .withContext (.serialization cause.message) (.typeTag tag)
  | e@(.duplicateRegistration _) | e@.emptyTypeTag | e@(.registry _) => .registry e.message

end BusError

end TypedBus
