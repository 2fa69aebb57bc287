import TypedBus.Payload.Basic
import TypedBus.Transport.Error

namespace TypedBus

inductive TypedError
  | unknownType (tag : String)
  | missingTypeTag
  | decode (tag : String) (cause : CodecError)
  | encode (tag : String) (cause : CodecError)
  | duplicateRegistration (tag : String)
  | emptyTypeTag
  | registry (reason : String)
  | transport (cause : TransportError)
deriving DecidableEq, Repr

namespace TypedError

def message : TypedError → String
  | unknownType tag => s!"未知的消息类型: {tag}"
  | missingTypeTag => "消息缺少类型标签 (um.s11n.type)"
  | decode tag cause => s!"解码 {tag} 失败: {cause.message}"
  | encode tag cause => s!"编码 {tag} 失败: {cause.message}"
  | duplicateRegistration tag => s!"类型标签已注册: {tag}"
  | emptyTypeTag => "类型标签不能为空"
  | registry reason => s!"注册表错误: {reason}"
  | transport cause => s!"传输错误: {cause.message}"

def causes : TypedError → List String
  | decode _ cause | encode _ cause => [cause.message]
  | transport cause => cause.message :: cause.causes
  | _ => []

end TypedError

end TypedBus
