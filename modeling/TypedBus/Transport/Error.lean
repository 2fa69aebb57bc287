namespace TypedBus

inductive TransportError
  | io (reason : String)
  | closed (endpoint : String)
  | payloadTooLarge (size limit : Nat)
  | encoding (reason : String)
  | runtime (reason : String)
  | poisoned (reason : String)
  | timeout
deriving DecidableEq, Repr

namespace TransportError

def message : TransportError → String
  | io reason => s!"IO 错误: {reason}"
  | closed endpoint => s!"端点已关闭: {endpoint}"
  | payloadTooLarge size limit => s!"消息负载过大: {size} 字节 (上限 {limit} 字节)"
  | encoding reason => s!"线路编码失败: {reason}"
  | runtime reason => s!"运行时不可用: {reason}"
  | poisoned reason => s!"内部锁中毒: {reason}"
  | timeout => "操作超时"

/-- The messages of the errors behind this one, nearest first. -/
def causes : TransportError → List String
  | io reason => [reason]
  | _ => []

/-- There is nothing to run the deliveries of a subscription. -/
def noRuntime : TransportError :=
  .runtime "there is no reactor running, must be called from the context of a Tokio 1.x runtime"

end TransportError

end TypedBus
