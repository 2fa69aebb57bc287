import TypedBus.Config.Error
import TypedBus.Frame.Basic
import TypedBus.Text.Blank
import TypedBus.Text.Decimal

namespace TypedBus

/-- What becomes of a type tag that is registered again. -/
inductive DuplicatePolicy
  | overwrite
  | reject
deriving DecidableEq, Repr, Inhabited

namespace DuplicatePolicy

def name : DuplicatePolicy → String
  | overwrite => "overwrite"
  | reject => "reject"

def ofName? : String → Option DuplicatePolicy
  | "overwrite" => some overwrite
  | "reject" => some reject
  | _ => none

/-- Reads a policy's name; blanks around it and capital letters do not matter. -/
def parse (text : String) : Except ConfigError DuplicatePolicy :=
  let word := Text.lowerAscii (Text.trimBlanks text)
  match ofName? word with
  | some policy => .ok policy
  | none => .error (.parse s!"未知的重复注册策略: {word} (可选 overwrite / reject)")

end DuplicatePolicy

structure TransportConfig where
  domain : String := "default"
  queueCapacity : UInt64 := 1024
  maxPayloadSize : UInt64 := 16 * 1024 * 1024
  wireEncoding : Bool := false
deriving DecidableEq, Repr

structure RegistryConfig where
  duplicatePolicy : DuplicatePolicy := .overwrite
  autoRegister : Bool := false
deriving DecidableEq, Repr

structure Config where
  transport : TransportConfig := {}
  registry : RegistryConfig := {}
deriving DecidableEq, Repr

/-- A domain has a name that is not blank, queues hold something, and payloads are neither limited
to nothing nor over the hard limit; the first of these that fails is reported. -/
def TransportConfig.validate (c : TransportConfig) : Except ConfigError Unit :=
  if Text.trimBlanks c.domain = "" then .error (.validation "发现域名称不能为空")
  else if c.queueCapacity = 0 then .error (.validation "接收队列容量不能为 0")
  else if c.maxPayloadSize = 0 then .error (.validation "最大负载不能为 0")
  else if c.maxPayloadSize.toNat > payloadLimit then
    .error (.validation
      s!"最大负载过大: {c.maxPayloadSize.toNat} 字节 (上限 {payloadLimit} 字节)")
  else .ok ()

theorem TransportConfig.validate_eq_ok_iff {c : TransportConfig} :
    c.validate = .ok () ↔
      Text.trimBlanks c.domain ≠ "" ∧ c.queueCapacity ≠ 0 ∧ c.maxPayloadSize ≠ 0 ∧
        c.maxPayloadSize.toNat ≤ payloadLimit := by
  simp only [validate]
  split
  · simp [*]
  · split
    · simp [*]
    · split
      · simp [*]
      · split
        · simp_all
        · simp_all

namespace Config

def validate (c : Config) : Except ConfigError Unit := c.transport.validate

def summary (c : Config) : String :=
  s!"uMundo 配置:\n  域: {c.transport.domain}\n  队列容量: {c.transport.queueCapacity.toNat}\n" ++
  s!"  最大负载: {c.transport.maxPayloadSize.toNat} 字节\n" ++
  s!"  帧编码: {Text.ofBool c.transport.wireEncoding}\n" ++
  s!"  重复注册: {c.registry.duplicatePolicy.name}\n" ++
  s!"  自动注册: {Text.ofBool c.registry.autoRegister}"

end Config

end TypedBus
