namespace TypedBus

inductive ConfigError
  | io (reason : String)
  | parse (reason : String)
  | validation (reason : String)
  | environment (reason : String)
deriving DecidableEq, Repr

namespace ConfigError

def message : ConfigError → String
  | io reason => s!"IO 错误: {reason}"
  | parse reason => s!"解析配置文件失败: {reason}"
  | validation reason => s!"配置验证失败: {reason}"
  | environment reason => s!"环境变量解析失败: {reason}"

def causes : ConfigError → List String
  | io reason => [reason]
  | _ => []

end ConfigError

end TypedBus
