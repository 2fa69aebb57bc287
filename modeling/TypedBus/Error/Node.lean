import TypedBus.Config.Error
import TypedBus.Error.Bus

namespace TypedBus

inductive NodeError
  | bus (error : BusError)
  | typed (error : TypedError)
  | config (error : ConfigError)
  | transport (error : TransportError)
  | io (reason : String)
  | custom (reason : String)
deriving DecidableEq, Repr

namespace NodeError

def message : NodeError → String
  | bus e => e.message
  | typed e => e.message
  | config e => e.message
  | transport e => e.message
  | io reason => reason
  | custom reason => reason

def causes : NodeError → List String
  | bus e => e.causes
  | typed e => e.causes
  | config e => e.causes
  | transport e => e.causes
  | io _ => []
  | custom _ => []

def toBus : NodeError → BusError
  | bus e => e
  | typed e => .ofTyped e
  | config e => .config e.message
  | transport e => .transport e
  | io reason => .io reason
  | custom reason => .validation reason

end NodeError

end TypedBus
