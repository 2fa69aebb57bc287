import TypedBus.Config.File
import TypedBus.Error.Node
import TypedBus.Registry.Basic
import TypedBus.Transport.Domain

namespace TypedBus

/-- A domain set up from a valid configuration, which also fixes how the types of its subscribers
are registered. -/
structure Node (G : Type) where
  config : Config
  domain : Domain G

namespace Node

variable {G M : Type}

def ofValid (c : Config) : Node G := ⟨c, { config := c.transport }⟩

def new : Node G := ofValid {}

def withConfig (c : Config) : Except NodeError (Node G) :=
  match c.validate with
  | .error e => .error (.config e)
  | .ok () => .ok (ofValid c)

def ofFile (file : Config.FileContent) (env : Environment) : Except NodeError (Node G) :=
  match Config.ofFileWithEnv file env with
  | .error e => .error (.config e)
  | .ok c => withConfig c

/-- The registry of a new subscriber, with the types of a catalog if there is one. -/
def registry (node : Node G) (catalog : Option (Catalog M)) : Registry M :=
  .configured node.config.registry catalog

/-- One entry in the making of a configuration; the last one on a field counts. -/
inductive Setting
  | config (whole : Config)
  | domain (name : String)
  | queueCapacity (capacity : UInt64)
  | maxPayloadSize (size : UInt64)
  | wireEncoding (enabled : Bool)
  | duplicatePolicy (policy : DuplicatePolicy)
  | autoRegister (enabled : Bool)

def Setting.apply (c : Config) : Setting → Config
  | .config whole => whole
  | .domain name => { c with transport := { c.transport with domain := name } }
  | .queueCapacity capacity => { c with transport := { c.transport with queueCapacity := capacity } }
  | .maxPayloadSize size => { c with transport := { c.transport with maxPayloadSize := size } }
  | .wireEncoding enabled => { c with transport := { c.transport with wireEncoding := enabled } }
  | .duplicatePolicy policy => { c with registry := { c.registry with duplicatePolicy := policy } }
  | .autoRegister enabled => { c with registry := { c.registry with autoRegister := enabled } }

/-- The node with the default configuration changed by settings. -/
def build (settings : List Setting) : Except NodeError (Node G) :=
  withConfig (settings.foldl Setting.apply {})

end Node

end TypedBus
