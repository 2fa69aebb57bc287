import TypedBus.Config.Environment
import TypedBus.Toml.Document

namespace TypedBus

open Toml (Node Entries)

namespace Config

/-- The entries of a table. A date counts as a table without known keys. -/
def tableOf? : Node → Option Entries
  | .table _ entries => some entries
  | .date => some []
  | _ => none

def textOf? : Node → Option String
  | .text s => some s
  | _ => none

def wordOf? : Node → Option UInt64
  | .integer n => if 0 ≤ n then some (UInt64.ofNat n.toNat) else none
  | _ => none

def boolOf? : Node → Option Bool
  | .boolean b => some b
  | _ => none

/-- A policy is given by its name, or by a table whose only key is the name, with nothing in it. -/
def policyOf? : Node → Option DuplicatePolicy
  | .text s => DuplicatePolicy.ofName? s
  | .table _ [(name, .table _ [])] => DuplicatePolicy.ofName? name
  | .table _ [(name, .list [])] => DuplicatePolicy.ofName? name
  | _ => none

def entryOr {α : Type} (entries : Entries) (key : String) (read : Node → Option α) (default : α) :
    Option α :=
  match entries.get? key with
  | none => some default
  | some node => read node

def transportOf? (node : Node) : Option TransportConfig := do
  let entries ← tableOf? node
  let d : TransportConfig := {}
  let domain ← entryOr entries "domain" textOf? d.domain
  let capacity ← entryOr entries "queue_capacity" wordOf? d.queueCapacity
  let size ← entryOr entries "max_payload_size" wordOf? d.maxPayloadSize
  let wire ← entryOr entries "wire_encoding" boolOf? d.wireEncoding
  return ⟨domain, capacity, size, wire⟩

def registryOf? (node : Node) : Option RegistryConfig := do
  let entries ← tableOf? node
  let d : RegistryConfig := {}
  let policy ← entryOr entries "duplicate_policy" policyOf? d.duplicatePolicy
  let auto ← entryOr entries "auto_register_types" boolOf? d.autoRegister
  return ⟨policy, auto⟩

def ofEntries? (entries : Entries) : Option Config := do
  let transport ← entryOr entries "transport" transportOf? {}
  let registry ← entryOr entries "s11n" registryOf? {}
  return ⟨transport, registry⟩

def ofToml (text : String) : Except ConfigError Config :=
  match Toml.parse text with
  | none => .error (.parse "not a TOML document")
  | some entries =>
    match ofEntries? entries with
    | none => .error (.parse "an entry is not of the expected kind")
    | some c => .ok c

inductive FileContent
  | missing
  | directory
  | bytes (content : Bytes)

def ofFile : FileContent → Except ConfigError Config
  | .missing => .error (.io "No such file or directory (os error 2)")
  | .directory => .error (.io "Is a directory (os error 21)")
  | .bytes content =>
    match Text.ofUtf8? content with
    | none => .error (.io "stream did not contain valid UTF-8")
    | some text => ofToml text

def ofFileWithEnv (file : FileContent) (env : Environment) : Except ConfigError Config :=
  match ofFile file with
  | .error e => .error e
  | .ok c => c.overrideFrom env

end Config

end TypedBus
