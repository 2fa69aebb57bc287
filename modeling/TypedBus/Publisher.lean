import TypedBus.Error.Typed
import TypedBus.Schema
import TypedBus.Transport.Domain

namespace TypedBus

/-- An object together with its schema. -/
structure TypedObject where
  schema : Schema
  value : schema.Val

/-- A publisher and the metadata that goes with everything it sends, below the type tag. -/
structure TypedPublisher where
  raw : PeerId
  fixed : Metadata := ∅

namespace TypedPublisher

/-- The message that carries an object, under a given tag or else under its type name. -/
def prepare (p : TypedPublisher) (tag? : Option String) (object : TypedObject) :
    Except TypedError Message :=
  let tag := tag?.getD object.schema.name
  if tag = "" then .error .emptyTypeTag
  else match object.schema.encode object.value with
    | .error e => .error (.encode tag e)
    | .ok data => .ok ({ data, metadata := p.fixed : Message }.setTypeTag tag)

/-- Only messages with a type tag are sent. -/
def admits (m : Message) : Bool :=
  match m.typeTag with
  | none | some "" => false
  | some _ => true

def send {G : Type} (p : TypedPublisher) (d : Domain G) (m : Message) :
    Except TypedError Nat × Domain G :=
  if admits m then
    let (started, d) := d.publish p.raw m
    (started.mapError .transport, d)
  else (.error .missingTypeTag, d)

def sendObject {G : Type} (p : TypedPublisher) (d : Domain G) (tag? : Option String)
    (object : TypedObject) : Except TypedError Nat × Domain G :=
  match p.prepare tag? object with
  | .error e => (.error e, d)
  | .ok m => p.send d m

def putMeta (p : TypedPublisher) (key value : String) : TypedPublisher :=
  { p with fixed := p.fixed.insert key value }

def eraseMeta (p : TypedPublisher) (key : String) : TypedPublisher :=
  { p with fixed := p.fixed.erase key }

theorem get?_putMeta (p : TypedPublisher) (key value other : String) :
    (p.putMeta key value).fixed.get? other = if other = key then some value else p.fixed.get? other :=
  TextMap.get?_insert _ _ _ _

theorem get?_eraseMeta (p : TypedPublisher) (key other : String) :
    (p.eraseMeta key).fixed.get? other = if other = key then none else p.fixed.get? other :=
  TextMap.get?_erase _ _ _

def join {G : Type} (d : Domain G) (channel : String) : Except TypedError TypedPublisher × Domain G :=
  let (id, d) := d.advertise channel
  ((id.map fun raw => { raw }).mapError .transport, d)

/-- What is prepared carries the fixed metadata, with the chosen tag as its type. -/
theorem getMeta_prepare {p : TypedPublisher} {tag? : Option String} {object : TypedObject}
    {m : Message} (h : p.prepare tag? object = .ok m) (key : String) :
    m.getMeta key =
      if key = Message.typeKey then some (tag?.getD object.schema.name) else p.fixed.get? key := by
  simp only [prepare] at h
  split at h
  · cases h
  · split at h
    · cases h
    · cases h
      exact TextMap.get?_insert _ _ _ _

theorem admits_prepare {p : TypedPublisher} {tag? : Option String} {object : TypedObject}
    {m : Message} (h : p.prepare tag? object = .ok m) : admits m = true := by
  have ht : m.typeTag = some (tag?.getD object.schema.name) := by
    rw [Message.typeTag, getMeta_prepare h, if_pos rfl]
  have hne : tag?.getD object.schema.name ≠ "" := by
    intro he
    simp [prepare, he] at h
  simp only [admits, ht]

end TypedPublisher

end TypedBus
