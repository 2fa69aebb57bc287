import TypedBus.Text.Utf8
import TypedBus.TextMap

namespace TypedBus

abbrev Metadata := TextMap String

/-- The entry `um.s11n.type` of the metadata names the type of the object in the payload. -/
structure Message where
  data : Bytes := []
  metadata : Metadata := ∅

namespace Message

/-- The payloads are compared byte by byte, however long they are. -/
instance : DecidableEq Message := fun a b =>
  decidable_of_iff ((a.data == b.data) = true ∧ a.metadata = b.metadata) <| by
    rw [beq_iff_eq]
    cases a
    cases b
    simp

def typeKey : String := "um.s11n.type"

def withData (data : Bytes) : Message := ⟨data, ∅⟩

def size (m : Message) : Nat := m.data.length

def getMeta (m : Message) (key : String) : Option String := m.metadata.get? key

def putMeta (m : Message) (key value : String) : Message :=
  { m with metadata := m.metadata.insert key value }

def eraseMeta (m : Message) (key : String) : Message :=
  { m with metadata := m.metadata.erase key }

def typeTag (m : Message) : Option String := m.getMeta typeKey

def setTypeTag (m : Message) (tag : String) : Message := m.putMeta typeKey tag

/-- One line on a message: its type tag, or a dash, and how much it holds. -/
def summary (m : Message) : String :=
  let tag := m.typeTag.getD "-"
  s!"Message[type={tag}, size={m.size}, meta={m.metadata.size}]"

end Message

end TypedBus
