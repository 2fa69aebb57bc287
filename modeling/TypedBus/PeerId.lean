namespace TypedBus

/-- A domain numbers its endpoints from one on in the order in which they ask to join. -/
structure PeerId where
  value : UInt64
deriving DecidableEq, Repr, Inhabited

namespace PeerId

def first : PeerId := ⟨1⟩

/-- The number after this one; after the largest word comes zero. -/
def next (id : PeerId) : PeerId := ⟨id.value + 1⟩

/-- The first `n` numbers that a new domain gives out. -/
def firstIds (n : Nat) : List PeerId := (List.range n).map fun i => ⟨1 + UInt64.ofNat i⟩

def text (id : PeerId) : String := s!"peer-{id.value.toNat}"

def ascending (ids : List PeerId) : List PeerId :=
  ids.mergeSort fun a b => decide (a.value ≤ b.value)

def sortDistinct (ids : List PeerId) : List PeerId :=
  (ascending ids).foldr (fun id rest => if rest.head? = some id then rest else id :: rest) []

end PeerId

end TypedBus
