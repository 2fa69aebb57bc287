namespace TypedBus

/-- A value behind a lock. The lock is poisoned once a task has failed while it held it for writing,
and from then on nobody gets at the value. -/
structure Guarded (α : Type) where
  value : α
  poisoned : Bool := false

namespace Guarded

variable {α : Type}

def poisonText : String := "poisoned lock: another task failed inside"

/-- The value, or the text of a failed attempt to read it. -/
def read (g : Guarded α) : Except String α :=
  if g.poisoned then .error s!"获取读锁失败: {poisonText}" else .ok g.value

def write (g : Guarded α) : Except String α :=
  if g.poisoned then .error s!"获取写锁失败: {poisonText}" else .ok g.value

/-- Stores a value; only those who were let in to change it do. -/
def store (g : Guarded α) (value : α) : Guarded α := { g with value }

def poison (g : Guarded α) : Guarded α := { g with poisoned := true }

end Guarded

end TypedBus
