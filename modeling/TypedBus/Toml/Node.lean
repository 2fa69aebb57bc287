namespace TypedBus.Toml

/-- How a table came about, which decides what may still be added to it. -/
inductive Form
  /-- By a header of its own, or as the document. -/
  | header
  /-- As the parent of a table with a header. -/
  | parent
  /-- By a dotted key. -/
  | dotted
  /-- By braces. -/
  | inline
deriving DecidableEq, Repr

/-- A value in a document. What is in a float or a date is not kept. -/
inductive Node
  | text (s : String)
  | integer (n : Int)
  | float
  | boolean (b : Bool)
  | date
  | list (items : List Node)
  | table (form : Form) (entries : List (String × Node))
  /-- The tables of one `[[header]]`, the last one first. -/
  | tables (items : List (List (String × Node)))

abbrev Entries := List (String × Node)

namespace Entries

def get? (entries : Entries) (key : String) : Option Node := (entries.find? (·.1 == key)).map (·.2)

def put (entries : Entries) (key : String) (node : Node) : Entries :=
  (key, node) :: entries.filter (·.1 != key)

/-- Adds a key that is not there yet. -/
def addNew? (entries : Entries) (key : String) (node : Node) : Option Entries :=
  match entries.get? key with
  | none => some ((key, node) :: entries)
  | some _ => none

/-- Changes the table at the end of a path of headers. Tables that are missing on the way come into
being as parents; of the tables of one header the last one is meant. -/
def alterHeader? (change : Entries → Option Entries) : List String → Entries → Option Entries
  | [], entries => change entries
  | key :: path, entries =>
    match entries.get? key with
    | none => (alterHeader? change path []).map fun inner => entries.put key (.table .parent inner)
    | some (.table .inline _) => none
    | some (.table form inner) =>
      (alterHeader? change path inner).map fun inner => entries.put key (.table form inner)
    | some (.tables (last :: before)) =>
      (alterHeader? change path last).map fun last => entries.put key (.tables (last :: before))
    | some _ => none

/-- Adds the value of a dotted key, whose last part must be new. Tables that are missing on the way
come into being. A table that a header made the parent of another may be passed, but the table that
takes the value must be one that dotted keys made (`writable`), or the one that is being written. -/
def addDotted? (key : String) (node : Node) (writable : Bool) : List String → Entries → Option Entries
  | [], entries => if writable then entries.addNew? key node else none
  | part :: path, entries =>
    match entries.get? part with
    | none =>
      (addDotted? key node true path []).map fun inner => entries.put part (.table .dotted inner)
    | some (.table .dotted inner) =>
      (addDotted? key node true path inner).map fun inner => entries.put part (.table .dotted inner)
    | some (.table .parent inner) =>
      (addDotted? key node false path inner).map fun inner => entries.put part (.table .parent inner)
    | some (.tables (last :: before)) =>
      (addDotted? key node false path last).map fun last =>
        entries.put part (.tables (last :: before))
    | some _ => none

/-- A header: the table is new, or so far only the parent of others. -/
def openTable? (key : String) (entries : Entries) : Option Entries :=
  match entries.get? key with
  | none => some (entries.put key (.table .header []))
  | some (.table .parent inner) => some (entries.put key (.table .header inner))
  | some _ => none

/-- A header in double brackets: one more table under the same key. -/
def openNext? (key : String) (entries : Entries) : Option Entries :=
  match entries.get? key with
  | none => some (entries.put key (.tables [[]]))
  | some (.tables items) => some (entries.put key (.tables ([] :: items)))
  | some _ => none

end Entries

end TypedBus.Toml
