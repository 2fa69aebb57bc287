import TypedBus.Toml.Scalar

namespace TypedBus.Toml

/-- How many lists and tables may stand in each other, and how many parts a key may have. -/
def nestingLimit : Nat := 79

/-- What is left after a comment that may start here. -/
def skipComment : List Char → List Char
  | '#' :: rest => rest.dropWhile isPlain
  | cs => cs

/-- Blanks, line ends and comments inside a list. A comment goes up to the end of its line. -/
def skipFillerFrom (comment : Bool) : List Char → List Char
  | [] => []
  | '\n' :: rest => skipFillerFrom false rest
  | '\r' :: '\n' :: rest => skipFillerFrom false rest
  | c :: rest =>
    if comment then if isPlain c then skipFillerFrom true rest else c :: rest
    else if c = '#' then skipFillerFrom true rest
    else if isSpace c then skipFillerFrom false rest
    else c :: rest

def skipFiller (cs : List Char) : List Char := skipFillerFrom false cs

def isKeyChar (c : Char) : Bool := c.isAlphanum || c = '_' || c = '-'

def simpleKey? (cs : List Char) : Option (String × List Char) :=
  match cs with
  | '"' :: _ | '\'' :: _ => lineString? cs
  | cs =>
    let name := cs.takeWhile isKeyChar
    if name = [] then none else some (String.ofList name, cs.dropWhile isKeyChar)

/-- The parts of a dotted key, and blanks around them. -/
def keyFrom : Nat → List String → Scanner (List String)
  | 0, _, _ => none
  | fuel + 1, seen, cs =>
    match simpleKey? (skipSpaces cs) with
    | none => none
    | some (name, rest) =>
      match skipSpaces rest with
      | '.' :: rest => keyFrom fuel (name :: seen) rest
      | rest => some ((name :: seen).reverse, rest)

def key? : Scanner (List String) := keyFrom nestingLimit []

mutual

/-- A value, in at most `depth` lists and tables. -/
def value? (depth : Nat) : Nat → Scanner Node
  | 0, _ => none
  | fuel + 1, cs =>
    match cs with
    | '[' :: rest =>
      match depth with
      | 0 => none
      | depth + 1 => items? depth fuel [] (skipFiller rest)
    | '{' :: rest =>
      match depth with
      | 0 => none
      | depth + 1 =>
        match skipSpaces rest with
        | '}' :: rest => some (.table .inline [], rest)
        | rest => pairs? depth fuel [] rest
    | '"' :: _ | '\'' :: _ => (string? cs).map fun (s, rest) => (.text s, rest)
    | cs => word? cs

/-- The rest of a list, after the items before. A comma may follow the last item. -/
def items? (depth : Nat) : Nat → List Node → Scanner Node
  | 0, _, _ => none
  | fuel + 1, seen, cs =>
    match cs with
    | ']' :: rest => some (.list seen.reverse, rest)
    | cs =>
      match value? depth fuel cs with
      | none => none
      | some (node, rest) =>
        match skipFiller rest with
        | ',' :: rest => items? depth fuel (node :: seen) (skipFiller rest)
        | ']' :: rest => some (.list (node :: seen).reverse, rest)
        | _ => none

/-- The rest of a table in braces, after the entries before. -/
def pairs? (depth : Nat) : Nat → Entries → Scanner Node
  | 0, _, _ => none
  | fuel + 1, entries, cs =>
    match entry? depth fuel cs with
    | none => none
    | some ((path, name, node), rest) =>
      match entries.addDotted? name node true path with
      | none => none
      | some entries =>
        match skipSpaces rest with
        | ',' :: rest => pairs? depth fuel entries rest
        | '}' :: rest => some (.table .inline entries, rest)
        | _ => none

/-- A key, an equals sign and a value. -/
def entry? (depth : Nat) : Nat → Scanner (List String × String × Node)
  | 0, _ => none
  | fuel + 1, cs =>
    match key? cs with
    | some (parts, '=' :: rest) =>
      match parts.getLast?, value? depth fuel (skipSpaces rest) with
      | some name, some (node, rest) => some ((parts.dropLast, name, node), rest)
      | _, _ => none
    | _ => none

end

/-- The end of a line after blanks and a comment; what is left is the next line. -/
def lineEnd? (cs : List Char) : Option (List Char) :=
  match skipComment (skipSpaces cs) with
  | [] => some []
  | cs => lineBreak? cs

/-- Opens the table of a header. -/
def header? (opened : String → Entries → Option Entries) (parts : List String) (root : Entries) :
    Option Entries :=
  parts.getLast?.bind fun name => root.alterHeader? (opened name) parts.dropLast

/-- The lines of a document, after those before them and inside the table `current`. -/
def lines? : Nat → List String → Entries → List Char → Option Entries
  | 0, _, _, _ => none
  | fuel + 1, current, root, cs =>
    match skipSpaces cs with
    | [] => some root
    | '[' :: '[' :: rest =>
      match key? rest with
      | some (parts, ']' :: ']' :: rest) =>
        match header? Entries.openNext? parts root, lineEnd? rest with
        | some root, some rest => lines? fuel parts root rest
        | _, _ => none
      | _ => none
    | '[' :: rest =>
      match key? rest with
      | some (parts, ']' :: rest) =>
        match header? Entries.openTable? parts root, lineEnd? rest with
        | some root, some rest => lines? fuel parts root rest
        | _, _ => none
      | _ => none
    | cs =>
      match lineEnd? cs with
      | some rest => lines? fuel current root rest
      | none =>
        match entry? nestingLimit fuel cs with
        | none => none
        | some ((path, name, node), rest) =>
          match root.alterHeader? (·.addDotted? name node true path) current, lineEnd? rest with
          | some root, some rest => lines? fuel current root rest
          | _, _ => none

/-- The entries of a document, which may start with a byte order mark. -/
def parse (text : String) : Option Entries :=
  let cs := match text.toList with
    | '\uFEFF' :: rest => rest
    | cs => cs
  lines? (2 * cs.length + 3) [] [] cs

end TypedBus.Toml
