namespace TypedBus.TypeName

/-- Reads a text from its end up to two colons in a row, in front of what was read before. -/
def readBackTo (seen : List Char) : List Char → List Char
  | ':' :: ':' :: _ => seen
  | c :: rest => readBackTo (c :: seen) rest
  | [] => seen

/-- What stands after the last two colons in a row. -/
def afterDoubleColon (cs : List Char) : List Char := readBackTo [] cs.reverse

/-- The last segment of a path, without type arguments. -/
def short (full : String) : String :=
  String.ofList (afterDoubleColon (full.toList.takeWhile (· ≠ '<')))

def isSeparator (c : Char) : Bool := c = '.' || c = ':'

/-- What stands after the last dot or colon. -/
def lastPart (tag : String) : String :=
  String.ofList (tag.toList.reverse.takeWhile (fun c => !isSeparator c)).reverse

end TypedBus.TypeName
