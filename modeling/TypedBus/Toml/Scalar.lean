import TypedBus.Text.Digits
import TypedBus.Toml.Node

namespace TypedBus.Toml

/-- What is read off the front of the characters, and the rest. -/
abbrev Scanner (α : Type) := List Char → Option (α × List Char)

/-- Characters that stand for themselves in strings and comments. -/
def isPlain (c : Char) : Bool := c = '\t' || (0x20 ≤ c.val && c.val ≠ 0x7F)

/-- A line end, with or without a carriage return. -/
def lineBreak? : List Char → Option (List Char)
  | '\n' :: rest => some rest
  | '\r' :: '\n' :: rest => some rest
  | _ => none

def isSpace (c : Char) : Bool := c = ' ' || c = '\t'

def skipSpaces (cs : List Char) : List Char := cs.dropWhile isSpace

def hexValue? (c : Char) : Option Nat :=
  if c.isDigit then some (c.toNat - '0'.toNat)
  else if 'a' ≤ c ∧ c ≤ 'f' then some (c.toNat - 'a'.toNat + 10)
  else if 'A' ≤ c ∧ c ≤ 'F' then some (c.toNat - 'A'.toNat + 10)
  else none

/-- A character given by `n` hexadecimal digits. -/
def codePoint? (n : Nat) (cs : List Char) : Option (Char × List Char) := do
  let digits := cs.take n
  let values ← digits.mapM hexValue?
  let code := values.foldl (fun a d => 16 * a + d) 0
  if digits.length = n ∧ code.isValidChar then some (Char.ofNat code, cs.drop n) else none

def escape? : Scanner Char
  | 'b' :: rest => some ('\x08', rest)
  | 't' :: rest => some ('\t', rest)
  | 'n' :: rest => some ('\n', rest)
  | 'f' :: rest => some ('\x0c', rest)
  | 'r' :: rest => some ('\r', rest)
  | '"' :: rest => some ('"', rest)
  | '\\' :: rest => some ('\\', rest)
  | 'u' :: rest => codePoint? 4 rest
  | 'U' :: rest => codePoint? 8 rest
  | _ => none

theorem length_codePoint?_le {n : Nat} {cs rest : List Char} {c : Char}
    (h : codePoint? n cs = some (c, rest)) : rest.length ≤ cs.length := by
  simp only [codePoint?, Option.bind_eq_bind, Option.bind_eq_some_iff] at h
  obtain ⟨values, -, h⟩ := h
  split at h
  · cases h
    simp
  · cases h

theorem length_escape?_lt {cs rest : List Char} {c : Char} (h : escape? cs = some (c, rest)) :
    rest.length < cs.length := by
  unfold escape? at h
  split at h
  case h_8 => exact Nat.lt_succ_of_le (length_codePoint?_le h)
  case h_9 => exact Nat.lt_succ_of_le (length_codePoint?_le h)
  all_goals cases h
  all_goals simp

/-- The rest of a string in double quotes, after what was read before in reverse. -/
def basicFrom (seen : List Char) : Scanner String
  | [] => none
  | c :: rest =>
    if c = '"' then some (String.ofList seen.reverse, rest)
    else if c = '\\' then
      match h : escape? rest with
      | none => none
      | some (d, after) =>
        have : after.length < (c :: rest).length := Nat.lt_succ_of_lt (length_escape?_lt h)
        basicFrom (d :: seen) after
    else if isPlain c then basicFrom (c :: seen) rest
    else none
termination_by cs => cs.length
decreasing_by all_goals simp only [List.length_cons] at *; omega

/-- The rest of a string in single quotes. -/
def literalFrom : List Char → Scanner String
  | _, [] => none
  | seen, c :: rest =>
    if c = '\'' then some (String.ofList seen.reverse, rest)
    else if isPlain c then literalFrom (c :: seen) rest
    else none

/-- Blanks and line ends after a backslash at the end of a line. -/
def skipBlankLines : List Char → List Char
  | '\r' :: '\n' :: rest => skipBlankLines rest
  | c :: rest => if isSpace c || c = '\n' then skipBlankLines rest else c :: rest
  | [] => []

theorem length_skipBlankLines_le (cs : List Char) : (skipBlankLines cs).length ≤ cs.length := by
  fun_induction skipBlankLines cs with
  | case1 rest ih => exact Nat.le_trans ih (Nat.le_succ_of_le (Nat.le_succ _))
  | case2 c rest _ _ ih => exact Nat.le_succ_of_le ih
  | case3 => exact Nat.le_refl _
  | case4 => exact Nat.le_refl _

theorem length_lineBreak?_lt {cs rest : List Char} (h : lineBreak? cs = some rest) :
    rest.length < cs.length := by
  unfold lineBreak? at h
  split at h
  · cases h
    exact Nat.lt_succ_self _
  · cases h
    exact Nat.lt_succ_of_lt (Nat.lt_succ_self _)
  · cases h

theorem length_skipSpaces_le (cs : List Char) : (skipSpaces cs).length ≤ cs.length :=
  (List.dropWhile_sublist isSpace).length_le

/-- The rest of a string in triple quotes, of which `escapes` tells whether a backslash is special.
Up to two quotes may stand in front of the closing ones. -/
def multilineFrom (quote : Char) (escapes : Bool) (seen : List Char) : Scanner String
  | [] => none
  | c :: rest =>
    if c = quote then
      let run := 1 + min 4 (rest.takeWhile (· = quote)).length
      let after := rest.drop (run - 1)
      have : after.length < (c :: rest).length := by
        simp only [after, List.length_drop, List.length_cons]; omega
      if run ≥ 3 then some (String.ofList (List.replicate (run - 3) quote ++ seen).reverse, after)
      else multilineFrom quote escapes (List.replicate run quote ++ seen) after
    else if escapes ∧ c = '\\' then
      match hb : lineBreak? (skipSpaces rest) with
      | some after =>
        have : (skipBlankLines after).length < (c :: rest).length :=
          Nat.lt_succ_of_le (Nat.le_trans (length_skipBlankLines_le after)
            (Nat.le_trans (Nat.le_of_lt (length_lineBreak?_lt hb)) (length_skipSpaces_le rest)))
        multilineFrom quote escapes seen (skipBlankLines after)
      | none =>
        match he : escape? rest with
        | none => none
        | some (d, after) =>
          have : after.length < (c :: rest).length := Nat.lt_succ_of_lt (length_escape?_lt he)
          multilineFrom quote escapes (d :: seen) after
    else match hl : lineBreak? (c :: rest) with
      | some after =>
        have : after.length < (c :: rest).length := length_lineBreak?_lt hl
        multilineFrom quote escapes ('\n' :: seen) after
      | none => if isPlain c then multilineFrom quote escapes (c :: seen) rest else none
termination_by cs => cs.length
decreasing_by all_goals simp only [List.length_cons] at *; omega

/-- A string in triple quotes does not hold a line end that follows the opening ones. -/
def multiline (quote : Char) (escapes : Bool) (cs : List Char) : Option (String × List Char) :=
  multilineFrom quote escapes [] ((lineBreak? cs).getD cs)

def lineString? : Scanner String
  | '"' :: rest => basicFrom [] rest
  | '\'' :: rest => literalFrom [] rest
  | _ => none

def string? : Scanner String
  | '"' :: '"' :: '"' :: rest => multiline '"' true rest
  | '\'' :: '\'' :: '\'' :: rest => multiline '\'' false rest
  | cs => lineString? cs

def digit? (base : Nat) (c : Char) : Option Nat :=
  (hexValue? c).bind fun d => if d < base then some d else none

/-- At least one digit of a base, with single underscores between digits, after the digits before
in reverse. -/
def digitsFrom? (base : Nat) : List Nat → List Char → Option (List Nat)
  | _, [] => none
  | seen, [c] => (digit? base c).map fun d => (d :: seen).reverse
  | seen, c :: '_' :: rest =>
    match digit? base c with
    | none => none
    | some d => digitsFrom? base (d :: seen) rest
  | seen, c :: rest =>
    match digit? base c with
    | none => none
    | some d => digitsFrom? base (d :: seen) rest

def digits? (base : Nat) (cs : List Char) : Option (List Nat) := digitsFrom? base [] cs

def splitSign : List Char → Bool × List Char
  | '-' :: rest => (true, rest)
  | '+' :: rest => (false, rest)
  | cs => (false, cs)

/-- A decimal number without a zero in front. -/
def decimal? (cs : List Char) : Option (List Nat) :=
  match cs with
  | '0' :: _ :: _ => none
  | cs => digits? 10 cs

/-- An integer of 64 bits. Only decimal ones may have a sign. -/
def integer? (cs : List Char) : Option Int :=
  let word (base : Nat) (digits : List Nat) : Option Int :=
    (Text.valueBelow? base (1 <<< 63) digits).map fun n => n
  match cs with
  | '0' :: 'x' :: rest => (digits? 16 rest).bind (word 16)
  | '0' :: 'o' :: rest => (digits? 8 rest).bind (word 8)
  | '0' :: 'b' :: rest => (digits? 2 rest).bind (word 2)
  | cs =>
    match splitSign cs with
    | (false, rest) => (decimal? rest).bind (word 10)
    | (true, rest) => (decimal? rest).bind fun ds =>
      (Text.valueBelow? 10 ((1 <<< 63) + 1) ds).map fun n => -(n : Int)

/-- The least number that rounds to infinity. It has 309 digits. -/
def overflowsAt : Nat := (1 <<< 1024) - (1 <<< 970)

/-- Whether a number, its digits times a power of ten, is too large for a float. That only takes the
part before the point, and only if that part has as many digits as the least number too large. -/
def overflows (digits : List Nat) (exponent : Int) : Bool :=
  let digits := digits.dropWhile (· = 0)
  let places : Int := digits.length + exponent
  if digits = [] ∨ places < 309 then false
  else if places > 309 then true
  else overflowsAt ≤ Text.value 10 ((digits ++ List.replicate exponent.toNat 0).take 309)

/-- A fraction, an exponent or both after a decimal number; the words for infinity and for no number
at all. A number over all floats is refused when it is positive. An exponent that no fraction of this
length can make up for counts as the least such. -/
def isFloat (cs : List Char) : Bool :=
  let reach := cs.length + 400
  let (negative, body) := splitSign cs
  if body = "inf".toList ∨ body = "nan".toList then true
  else
    let isExponent (c : Char) : Bool := c = 'e' || c = 'E'
    let mantissa := body.takeWhile (fun c => !isExponent c)
    let exponent := body.dropWhile (fun c => !isExponent c)
    let whole := mantissa.takeWhile (· ≠ '.')
    let fraction := mantissa.dropWhile (· ≠ '.')
    let fractionDigits := match fraction with
      | [] => some []
      | _ :: ds => digits? 10 ds
    let power : Option Int := match exponent with
      | [] => some 0
      | _ :: rest =>
        let (down, ds) := splitSign rest
        (digits? 10 ds).map fun ds =>
          let n := (Text.valueBelow? 10 reach ds).getD reach
          if down then -(n : Int) else n
    if fraction = [] ∧ exponent = [] then false
    else match decimal? whole, fractionDigits, power with
      | some ds, some fs, some p => negative || !overflows (ds ++ fs) (p - fs.length)
      | _, _, _ => false

def number? (width : Nat) (cs : List Char) : Option (Nat × List Char) :=
  let ds := cs.take width
  if ds.length = width ∧ ds.all Char.isDigit then
    some (ds.foldl (fun n c => 10 * n + (c.toNat - '0'.toNat)) 0, cs.drop width)
  else none

def daysIn (year month : Nat) : Nat :=
  if month = 2 then if year % 4 = 0 ∧ (year % 100 ≠ 0 ∨ year % 400 = 0) then 29 else 28
  else if month = 4 ∨ month = 6 ∨ month = 9 ∨ month = 11 then 30
  else 31

def day? (cs : List Char) : Option (List Char) := do
  let (year, cs) ← number? 4 cs
  let '-' :: cs := cs | none
  let (month, cs) ← number? 2 cs
  let '-' :: cs := cs | none
  let (day, cs) ← number? 2 cs
  if 1 ≤ month ∧ month ≤ 12 ∧ 1 ≤ day ∧ day ≤ daysIn year month then some cs else none

def time? (cs : List Char) : Option (List Char) := do
  let (hour, cs) ← number? 2 cs
  let ':' :: cs := cs | none
  let (minute, cs) ← number? 2 cs
  let ':' :: cs := cs | none
  let (second, cs) ← number? 2 cs
  if hour > 23 ∨ minute > 59 ∨ second > 60 then none
  else match cs with
    | '.' :: c :: rest => if c.isDigit then some (rest.dropWhile Char.isDigit) else none
    | cs => some cs

/-- Nothing, the letter `Z` or hours and minutes with a sign. -/
def isOffset : List Char → Bool
  | [] => true
  | ['Z'] | ['z'] => true
  | sign :: rest =>
    (sign = '+' || sign = '-') &&
      match number? 2 rest with
      | some (hour, ':' :: rest) =>
        match number? 2 rest with
        | some (minute, []) => hour ≤ 23 && minute ≤ 59
        | _ => false
      | _ => false

/-- A time of day with an offset or without. -/
def isClock (cs : List Char) : Bool :=
  match time? cs with
  | some rest => isOffset rest
  | none => false

def isDate (cs : List Char) : Bool :=
  match day? cs with
  | some [] => true
  | some (c :: rest) => (c = 'T' || c = 't' || c = ' ') && isClock rest
  | none => time? cs = some []

/-- Characters of numbers, dates and words. -/
def isWordChar (c : Char) : Bool :=
  c.isAlphanum || c = '_' || c = '+' || c = '-' || c = '.' || c = ':'

/-- A number, a date or a word. After a day a blank may lead to a time. -/
def word? (cs : List Char) : Option (Node × List Char) :=
  let front := cs.takeWhile isWordChar
  let rest := cs.dropWhile isWordChar
  let (word, rest) := match day? front, rest with
    | some [], ' ' :: c :: more =>
      if c.isDigit then
        (front ++ ' ' :: (c :: more).takeWhile isWordChar, (c :: more).dropWhile isWordChar)
      else (front, rest)
    | _, _ => (front, rest)
  if word = "true".toList then some (.boolean true, rest)
  else if word = "false".toList then some (.boolean false, rest)
  else if isDate word then some (.date, rest)
  else if isFloat word then some (.float, rest)
  else (integer? word).map fun n => (.integer n, rest)

end TypedBus.Toml
