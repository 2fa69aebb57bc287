import TypedBus.Text.Digits

namespace TypedBus.Text

def digitValue (c : Char) : Nat := c.toNat - '0'.toNat

/-- A number as a plus sign, if any, and at least one digit from `0` to `9`. -/
def word? (text : String) : Option UInt64 :=
  let digits := match text.toList with
    | '+' :: rest => rest
    | cs => cs
  if digits ≠ [] ∧ digits.all Char.isDigit then
    (valueBelow? 10 UInt64.size (digits.map digitValue)).map UInt64.ofNat
  else none

/-- One of the two words `true` and `false`. -/
def bool? : String → Option Bool
  | "true" => some true
  | "false" => some false
  | _ => none

def ofBool (b : Bool) : String := if b then "true" else "false"

end TypedBus.Text
