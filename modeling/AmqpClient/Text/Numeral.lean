/-!
# Decimal numerals

Reading an unsigned number with an upper limit: one optional plus sign, then
digits from the left. The first fault met on the way decides the error, so a
number that is already too large fails before a later character is looked at.
-/

set_option autoImplicit false

namespace AmqpClient.Text

/-- Why a text is no numeral of the wanted range. -/
inductive NumeralError where
  | empty
  | invalidDigit
  | tooLarge
  deriving DecidableEq, Repr

def NumeralError.message : NumeralError → String
  | .empty => "cannot parse integer from empty string"
  | .invalidDigit => "invalid digit found in string"
  | .tooLarge => "number too large to fit in target type"

def digitValue (char : Char) : Nat :=
  char.toNat - '0'.toNat

def appendDigits (limit : Nat) : Nat → List Char → Except NumeralError Nat
  | value, [] => .ok value
  | value, char :: rest =>
    if char.isDigit then
      let next := value * 10 + digitValue char
      if next ≤ limit then appendDigits limit next rest else .error .tooLarge
    else .error .invalidDigit

def readNumeral (limit : Nat) : List Char → Except NumeralError Nat
  | [] => .error .empty
  | ['+'] => .error .invalidDigit
  | '+' :: digits => appendDigits limit 0 digits
  | digits => appendDigits limit 0 digits

end AmqpClient.Text
