import AmqpClient.Address.Mechanism
import AmqpClient.Text.Numeral
import AmqpClient.Text.Percent

/-!
# Query parameters of addresses

A query is a list of `name=value` pairs in the form encoding, where a plus sign
stands for a space. Only the first occurrence of a name counts.
-/

set_option autoImplicit false

namespace AmqpClient.Address

def splitAt (separator : Char) : List Char → List (List Char)
  | [] => [[]]
  | char :: rest =>
    if char = separator then [] :: splitAt separator rest
    else
      match splitAt separator rest with
      | part :: parts => (char :: part) :: parts
      | [] => [[char]]

def decodeForm (chars : List Char) : String :=
  Text.decodeLossy (Text.percentBytes (chars.map fun char => if char = '+' then ' ' else char))

def queryPairs (query : List Char) : List (String × String) :=
  ((splitAt '&' query).filter (!·.isEmpty)).map fun pair =>
    let name := pair.takeWhile (· ≠ '=')
    (decodeForm name, decodeForm ((pair.drop name.length).drop 1))

/-- Whether the first value of a name, if there is one, is a number in range. -/
def hasNumeral (pairs : List (String × String)) (name : String) (limit : Nat) : Bool :=
  match pairs.find? (·.1 = name) with
  | none => true
  | some (_, value) =>
    match Text.readNumeral limit value.toList with
    | .ok _ => true
    | .error _ => false

/-- The mechanism that a query names; without one it is the plain one. Every
parameter that means something must have a valid value. -/
def mechanism? (pairs : List (String × String)) : Option Mechanism :=
  if hasNumeral pairs "frame_max" (UInt32.size - 1) && hasNumeral pairs "channel_max" (UInt16.size - 1) &&
      hasNumeral pairs "heartbeat" (UInt16.size - 1) &&
      hasNumeral pairs "connection_timeout" (UInt64.size - 1) then
    match pairs.find? (·.1 = "auth_mechanism") with
    | none => some .plain
    | some (_, value) => Mechanism.ofName? value
  else none

end AmqpClient.Address
