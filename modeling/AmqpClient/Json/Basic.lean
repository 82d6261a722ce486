import AmqpClient.Keyed

/-!
# JSON values

A document as a tree. Integers that fit 64 bits are kept exactly and every other
number as a binary64 value; an object holds each key once, in byte order.
-/

set_option autoImplicit false

namespace AmqpClient

/-- A JSON number. `integer` covers the signed and the unsigned 64-bit range;
`float` is given by its IEEE bits. -/
inductive Json.Number where
  | integer (value : Int)
  | float (bits : UInt64)
  deriving DecidableEq, Repr, Inhabited

inductive Json where
  | null
  | bool (value : Bool)
  | number (value : Json.Number)
  | text (value : String)
  | list (items : List Json)
  | object (fields : List (String × Json))
  deriving Repr, Inhabited

namespace Json

/-- An object built from fields in any order; the last value of a key stands. -/
def ofFields (fields : List (String × Json)) : Json :=
  .object (Keyed.ofList fields)

def field? (key : String) : Json → Option Json
  | .object fields => Keyed.get? fields key
  | _ => none

end Json

end AmqpClient
