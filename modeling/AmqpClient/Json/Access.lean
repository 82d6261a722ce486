import AmqpClient.Json.Basic

/-!
# Looking into documents

Total access to the parts of a document. What is missing or of another form
counts as absent, or as an empty value of the wanted form.
-/

set_option autoImplicit false

namespace AmqpClient.Json

def items : Json → List Json
  | .list items => items
  | _ => []

def entries : Json → List (String × Json)
  | .object fields => fields
  | _ => []

def child (json : Json) (key : String) : Json :=
  (json.field? key).getD .null

def has (json : Json) (key : String) : Bool :=
  match json.child key with
  | .null => false
  | _ => true

def text? : Json → Option String
  | .text value => some value
  | _ => none

def int? : Json → Option Int
  | .number (.integer value) => some value
  | _ => none

/-- A natural number. Negative integers count as zero. -/
def nat? (json : Json) : Option Nat :=
  json.int?.map Int.toNat

def textAt (json : Json) (key : String) : String :=
  (json.child key).text?.getD ""

def natAt (json : Json) (key : String) : Nat :=
  (json.child key).nat?.getD 0

def boolAt (json : Json) (key : String) : Bool :=
  match json.child key with
  | .bool value => value
  | _ => false

def itemsAt (json : Json) (key : String) : List Json :=
  (json.child key).items

end AmqpClient.Json
