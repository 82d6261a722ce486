import AmqpClient.Json.Record
import AmqpClient.Message

/-!
# Reading payloads

The forms in which an application reads the JSON payload of a delivery. Whatever
is wrong with a payload, the failure is the same.
-/

set_option autoImplicit false

namespace AmqpClient

/-- Reads the payload of a delivery with a reader for the wanted form. -/
def Delivery.decode {α : Type} (reader : Json.Reader α) (delivery : Delivery) :
    Except ClientError α :=
  match Json.readWhole reader delivery.data with
  | .ok value => .ok value
  | .error _ => .error .parsePayload

namespace Simulation

structure Order where
  id : Nat
  name : Option String := none
  tags : List String := []
  deriving DecidableEq, Repr, Inhabited

inductive PayloadForm where
  | any
  | natural
  | text
  | truth
  | naturals
  | integers
  | order
  deriving DecidableEq, Repr

inductive Payload where
  | any (value : Json)
  | natural (value : Nat)
  | text (value : String)
  | truth (value : Bool)
  | naturals (values : List Nat)
  | integers (values : Keyed Int)
  | order (value : Order)

def maxNatural : Nat := UInt32.size - 1

/-- An order under construction, whose number may be missing yet. -/
structure OrderDraft where
  id : Option Nat := none
  name : Option String := none
  tags : List String := []

def orderFields : List (Json.RecordField OrderDraft) :=
  [ { name := "id",
      read := fun draft => return { draft with id := some (← Json.readNatural maxNatural) } },
    { name := "name",
      read := fun draft => return { draft with name := ← Json.readOptional Json.readText } },
    { name := "tags",
      read := fun draft => return { draft with tags := ← Json.readListOf Json.readText } } ]

def readOrder : Json.Reader Order := do
  let draft ← Json.readRecord orderFields {}
  match draft.id with
  | some id => return { id, name := draft.name, tags := draft.tags }
  | none => Json.fault .mismatched

def PayloadForm.read (form : PayloadForm) : Json.Reader Payload :=
  match form with
  | .any => .any <$> Json.readValue
  | .natural => .natural <$> Json.readNatural maxNatural
  | .text => .text <$> Json.readText
  | .truth => .truth <$> Json.readBool
  | .naturals => .naturals <$> Json.readListOf (Json.readNatural maxNatural)
  | .integers => .integers <$> Json.readMapOf (Json.readInteger Int64.minValue.toInt Int64.maxValue.toInt)
  | .order => .order <$> readOrder

end Simulation

end AmqpClient
