import AmqpClient.Field
import AmqpClient.Json.Binary

/-!
# Field values in documents

A field value as a JSON document: an object with one key, which names the type.
A table is an object under the names of its fields.
-/

set_option autoImplicit false

namespace AmqpClient.FieldValue

private def tagged (type : String) (value : Json) : Json :=
  .object [(type, value)]

private def integer (value : Int) : Json :=
  .number (.integer value)

mutual

def toJson : FieldValue → Json
  | .boolean value => tagged "Boolean" (.bool value)
  | .shortShortInt value => tagged "ShortShortInt" (integer value.toInt)
  | .shortShortUInt value => tagged "ShortShortUInt" (integer value.toNat)
  | .shortInt value => tagged "ShortInt" (integer value.toInt)
  | .shortUInt value => tagged "ShortUInt" (integer value.toNat)
  | .longInt value => tagged "LongInt" (integer value.toInt)
  | .longUInt value => tagged "LongUInt" (integer value.toNat)
  | .longLongInt value => tagged "LongLongInt" (integer value.toInt)
  | .decimal scale value =>
    tagged "DecimalValue" (.list [integer scale.toNat, integer value.toNat])
  | .shortString value => tagged "ShortString" (.text value)
  | .longString value => tagged "LongString" (.ofBytes value)
  | .list values => tagged "FieldArray" (.list (listToJson values))
  | .timestamp value => tagged "Timestamp" (integer value.toNat)
  | .table fields => tagged "FieldTable" (.object (fieldsToJson fields))
  | .byteArray value =>
    tagged "ByteArray" (.object [("hex", .text (Text.encodeHex value))])
  | .void => .text "Void"

def listToJson : List FieldValue → List Json
  | [] => []
  | value :: rest => toJson value :: listToJson rest

def fieldsToJson : List (String × FieldValue) → List (String × Json)
  | [] => []
  | (name, value) :: rest => (name, toJson value) :: fieldsToJson rest

end

/-- The value of a type without parts. Numbers are taken modulo the type's range. -/
private def scalar (type : String) (json : Json) : FieldValue :=
  let int := json.int?.getD 0
  match type with
  | "Boolean" => .boolean (match json with | .bool value => value | _ => false)
  | "ShortShortInt" => .shortShortInt (Int8.ofInt int)
  | "ShortShortUInt" => .shortShortUInt (UInt8.ofInt int)
  | "ShortInt" => .shortInt (Int16.ofInt int)
  | "ShortUInt" => .shortUInt (UInt16.ofInt int)
  | "LongInt" => .longInt (Int32.ofInt int)
  | "LongUInt" => .longUInt (UInt32.ofInt int)
  | "LongLongInt" => .longLongInt (Int64.ofInt int)
  | "Timestamp" => .timestamp (UInt64.ofInt int)
  | "DecimalValue" =>
    match json.items with
    | [scale, value] =>
      .decimal (UInt8.ofInt (scale.int?.getD 0)) (UInt32.ofInt (value.int?.getD 0))
    | _ => .void
  | "ShortString" => .shortString (json.text?.getD "")
  | "LongString" => .longString json.toBytes
  | "ByteArray" => .byteArray json.toBytes
  | _ => .void

mutual

def ofJson : Json → FieldValue
  | .object [(type, value)] =>
    match value with
    | .list items =>
      if type = "FieldArray" then .list (listOfJson items) else scalar type (.list items)
    | .object fields =>
      if type = "FieldTable" then .table (Keyed.ofList (fieldsOfJson fields))
      else scalar type (.object fields)
    | value => scalar type value
  | _ => .void

def listOfJson : List Json → List FieldValue
  | [] => []
  | json :: rest => ofJson json :: listOfJson rest

def fieldsOfJson : List (String × Json) → List (String × FieldValue)
  | [] => []
  | (name, json) :: rest => (name, ofJson json) :: fieldsOfJson rest

end

def tableOfJson (json : Json) : FieldTable :=
  Keyed.ofList (fieldsOfJson json.entries)

def tableToJson (table : FieldTable) : Json :=
  .object (fieldsToJson table)

end AmqpClient.FieldValue
