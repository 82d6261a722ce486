import AmqpClient.Json.Access
import AmqpClient.Text.Hex

/-!
# Bytes in documents

Bytes are written as the text they encode, or in hexadecimal if they encode none.
Long content is only named, by its length and fingerprint. In a document that is
read, a text may also be given as a part and the number of its repetitions.
-/

set_option autoImplicit false

namespace AmqpClient.Json

def shownLength : Nat := 200

def ofBytes (bytes : Bytes) : Json :=
  if bytes.length > shownLength then
    ofFields
      [("len", .number (.integer bytes.length)),
       ("fnv1a", .text (Text.hexWord (Text.fingerprint bytes)))]
  else
    match Text.decodeUtf8? bytes with
    | some content => .text content
    | none => ofFields [("hex", .text (Text.encodeHex bytes))]

/-- The bytes of a document; none if it gives none. -/
def toBytes : Json → Bytes
  | .text value => Text.encodeUtf8 value
  | json =>
    match (json.child "hex").text?, json.itemsAt "rep" with
    | some hex, _ => (Text.decodeHex? hex).getD []
    | none, [.text part, count] =>
      (List.replicate (count.nat?.getD 0) (Text.encodeUtf8 part)).flatten
    | none, _ => []

end AmqpClient.Json
