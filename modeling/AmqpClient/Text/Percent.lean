import AmqpClient.Text.Hex

/-!
# Percent encoding

Decoding of `%` followed by two hexadecimal digits. A `%` without them stands
for itself.
-/

set_option autoImplicit false

namespace AmqpClient.Text

def percentBytes : List Char → Bytes
  | [] => []
  | '%' :: high :: low :: rest =>
    match hexValue? high, hexValue? low with
    | some first, some second => UInt8.ofNat (first * 16 + second) :: percentBytes rest
    | _, _ => encodeUtf8 "%" ++ percentBytes (high :: low :: rest)
  | char :: rest => encodeUtf8 char.toString ++ percentBytes rest

/-- The text that a percent-encoded text stands for, if it is UTF-8. -/
def percentDecode? (chars : List Char) : Option String :=
  decodeUtf8? (percentBytes chars)

end AmqpClient.Text
