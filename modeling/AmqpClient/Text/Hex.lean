import AmqpClient.Text.Utf8

/-!
# Hexadecimal text and fingerprints

Bytes as pairs of lower-case hexadecimal digits, and the 64-bit FNV-1a
fingerprint that stands for long content.
-/

set_option autoImplicit false

namespace AmqpClient.Text

def hexDigit (value : Nat) : Char :=
  if value < 10 then Char.ofNat ('0'.toNat + value) else Char.ofNat ('a'.toNat + (value - 10))

def hexValue? (char : Char) : Option Nat :=
  if '0' ≤ char && char ≤ '9' then some (char.toNat - '0'.toNat)
  else if 'a' ≤ char && char ≤ 'f' then some (char.toNat - 'a'.toNat + 10)
  else if 'A' ≤ char && char ≤ 'F' then some (char.toNat - 'A'.toNat + 10)
  else none

def encodeHex (bytes : Bytes) : String :=
  String.ofList (bytes.flatMap fun byte =>
    [hexDigit (byte.toNat / 16), hexDigit (byte.toNat % 16)])

def decodeHexChars? : List Char → Option Bytes
  | [] => some []
  | high :: low :: rest => do
    let high ← hexValue? high
    let low ← hexValue? low
    let bytes ← decodeHexChars? rest
    return UInt8.ofNat (high * 16 + low) :: bytes
  | [_] => none

def decodeHex? (text : String) : Option Bytes :=
  decodeHexChars? text.toList

def hexWord (word : UInt64) : String :=
  String.ofList ((List.range 16).reverse.map fun position =>
    hexDigit ((word.toNat >>> (4 * position)) % 16))

/-- The 64-bit FNV-1a hash: each byte is mixed in by exclusive or, then the
word is multiplied by the FNV prime. -/
def fingerprint (bytes : Bytes) : UInt64 :=
  bytes.foldl (fun word byte => (word ^^^ byte.toUInt64) * 0x100000001b3) 0xcbf29ce484222325

end AmqpClient.Text
