/-!
# Bytes and UTF-8

Payloads are lists of bytes. Decoding splits them into characters and malformed
parts; the strict reading refuses any malformed part, the lossy reading replaces
each by U+FFFD.
-/

set_option autoImplicit false

namespace AmqpClient

abbrev Bytes := List UInt8

namespace Text

def encodeUtf8 (text : String) : Bytes :=
  text.toUTF8.toList

def isContinuation (byte : UInt8) : Bool :=
  0x80 ≤ byte && byte ≤ 0xBF

/-- How the byte after a lead byte is restricted, and how many bytes follow the
lead in all. Single bytes and bytes that start no character give `none`. -/
def leadShape (lead : UInt8) : Option (UInt8 × UInt8 × Nat) :=
  if 0xC2 ≤ lead && lead ≤ 0xDF then some (0x80, 0xBF, 1)
  else if lead == 0xE0 then some (0xA0, 0xBF, 2)
  else if lead == 0xED then some (0x80, 0x9F, 2)
  else if 0xE1 ≤ lead && lead ≤ 0xEF then some (0x80, 0xBF, 2)
  else if lead == 0xF0 then some (0x90, 0xBF, 3)
  else if 0xF1 ≤ lead && lead ≤ 0xF3 then some (0x80, 0xBF, 3)
  else if lead == 0xF4 then some (0x80, 0x8F, 3)
  else none

def leadBits (lead : UInt8) (followers : Nat) : Nat :=
  lead.toNat % (64 >>> followers)

/-- The bytes that continue a character after its lead byte, as many as fit. -/
def followers (low high : UInt8) (count : Nat) (rest : Bytes) : Bytes :=
  match count, rest with
  | count + 1, byte :: rest =>
    if low ≤ byte && byte ≤ high then byte :: (rest.take count).takeWhile isContinuation else []
  | _, _ => []

/-- Splits the rest of the bytes, behind the parts found so far in reverse. -/
def decodePartsFrom (found : List (Option Char)) : Bytes → List (Option Char)
  | [] => found.reverse
  | lead :: rest =>
    if lead < 0x80 then decodePartsFrom (some (Char.ofNat lead.toNat) :: found) rest
    else
      match leadShape lead with
      | none => decodePartsFrom (none :: found) rest
      | some (low, high, count) =>
        let tail := followers low high count rest
        let part :=
          if tail.length == count then
            some (Char.ofNat
              (tail.foldl (fun code byte => code * 64 + byte.toNat % 64) (leadBits lead count)))
          else none
        decodePartsFrom (part :: found) (rest.drop tail.length)
  termination_by bytes => bytes.length
  decreasing_by all_goals simp only [List.length_cons, List.length_drop]; omega

/-- Splits bytes into characters and maximal malformed parts (`none`). -/
def decodeParts (bytes : Bytes) : List (Option Char) :=
  decodePartsFrom [] bytes

def decodeUtf8? (bytes : Bytes) : Option String :=
  ((decodeParts bytes).mapM id).map String.ofList

inductive Utf8Fault where
  /-- `length` bytes that start no character or stop short of one. -/
  | invalid (length index : Nat)
  | incomplete (index : Nat)
  deriving DecidableEq, Repr

def Utf8Fault.message : Utf8Fault → String
  | .invalid length index =>
    "invalid utf-8 sequence of " ++ toString length ++ " bytes from index " ++ toString index
  | .incomplete index => "incomplete utf-8 byte sequence from index " ++ toString index

/-- The first fault in the rest of some bytes, given where the rest starts. -/
def utf8FaultFrom (index : Nat) : Bytes → Option Utf8Fault
  | [] => none
  | lead :: rest =>
    if lead < 0x80 then utf8FaultFrom (index + 1) rest
    else
      match leadShape lead with
      | none => some (.invalid 1 index)
      | some (low, high, count) =>
        let tail := followers low high count rest
        if tail.length == count then utf8FaultFrom (index + 1 + count) (rest.drop tail.length)
        else if tail.length == rest.length then some (.incomplete index)
        else some (.invalid (1 + tail.length) index)
  termination_by bytes => bytes.length
  decreasing_by all_goals simp only [List.length_cons, List.length_drop]; omega

def utf8Fault? (bytes : Bytes) : Option Utf8Fault :=
  utf8FaultFrom 0 bytes

def decodeLossy (bytes : Bytes) : String :=
  String.ofList ((decodeParts bytes).map (·.getD '\uFFFD'))

end Text

end AmqpClient
