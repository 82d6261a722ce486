import AmqpClient.Json.Basic
import AmqpClient.Text.Hex

/-!
# Reading JSON

A reader consumes bytes from the left and stops at the first fault. A fault says
whether the text ended early, breaks the grammar, or is well formed with a value
that is not the wanted one. Values nest at most 127 deep.

An integer beyond 64 bits and a number with a fraction or an exponent become
binary64 values: the digits that fit a 64-bit significand count, later ones only
scale, and the significand is multiplied or divided by a power of ten.
-/

set_option autoImplicit false

namespace AmqpClient.Json

inductive Fault where
  /-- The text breaks the grammar or a limit of the reader. -/
  | malformed
  /-- The value is well formed but not of the wanted form. -/
  | mismatched
  | truncated
  deriving DecidableEq, Repr

abbrev Reader (α : Type) := StateT Bytes (Except Fault) α

def code (char : Char) : UInt8 :=
  UInt8.ofNat char.toNat

def fault {α : Type} (cause : Fault) : Reader α :=
  fun _ => .error cause

def peek : Reader (Option UInt8) :=
  return (← get).head?

def skip : Reader Unit :=
  modify List.tail

def next : Reader UInt8 := do
  match ← get with
  | byte :: rest => set rest; return byte
  | [] => fault .truncated

def isGap (byte : UInt8) : Bool :=
  byte == 0x20 || byte == 0x0A || byte == 0x09 || byte == 0x0D

def peekToken : Reader (Option UInt8) := do
  modify (·.dropWhile isGap)
  peek

def isDigit (byte : UInt8) : Bool :=
  code '0' ≤ byte && byte ≤ code '9'

def digit (byte : UInt8) : Nat :=
  byte.toNat - '0'.toNat

/-- Takes the remaining bytes of a word whose first byte was taken. -/
def readWord : List Char → Reader Unit
  | [] => return ()
  | char :: rest => do
    if (← next) = code char then readWord rest else fault .malformed

/-! ## Text -/

/-- Four hexadecimal digits. Fewer than four bytes are an early end, whatever
they are. -/
def readHexQuad : Reader Nat := do
  match ← get with
  | a :: b :: c :: d :: rest =>
    set rest
    let digits := [a, b, c, d].mapM fun byte => Text.hexValue? (Char.ofNat byte.toNat)
    match digits with
    | some values => return values.foldl (fun sum value => sum * 16 + value) 0
    | none => fault .malformed
  | _ => fault .truncated

/-- The character of a `u` escape. Surrogates must come as a pair of escapes. -/
def readCodePoint : Reader Char := do
  let first ← readHexQuad
  if 0xDC00 ≤ first ∧ first ≤ 0xDFFF then fault .malformed
  else if first < 0xD800 ∨ 0xDBFF < first then return Char.ofNat first
  else
    if (← next) ≠ code '\\' then fault .malformed
    else if (← next) ≠ code 'u' then fault .malformed
    else
      let second ← readHexQuad
      if second < 0xDC00 ∨ 0xDFFF < second then fault .malformed
      else return Char.ofNat (0x10000 + (first - 0xD800) * 0x400 + (second - 0xDC00))

def simpleEscape? (byte : UInt8) : Option UInt8 :=
  if byte = code '"' ∨ byte = code '\\' ∨ byte = code '/' then some byte
  else if byte = code 'b' then some 0x08
  else if byte = code 'f' then some 0x0C
  else if byte = code 'n' then some 0x0A
  else if byte = code 'r' then some 0x0D
  else if byte = code 't' then some 0x09
  else none

/-- The bytes of a string up to its closing quote, behind those taken so far in
reverse. The fuel bounds the bytes looked at. -/
def readStringBytes : Nat → Bytes → Reader Bytes
  | 0, _ => fault .truncated
  | fuel + 1, taken => do
    let byte ← next
    if byte = code '"' then return taken.reverse
    else if byte = code '\\' then
      let escape ← next
      if escape = code 'u' then
        let char ← readCodePoint
        readStringBytes fuel ((Text.encodeUtf8 char.toString).reverse ++ taken)
      else
        match simpleEscape? escape with
        | some meant => readStringBytes fuel (meant :: taken)
        | none => fault .malformed
    else if byte < 0x20 then fault .malformed
    else readStringBytes fuel (byte :: taken)

def readString : Reader String := do
  let bytes ← readStringBytes ((← get).length + 1) []
  match Text.decodeUtf8? bytes with
  | some decoded => return decoded
  | none => fault .malformed

/-- Passes over a string whose opening quote was taken. Its bytes need not be
UTF-8 and its surrogates need not be paired. -/
def skipString : Nat → Reader Unit
  | 0 => fault .truncated
  | fuel + 1 => do
    let byte ← next
    if byte = code '"' then return ()
    else if byte = code '\\' then
      let escape ← next
      if escape = code 'u' then
        let _ ← readHexQuad
        skipString fuel
      else if (simpleEscape? escape).isSome then skipString fuel
      else fault .malformed
    else if byte < 0x20 then fault .malformed
    else skipString fuel

/-! ## Numbers -/

def maxSignificand : Nat := UInt64.size - 1

def maxSigned : Nat := UInt64.size / 2

def maxExponent : Nat := Int32.maxValue.toInt.toNat

def absorbDigits (significand : Nat) : Bytes → Nat × Bytes
  | byte :: rest =>
    if isDigit byte && significand * 10 + digit byte ≤ maxSignificand then
      absorbDigits (significand * 10 + digit byte) rest
    else (significand, byte :: rest)
  | [] => (significand, [])

/-- Scales by a power of ten: one multiplication or division within the table of
powers, repeated divisions below it. Too large a result is refused. -/
def scaleFloat : Nat → Float → Int → Option Float
  | 0, value, _ => some value
  | fuel + 1, value, exponent =>
    if exponent.natAbs ≤ 308 then
      let power := Float.ofScientific 1 false exponent.natAbs
      if 0 ≤ exponent then
        let scaled := value * power
        if scaled.isInf then none else some scaled
      else some (value / power)
    else if value == 0 then some value
    else if 0 ≤ exponent then none
    else scaleFloat fuel (value / Float.ofScientific 1 false 308) (exponent + 308)

/-- The binary64 value of a signed significand and a decimal exponent. -/
def readScaled (positive : Bool) (significand : Nat) (exponent : Int) : Reader Number :=
  match scaleFloat 10 (UInt64.ofNat significand).toFloat exponent with
  | some value => return .float (if positive then value else -value).toBits
  | none => fault .malformed

def clampExponent (exponent : Int) : Int :=
  max Int32.minValue.toInt (min Int32.maxValue.toInt exponent)

/-- Appends digits to an exponent; `none` when it passes the greatest one. -/
def absorbExponent (exponent : Nat) : Bytes → Option Nat × Bytes
  | byte :: rest =>
    if isDigit byte then
      let larger := exponent * 10 + digit byte
      if larger ≤ maxExponent then absorbExponent larger rest
      else (none, rest.dropWhile isDigit)
    else (some exponent, byte :: rest)
  | [] => (some exponent, [])

def readExponent (positive : Bool) (significand : Nat) (start : Int) : Reader Number := do
  skip
  let sign ← peek
  if sign = some (code '+') ∨ sign = some (code '-') then skip
  let first ← next
  if !isDigit first then fault .malformed
  else
    let (exponent?, rest) := absorbExponent (digit first) (← get)
    set rest
    let negative := sign = some (code '-')
    match exponent? with
    | some exponent =>
      let exponent : Int := exponent
      let total := if negative then start - exponent else start + exponent
      readScaled positive significand (clampExponent total)
    | none =>
      if significand ≠ 0 ∧ ¬ negative then fault .malformed
      else return .float (if positive then (0.0 : Float) else -0.0).toBits

def readScale (positive : Bool) (significand : Nat) (exponent : Int) : Reader Number := do
  let mark ← peek
  if mark = some (code 'e') ∨ mark = some (code 'E') then
    readExponent positive significand exponent
  else readScaled positive significand exponent

def readFraction (positive : Bool) (significand : Nat) (exponent : Int) : Reader Number := do
  skip
  let digits ← get
  let (significand, rest) := absorbDigits significand digits
  let absorbed := digits.length - rest.length
  let exponent := exponent - absorbed
  match rest with
  | byte :: _ =>
    if isDigit byte then
      set (rest.dropWhile isDigit)
      readScale positive significand exponent
    else if absorbed = 0 then fault .malformed
    else
      set rest
      readScale positive significand exponent
  | [] =>
    if absorbed = 0 then fault .truncated
    else
      set rest
      readScale positive significand exponent

/-- A number whose sign was taken. A whole number that fits is kept exactly,
except that a negative zero or a number below the signed range is a float. -/
def readNumber (positive : Bool) : Reader Number := do
  let first ← next
  if !isDigit first then fault .malformed
  else
    let digits ← get
    if first = code '0' ∧ (digits.head?.map isDigit).getD false then fault .malformed
    else
      let (significand, rest) := absorbDigits (digit first) digits
      let dropped := rest.takeWhile isDigit
      set (rest.drop dropped.length)
      let exponent : Int := dropped.length
      let mark ← peek
      if mark = some (code '.') then readFraction positive significand exponent
      else if mark = some (code 'e') ∨ mark = some (code 'E') then
        readExponent positive significand exponent
      else if !dropped.isEmpty then readScaled positive significand exponent
      else if positive then return .integer significand
      else if significand = 0 ∨ maxSigned < significand then readScaled false significand 0
      else return .integer (-significand)

/-- Passes over the digits, fraction and exponent of a number whose sign was
taken; only its form is checked. -/
def skipNumber : Reader Unit := do
  let input ← get
  match input with
  | first :: rest =>
    if !isDigit first ∨ (first = code '0' ∧ (rest.head?.map isDigit).getD false) then
      fault .malformed
    else
      set (rest.dropWhile isDigit)
      if (← peek) = some (code '.') then
        skip
        if ((← peek).map isDigit).getD false then modify (·.dropWhile isDigit)
        else fault .malformed
      let mark ← peek
      if mark = some (code 'e') ∨ mark = some (code 'E') then
        skip
        let sign ← peek
        if sign = some (code '+') ∨ sign = some (code '-') then skip
        if ((← peek).map isDigit).getD false then modify (·.dropWhile isDigit)
        else fault .malformed
  | [] => fault .malformed

/-! ## Lists and objects -/

/-- Whether another item follows in a list; a comma must come before every item
but the first, and none before the closing bracket. -/
def hasItem (isFirst : Bool) : Reader Bool := do
  match ← peekToken with
  | none => fault .truncated
  | some byte =>
    if byte = code ']' then return false
    else if isFirst then return true
    else if byte = code ',' then
      skip
      match ← peekToken with
      | none => fault .truncated
      | some byte => if byte = code ']' then fault .malformed else return true
    else fault .malformed

/-- Whether another key follows in an object; its opening quote is left. -/
def hasKey (isFirst : Bool) : Reader Bool := do
  let keyAt : Option UInt8 → Reader Bool
    | none => fault .truncated
    | some byte => if byte = code '"' then return true else fault .malformed
  match ← peekToken with
  | none => fault .truncated
  | some byte =>
    if byte = code '\x7d' then return false
    else if isFirst then keyAt (some byte)
    else if byte = code ',' then
      skip
      keyAt (← peekToken)
    else fault .malformed

def readColon : Reader Unit := do
  match ← peekToken with
  | none => fault .truncated
  | some byte => if byte = code ':' then skip else fault .malformed

def readClose (close : Char) : Reader Unit := do
  match ← peekToken with
  | none => fault .truncated
  | some byte => if byte = code close then skip else fault .malformed

mutual

/-- Any value, with at most `depth` levels of nesting left. The fuel bounds the
tokens looked at. -/
def readValueWith : Nat → Nat → Reader Json
  | 0, _ => fault .truncated
  | fuel + 1, depth => do
    match ← peekToken with
    | none => fault .truncated
    | some byte =>
      if byte = code 'n' then skip; readWord ['u', 'l', 'l']; return .null
      else if byte = code 't' then skip; readWord ['r', 'u', 'e']; return .bool true
      else if byte = code 'f' then skip; readWord ['a', 'l', 's', 'e']; return .bool false
      else if byte = code '"' then skip; return .text (← readString)
      else if byte = code '-' then skip; return .number (← readNumber false)
      else if isDigit byte then return .number (← readNumber true)
      else if byte = code '[' then
        match depth with
        | 0 => fault .malformed
        | depth + 1 => skip; return .list (← readItemsWith fuel depth true [])
      else if byte = code '\x7b' then
        match depth with
        | 0 => fault .malformed
        | depth + 1 => skip; return ofFields (← readFieldsWith fuel depth true [])
      else fault .malformed

def readItemsWith : Nat → Nat → Bool → List Json → Reader (List Json)
  | 0, _, _, _ => fault .truncated
  | fuel + 1, depth, isFirst, taken => do
    if ← hasItem isFirst then
      let item ← readValueWith fuel depth
      readItemsWith fuel depth false (item :: taken)
    else
      skip
      return taken.reverse

def readFieldsWith : Nat → Nat → Bool → List (String × Json) → Reader (List (String × Json))
  | 0, _, _, _ => fault .truncated
  | fuel + 1, depth, isFirst, taken => do
    if ← hasKey isFirst then
      skip
      let key ← readString
      readColon
      let value ← readValueWith fuel depth
      readFieldsWith fuel depth false ((key, value) :: taken)
    else
      skip
      return taken.reverse

end

def maxDepth : Nat := 127

def readValue : Reader Json := do
  readValueWith (2 * (← get).length + 2) maxDepth

/-- Takes gaps up to the end of the text; nothing else may follow. -/
def readEnd : Reader Unit := do
  match ← peekToken with
  | none => return ()
  | some _ => fault .malformed

def readWhole {α : Type} (reader : Reader α) (input : Bytes) : Except Fault α :=
  (·.1) <$> (do let value ← reader; readEnd; return value : Reader α).run input

def parse (input : Bytes) : Except Fault Json :=
  readWhole readValue input

end AmqpClient.Json
