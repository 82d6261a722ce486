import AmqpClient.Json.Reader

/-!
# Reading values of a wanted form

Readers for texts, bounded numbers, lists, maps and records. A value of another
form is a mismatch, unless taking that value off shows an earlier fault. A record
is read from an object, whose unknown keys are passed over and whose known keys
may occur once, or from a list of its fields in order.
-/

set_option autoImplicit false

namespace AmqpClient.Json

/-- Reports the value at the front as a mismatch. Words, numbers and strings are
taken first and report their own faults; containers are not entered. -/
def mismatch {α : Type} : Reader α := do
  match ← peekToken with
  | none => fault .truncated
  | some byte =>
    if byte = code 'n' then skip; readWord ['u', 'l', 'l']; fault .mismatched
    else if byte = code 't' then skip; readWord ['r', 'u', 'e']; fault .mismatched
    else if byte = code 'f' then skip; readWord ['a', 'l', 's', 'e']; fault .mismatched
    else if byte = code '"' then skip; let _ ← readString; fault .mismatched
    else if byte = code '-' then skip; let _ ← readNumber false; fault .mismatched
    else if isDigit byte then let _ ← readNumber true; fault .mismatched
    else if byte = code '[' ∨ byte = code '\x7b' then fault .mismatched
    else fault .malformed

def readText : Reader String := do
  if (← peekToken) = some (code '"') then skip; readString else mismatch

def readInteger (low high : Int) : Reader Int := do
  let byte? ← peekToken
  let number ←
    if byte? = some (code '-') then skip; readNumber false
    else if (byte?.map isDigit).getD false then readNumber true
    else mismatch
  match number with
  | .integer value => if low ≤ value ∧ value ≤ high then return value else fault .mismatched
  | .float _ => fault .mismatched

def readNatural (limit : Nat) : Reader Nat :=
  Int.toNat <$> readInteger 0 limit

def readBool : Reader Bool := do
  let byte? ← peekToken
  if byte? = some (code 't') then skip; readWord ['r', 'u', 'e']; return true
  else if byte? = some (code 'f') then skip; readWord ['a', 'l', 's', 'e']; return false
  else mismatch

def readOptional {α : Type} (reader : Reader α) : Reader (Option α) := do
  if (← peekToken) = some (code 'n') then skip; readWord ['u', 'l', 'l']; return none
  else return some (← reader)

def readItemsOf {α : Type} (reader : Reader α) : Nat → Bool → List α → Reader (List α)
  | 0, _, _ => fault .truncated
  | fuel + 1, isFirst, taken => do
    if ← hasItem isFirst then
      let item ← reader
      readItemsOf reader fuel false (item :: taken)
    else
      skip
      return taken.reverse

def readListOf {α : Type} (reader : Reader α) : Reader (List α) := do
  if (← peekToken) = some (code '[') then
    skip
    readItemsOf reader ((← get).length + 1) true []
  else mismatch

/-- The fields of an object up to its closing brace, sorted by key. -/
def readFieldsOf {α : Type} (reader : Reader α) :
    Nat → Bool → Keyed α → Reader (Keyed α)
  | 0, _, _ => fault .truncated
  | fuel + 1, isFirst, taken => do
    if ← hasKey isFirst then
      skip
      let key ← readString
      readColon
      let value ← reader
      readFieldsOf reader fuel false (Keyed.insert key value taken)
    else
      skip
      return taken

/-- An object whose values all have the wanted form; the last value of a key stands. -/
def readMapOf {α : Type} (reader : Reader α) : Reader (Keyed α) := do
  if (← peekToken) = some (code '\x7b') then
    skip
    readFieldsOf reader ((← get).length + 1) true []
  else mismatch

/-! ## Passing over a value -/

/-- Where a pass over nested containers stands. -/
inductive PassPoint where
  | value
  /-- Inside the innermost container, before its first item. -/
  | opened
  /-- Inside the innermost container, after an item. -/
  | item

/-- Passes over one value, given the open containers, innermost first. Nesting is
not limited. -/
def skipValueWith : Nat → PassPoint → List Char → Reader Unit
  | 0, _, _ => fault .truncated
  | fuel + 1, .value, open_ => do
    let ended (open_ : List Char) : Reader Unit :=
      if open_.isEmpty then return () else skipValueWith fuel .item open_
    match ← peekToken with
    | none => fault .truncated
    | some byte =>
      if byte = code 'n' then skip; readWord ['u', 'l', 'l']; ended open_
      else if byte = code 't' then skip; readWord ['r', 'u', 'e']; ended open_
      else if byte = code 'f' then skip; readWord ['a', 'l', 's', 'e']; ended open_
      else if byte = code '-' then skip; skipNumber; ended open_
      else if isDigit byte then skipNumber; ended open_
      else if byte = code '"' then skip; skipString ((← get).length + 1); ended open_
      else if byte = code '[' then skip; skipValueWith fuel .opened ('[' :: open_)
      else if byte = code '\x7b' then skip; skipValueWith fuel .opened ('\x7b' :: open_)
      else fault .malformed
  | _ + 1, _, [] => return ()
  | fuel + 1, point, container :: open_ => do
    let isList := container = '['
    let afterItem : Bool := match point with | .item => true | _ => false
    let enter : Reader Unit := do
      if !isList then
        match ← peekToken with
        | none => fault .truncated
        | some byte =>
          if byte = code '"' then skip; skipString ((← get).length + 1); readColon
          else fault .malformed
      skipValueWith fuel .value (container :: open_)
    match ← peekToken with
    | none => fault .truncated
    | some byte =>
      if afterItem ∧ byte = code ',' then skip; enter
      else if byte = code (if isList then ']' else '\x7d') then
        skip
        if open_.isEmpty then return () else skipValueWith fuel .item open_
      else if afterItem then fault .malformed
      else enter

def skipValue : Reader Unit := do
  skipValueWith (2 * (← get).length + 2) .value []

/-! ## Records -/

/-- One field of a record under construction. -/
structure RecordField (σ : Type) where
  name : String
  read : σ → Reader σ

def readPositional {σ : Type} (isFirst : Bool) (record : σ) :
    List (RecordField σ) → Reader σ
  | [] => return record
  | field :: rest => do
    if ← hasItem isFirst then
      let record ← field.read record
      readPositional false record rest
    else return record

/-- Fields by key up to the closing brace, given the names seen so far. -/
def readKeyed {σ : Type} (fields : List (RecordField σ)) :
    Nat → Bool → List String → σ → Reader σ
  | 0, _, _, _ => fault .truncated
  | fuel + 1, isFirst, seen, record => do
    if ← hasKey isFirst then
      skip
      let key ← readString
      match fields.find? (·.name = key) with
      | some field =>
        if seen.contains key then fault .mismatched
        else
          readColon
          let record ← field.read record
          readKeyed fields fuel false (key :: seen) record
      | none =>
        readColon
        skipValue
        readKeyed fields fuel false seen record
    else
      skip
      return record

def readRecord {σ : Type} (fields : List (RecordField σ)) (defaults : σ) : Reader σ := do
  let byte? ← peekToken
  if byte? = some (code '[') then
    skip
    let record ← readPositional true defaults fields
    readClose ']'
    return record
  else if byte? = some (code '\x7b') then
    skip
    readKeyed fields ((← get).length + 1) true [] defaults
  else mismatch

end AmqpClient.Json
