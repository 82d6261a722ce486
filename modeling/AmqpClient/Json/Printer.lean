import AmqpClient.Json.Basic
import AmqpClient.Text.Hex
import AmqpClient.Text.Shortest

/-!
# JSON text

The compact written form of a document: no spaces, keys in their stored order,
characters beyond ASCII as themselves.
-/

set_option autoImplicit false

namespace AmqpClient.Json

/-- Numbers are positional with at most 16 digits before the point or 4 zeros
after it, and scientific with a signed exponent outside that. -/
def numberLayout : Text.DecimalLayout :=
  { maxWhole := 16, maxZeros := 4, exponentMark := 'e', signsExponent := true }

def Number.render : Number → String
  | .integer value => toString value
  | .float bits => Text.renderFloat numberLayout bits

/-- A character inside a JSON string. Only the quote, the backslash and the
controls below space are escaped. -/
def escapeChar (char : Char) : List Char :=
  if char = '"' then ['\\', '"']
  else if char = '\\' then ['\\', '\\']
  else if char = '\x08' then ['\\', 'b']
  else if char = '\x0c' then ['\\', 'f']
  else if char = '\n' then ['\\', 'n']
  else if char = '\r' then ['\\', 'r']
  else if char = '\t' then ['\\', 't']
  else if char.toNat < 0x20 then
    ['\\', 'u', '0', '0', Text.hexDigit (char.toNat / 16), Text.hexDigit (char.toNat % 16)]
  else [char]

def renderText (text : String) : String :=
  String.ofList (['"'] ++ text.toList.flatMap escapeChar ++ ['"'])

mutual

def render : Json → String
  | .null => "null"
  | .bool true => "true"
  | .bool false => "false"
  | .number value => value.render
  | .text value => renderText value
  | .list items => "[" ++ ",".intercalate (renderItems items) ++ "]"
  | .object fields => "\x7b" ++ ",".intercalate (renderFields fields) ++ "\x7d"

def renderItems : List Json → List String
  | [] => []
  | item :: rest => render item :: renderItems rest

def renderFields : List (String × Json) → List String
  | [] => []
  | (key, value) :: rest => (renderText key ++ ":" ++ render value) :: renderFields rest

end

end AmqpClient.Json
