import AmqpClient.Text.Lowercase
import AmqpClient.Text.PrintTable

/-!
# Quoted text

Text between double quotes in which every character can be seen: the quote and
the backslash are escaped, so are the usual controls, and what does not print is
written as its code point in braces.
-/

set_option autoImplicit false

namespace AmqpClient.Text

/-- The hexadecimal digits of a number, in lower case and without padding. -/
def hexDigits (value : Nat) : List Char :=
  Nat.toDigits 16 value

def quoteChar (char : Char) : List Char :=
  if char = '\x00' then ['\\', '0']
  else if char = '\t' then ['\\', 't']
  else if char = '\r' then ['\\', 'r']
  else if char = '\n' then ['\\', 'n']
  else if char = '\\' then ['\\', '\\']
  else if char = '"' then ['\\', '"']
  else if 0x20 ≤ char.toNat && char.toNat < 0x7F then [char]
  else if inRanges graphemeExtendRanges char || inRanges unprintableRanges char then
    ['\\', 'u', '\x7b'] ++ hexDigits char.toNat ++ ['\x7d']
  else [char]

def quoted (text : String) : String :=
  String.ofList (['"'] ++ text.toList.flatMap quoteChar ++ ['"'])

end AmqpClient.Text
