import AmqpClient.Text.Percent

/-!
# Hosts of addresses

A host is a bracketed IPv6 literal or an opaque name. Opaque names are neither
lower-cased nor mapped; they only must not hold a separator.
-/

set_option autoImplicit false

namespace AmqpClient.Address

/-- The longest run of at most four hexadecimal digits, and what follows it. -/
def takeHexQuad (chars : List Char) : List Char × List Char :=
  let digits := (chars.take 4).takeWhile fun char => (Text.hexValue? char).isSome
  (digits, chars.drop digits.length)

/-- The value of one dotted-decimal part: at most 255 and without a leading zero. -/
def isOctet (digits : List Char) : Bool :=
  match digits with
  | [] => false
  | ['0'] => true
  | '0' :: _ => false
  | digits =>
    digits.length ≤ 3 &&
      digits.foldl (fun value char => value * 10 + (char.toNat - '0'.toNat)) 0 ≤ 255

def isDottedQuad : Nat → List Char → Bool
  | 0, _ => false
  | count + 1, chars =>
    let digits := chars.takeWhile Char.isDigit
    let rest := chars.drop digits.length
    isOctet digits &&
      match count, rest with
      | 0, [] => true
      | count + 1, '.' :: rest => isDottedQuad (count + 1) rest
      | _, _ => false

/-- The rest of an IPv6 literal, given how many of the eight 16-bit pieces came
before it and whether a double colon did. -/
def isIpv6Rest : Nat → Nat → Bool → List Char → Bool
  | 0, _, _, _ => false
  | _ + 1, pieces, compressed, [] => compressed || pieces == 8
  | fuel + 1, pieces, compressed, char :: rest =>
    if pieces = 8 then false
    else if char = ':' then !compressed && isIpv6Rest fuel (pieces + 1) true rest
    else
      let (digits, after) := takeHexQuad (char :: rest)
      match after with
      | [] => isIpv6Rest fuel (pieces + 1) compressed []
      | '.' :: _ =>
        !digits.isEmpty && pieces ≤ 6 && isDottedQuad 4 (char :: rest) &&
          (compressed || pieces == 6)
      | ':' :: after => !after.isEmpty && isIpv6Rest fuel (pieces + 1) compressed after
      | _ => false

def isIpv6 (chars : List Char) : Bool :=
  match chars with
  | ':' :: ':' :: rest => isIpv6Rest (chars.length + 1) 1 true rest
  | ':' :: _ => false
  | [_] => false
  | _ => isIpv6Rest (chars.length + 1) 0 false chars

def isForbiddenInHost (char : Char) : Bool :=
  ['\x00', '\t', '\n', '\r', ' ', '#', '/', ':', '<', '>', '?', '@', '[', '\\', ']', '^', '|'].contains
    char

inductive Host where
  | absent
  | name (encoded : List Char)
  | ipv6

def Host.parse? (chars : List Char) : Option Host :=
  match chars with
  | [] => some .absent
  | '[' :: rest =>
    if rest.getLast? = some ']' && isIpv6 rest.dropLast then some .ipv6 else none
  | chars => if chars.any isForbiddenInHost then none else some (.name chars)

/-- Splits the host off an authority: it ends at the first colon outside brackets
or where the path, the query or the fragment begins. -/
def splitHost : Bool → List Char → List Char × List Char
  | _, [] => ([], [])
  | bracketed, char :: rest =>
    if (char = ':' && !bracketed) || char = '/' || char = '?' || char = '#' then ([], char :: rest)
    else
      let bracketed := if char = '[' then true else if char = ']' then false else bracketed
      let (host, rest) := splitHost bracketed rest
      (char :: host, rest)

end AmqpClient.Address
