import AmqpClient.Error
import AmqpClient.Text.Blank

/-!
# Exchange kinds

The routing behaviours an exchange can have, their wire names, and the reading
of a configured name: surrounding blanks and the case of ASCII letters do not
matter, anything else must match a wire name.
-/

set_option autoImplicit false

namespace AmqpClient

inductive ExchangeKind where
  | direct
  | fanout
  | topic
  | headers
  /-- After a delay, by an inner kind that is a declare argument. -/
  | delayed
  deriving DecidableEq, Repr, Inhabited

/-- The kind under which an exchange is declared: one of the protocol's own or a
custom one, known to the broker by name only. -/
inductive DeclaredKind where
  | direct
  | fanout
  | topic
  | headers
  | custom (name : String)
  deriving DecidableEq, Repr

namespace ExchangeKind

def wireName : ExchangeKind → String
  | .direct => "direct"
  | .fanout => "fanout"
  | .topic => "topic"
  | .headers => "headers"
  | .delayed => "x-delayed-message"

/-- Delayed exchanges are a plugin's custom kind; the others are the protocol's. -/
def declared : ExchangeKind → DeclaredKind
  | .direct => .direct
  | .fanout => .fanout
  | .topic => .topic
  | .headers => .headers
  | .delayed => .custom "x-delayed-message"

/-- The text that is compared with the wire names: without surrounding blanks
and with ASCII letters in lower case. -/
def normalize (text : String) : String :=
  String.ofList ((Text.trimChars text.toList).map Char.toLower)

def ofWireName? (name : String) : Option ExchangeKind :=
  [direct, fanout, topic, headers, delayed].find? fun kind => kind.wireName = name

def parse (text : String) : Except ClientError ExchangeKind :=
  match ofWireName? (normalize text) with
  | some kind => .ok kind
  | none =>
    .error (.invalidTopology ("unsupported exchange type `" ++ normalize text ++ "`"))

end ExchangeKind

end AmqpClient
