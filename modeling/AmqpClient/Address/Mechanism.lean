import AmqpClient.Text.Lowercase
import AmqpClient.Text.Utf8

/-!
# Authentication mechanisms

The ways in which a client can prove who it is. Each has a name, which addresses
write in any case, and a response made from the credentials.
-/

set_option autoImplicit false

namespace AmqpClient

inductive Mechanism where
  | plain
  | table
  | external
  | challenge
  deriving DecidableEq, Repr, Inhabited

namespace Mechanism

def all : List Mechanism :=
  [.plain, .table, .external, .challenge]

def name : Mechanism → String
  | .plain => "PLAIN"
  | .table => "AMQPLAIN"
  | .external => "EXTERNAL"
  | .challenge => "RABBIT-CR-DEMO"

def ofName? (text : String) : Option Mechanism :=
  all.find? fun mechanism => Text.lowercase mechanism.name = Text.lowercase text

def lengthBytes (length : Nat) : Bytes :=
  [24, 16, 8, 0].map fun shift => UInt8.ofNat (length >>> shift)

def tableEntry (key value : String) : Bytes :=
  let name := Text.encodeUtf8 key
  let text := Text.encodeUtf8 value
  UInt8.ofNat name.length :: name ++ Text.encodeUtf8 "S" ++ lengthBytes text.length ++ text

def response (username password : String) : Mechanism → Bytes
  | .plain => 0 :: Text.encodeUtf8 username ++ 0 :: Text.encodeUtf8 password
  | .table => tableEntry "LOGIN" username ++ tableEntry "PASSWORD" password
  | .external => []
  | .challenge => Text.encodeUtf8 username

end Mechanism

end AmqpClient
