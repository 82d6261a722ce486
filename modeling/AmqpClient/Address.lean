import AmqpClient.Address.Mechanism

/-!
# Broker addresses

A host, a port, a virtual host and credentials. How they are read from the text of an address is
left to whoever runs the client.
-/

set_option autoImplicit false

namespace AmqpClient

structure Address where
  secure : Bool
  host : String
  port : Nat
  virtualHost : String
  username : String
  password : String
  mechanism : Mechanism := .plain
  deriving DecidableEq, Repr, Inhabited

/-- A reader of address texts. Nothing is relied on but that it is a function. -/
class AddressParser where
  parse? : String → Option Address

end AmqpClient
