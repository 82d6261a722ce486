import AmqpClient.Address
import AmqpClient.Error

/-!
# Endpoints

Where a client connects and as whom. An endpoint starts from an address; the
virtual host, the credentials and the name of the connection can be overridden.
Its display text never depends on the password.
-/

set_option autoImplicit false

namespace AmqpClient

/-- Broker, virtual host and credentials of a client. -/
structure Endpoint where
  address : Address
  connectionName : Option String := none
  deriving DecidableEq, Repr, Inhabited

namespace Endpoint

/-- The endpoint of an address. A virtual host that is not empty replaces the
address's own. -/
def ofAddress (address : Address) (virtualHost : String) : Endpoint :=
  { address := if virtualHost = "" then address else { address with virtualHost } }

def parse [AddressParser] (text virtualHost : String) : Except ClientError Endpoint :=
  match AddressParser.parse? text with
  | some address => .ok (ofAddress address virtualHost)
  | none => .error (.invalidEndpoint text)

def withCredentials (endpoint : Endpoint) (username password : String) : Endpoint :=
  { endpoint with address := { endpoint.address with username, password } }

def withConnectionName (endpoint : Endpoint) (name : String) : Endpoint :=
  { endpoint with connectionName := some name }

/-- The text shown in logs: user, host, port and virtual host. -/
def display (endpoint : Endpoint) : String :=
  endpoint.address.username ++ "@" ++ endpoint.address.host ++ ":" ++
    toString endpoint.address.port ++ "/" ++ endpoint.address.virtualHost

end Endpoint

end AmqpClient
