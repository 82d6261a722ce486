import AmqpClient.Config
import Mathlib.Data.List.Forall2

/-!
# Endpoints of configurations, and their passwords

An endpoint is the address of a configuration, as a parser reads it, with three things overridden:
the virtual host by one that is not empty, and the user name and the password each by one of its
own. Whoever does not know the password finds nothing out about it: endpoints that differ in their
passwords only look the same, also after their credentials and names are overridden alike. All of
this holds for every parser.
-/

set_option autoImplicit false

namespace AmqpClient

namespace Endpoint

/-! ## What is shown of an endpoint -/

/-- All that may be told of an endpoint. -/
structure View where
  display : String
  host : String
  port : Nat
  virtualHost : String
  username : String
  deriving DecidableEq, Repr

def view (endpoint : Endpoint) : View where
  display := endpoint.display
  host := endpoint.address.host
  port := endpoint.address.port
  virtualHost := endpoint.address.virtualHost
  username := endpoint.address.username

def withPassword (endpoint : Endpoint) (password : String) : Endpoint :=
  { endpoint with address := { endpoint.address with password } }

/-- Two endpoints are the same but for their passwords. -/
def Alike (left right : Endpoint) : Prop :=
  ∃ password, right = left.withPassword password

private theorem Alike.view_eq {left right : Endpoint} (alike : left.Alike right) :
    left.view = right.view := by
  obtain ⟨password, rfl⟩ := alike
  rfl

/-! ## Overriding -/

inductive Override where
  | credentials (username password : String)
  | connectionName (name : String)
  deriving DecidableEq, Repr

def override (endpoint : Endpoint) : Override → Endpoint
  | .credentials username password => endpoint.withCredentials username password
  | .connectionName name => endpoint.withConnectionName name

/-- Overrides an endpoint by one thing after the other. -/
def overrideAll (endpoint : Endpoint) (overrides : List Override) : Endpoint :=
  overrides.foldl override endpoint

/-- Two overrides are the same but for the password that they bring. -/
inductive Override.Alike : Override → Override → Prop where
  | credentials (username left right : String) :
      Alike (.credentials username left) (.credentials username right)
  | connectionName (name : String) : Alike (.connectionName name) (.connectionName name)

theorem Alike.override {left right : Endpoint} {first second : Override}
    (alike : left.Alike right) (overrides : first.Alike second) :
    (left.override first).Alike (right.override second) := by
  obtain ⟨password, rfl⟩ := alike
  cases overrides with
  | credentials username before after => exact ⟨after, rfl⟩
  | connectionName name => exact ⟨password, rfl⟩

private theorem Alike.overrideAll {left right : Endpoint} {firsts seconds : List Override}
    (alike : left.Alike right) (overrides : List.Forall₂ Override.Alike firsts seconds) :
    (left.overrideAll firsts).Alike (right.overrideAll seconds) := by
  induction overrides generalizing left right with
  | nil => exact alike
  | cons first _ ih => exact ih (alike.override first)

end Endpoint

namespace Config

/-! ## Endpoints of configurations -/

variable (config : Config) {address : Address}

theorem endpoint_of_unread [AddressParser]
    (unread : AddressParser.parse? config.address = none) :
    config.endpoint = .error (.invalidEndpoint config.address) := by
  rw [endpoint, Endpoint.parse, unread]
  rfl

/-- The endpoint that a configuration makes of its address. -/
def override (address : Address) : Endpoint where
  address :=
    { address with
      virtualHost := if config.virtualHost = "" then address.virtualHost else config.virtualHost
      username := config.user.getD address.username
      password := config.password.getD address.password }
  connectionName := some config.appName

private theorem ofAddress_eq (address : Address) (virtualHost : String) :
    Endpoint.ofAddress address virtualHost =
      { address :=
          { address with
            virtualHost := if virtualHost = "" then address.virtualHost else virtualHost } } := by
  unfold Endpoint.ofAddress
  split <;> rfl

theorem endpoint_of_read [AddressParser]
    (read : AddressParser.parse? config.address = some address) :
    config.endpoint = .ok (config.override address) := by
  rw [endpoint, Endpoint.parse, read]
  dsimp only
  rw [ofAddress_eq]
  cases user : config.user with
  | some user =>
      simp only [override, user]
      rfl
  | none =>
      cases password : config.password with
      | some password =>
          simp only [override, user, password]
          rfl
      | none =>
          simp only [override, user, password]
          rfl

private theorem endpoint_eq_error_iff [AddressParser] {error : ClientError} :
    config.endpoint = .error error ↔
      AddressParser.parse? config.address = none ∧ error = .invalidEndpoint config.address := by
  constructor
  · intro failed
    cases read : AddressParser.parse? config.address with
    | none =>
        rw [config.endpoint_of_unread read] at failed
        exact ⟨rfl, (Except.error.inj failed).symm⟩
    | some address =>
        rw [config.endpoint_of_read read] at failed
        cases failed
  · rintro ⟨unread, rfl⟩
    exact config.endpoint_of_unread unread

/-! ## Passwords of configurations -/

private theorem override_alike (address : Address) (left right : Option String) :
    ({ config with password := left }.override address).Alike
      ({ config with password := right }.override address) :=
  ⟨right.getD address.password, rfl⟩

/-- Whatever the passwords of two configurations are, both fail alike or their endpoints are
alike. -/
theorem endpoint_alike [AddressParser] (left right : Option String) :
    (∃ error, { config with password := left }.endpoint = .error error ∧
      { config with password := right }.endpoint = .error error) ∨
    ∃ first second, { config with password := left }.endpoint = .ok first ∧
      { config with password := right }.endpoint = .ok second ∧ first.Alike second := by
  cases read : AddressParser.parse? config.address with
  | none =>
      exact .inl ⟨_, endpoint_of_unread { config with password := left } read,
        endpoint_of_unread { config with password := right } read⟩
  | some address =>
      exact .inr ⟨_, _, endpoint_of_read { config with password := left } read,
        endpoint_of_read { config with password := right } read,
        override_alike config address left right⟩

/-- Where the parts of an endpoint come from, and what its password has to do with the others. -/
structure KeepsPassword [AddressParser] (config : Config) : Prop where
  fails : ∀ error, config.endpoint = .error error ↔
    AddressParser.parse? config.address = none ∧ error = .invalidEndpoint config.address
  draws : ∀ address, AddressParser.parse? config.address = some address →
    config.endpoint = .ok
      { address :=
          { address with
            virtualHost :=
              if config.virtualHost = "" then address.virtualHost else config.virtualHost
            username := config.user.getD address.username
            password := config.password.getD address.password }
        connectionName := some config.appName }
  /-- Two configurations that differ in the password only fail alike or look alike. -/
  hides : ∀ left right : Option String,
    { config with password := left }.endpoint.map Endpoint.view =
      { config with password := right }.endpoint.map Endpoint.view
  alike : ∀ (left right : Option String) first second,
    { config with password := left }.endpoint = .ok first →
    { config with password := right }.endpoint = .ok second → first.Alike second
  /-- Two endpoints that differ in the password only still do so, and look alike, after they were
  overridden by the same but for the passwords. -/
  keepsHidden : ∀ (left right : Endpoint) (firsts seconds : List Endpoint.Override),
    left.Alike right → List.Forall₂ Endpoint.Override.Alike firsts seconds →
    (left.overrideAll firsts).Alike (right.overrideAll seconds) ∧
      (left.overrideAll firsts).view = (right.overrideAll seconds).view

theorem keepsPassword [AddressParser] (config : Config) : KeepsPassword config where
  fails error := config.endpoint_eq_error_iff
  draws address read := config.endpoint_of_read read
  hides left right := by
    rcases config.endpoint_alike left right with
      ⟨error, failed, failed'⟩ | ⟨first, second, made, made', alike⟩
    · rw [failed, failed']
    · rw [made, made', Except.map, Except.map, alike.view_eq]
  alike left right first second made made' := by
    rcases config.endpoint_alike left right with
      ⟨error, failed, -⟩ | ⟨first', second', same, same', alike⟩
    · cases made.symm.trans failed
    · cases made.symm.trans same
      cases made'.symm.trans same'
      exact alike
  keepsHidden left right firsts seconds alike overrides := by
    have kept := alike.overrideAll overrides
    exact ⟨kept, kept.view_eq⟩

-- Only the password is given, so the user name is that of the address.
example (address : Address) :
    letI : AddressParser := ⟨fun _ => some address⟩
    { password := some "hunter2" : Config }.endpoint.map (·.address.username) =
      .ok address.username :=
  rfl

end Config

end AmqpClient
