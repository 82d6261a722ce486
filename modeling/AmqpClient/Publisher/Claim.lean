/-!
# Confirmation slots

Each session has one confirmation slot, which is held from before a message is
written until its confirmation has come or is given up. Callers who want the slot
stand in line in the order of their coming; the first of the line holds it.
-/

set_option autoImplicit false

namespace AmqpClient

/-- A caller's place in the line for the slot of a session. -/
structure Claim where
  generation : Nat
  ticket : Nat
  deriving DecidableEq, Repr, Inhabited

abbrev Claims := List Claim

namespace Claims

def holder? (claims : Claims) (generation : Nat) : Option Nat :=
  (claims.find? fun claim => claim.generation = generation).map (·.ticket)

def claim (generation ticket : Nat) (claims : Claims) : Claims :=
  claims ++ [({ generation, ticket } : Claim)]

def release (ticket : Nat) (claims : Claims) : Claims :=
  claims.filter fun claim => claim.ticket ≠ ticket

end Claims

end AmqpClient
