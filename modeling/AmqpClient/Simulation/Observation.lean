import AmqpClient.Consumer.Pool
import AmqpClient.Trace

/-!
# Observed trace contexts

A simulation has its own way of carrying a trace context: it writes the given
entries, and reads back every header a message has, together with two names that
it looks up by themselves.
-/

set_option autoImplicit false

namespace AmqpClient.Simulation

/-- A context found in headers: every name, with its text if it has one. -/
abbrev Context := Keyed (Option String)

def probedKeys : List String := ["traceparent", "TRACEPARENT"]

/-- Reads the context of a message: each name that is listed, and each probed
name, marked by a question mark, if it has a text. -/
def extract (headers : FieldTable) : Context :=
  let listed := (Trace.keys headers).map fun key => (key, Trace.get? headers key)
  let probed := probedKeys.filterMap fun key =>
    (Trace.get? headers key).map fun text => ("?" ++ key, some text)
  Keyed.ofList (listed ++ probed)

def extractNotices (headers : FieldTable) : List Notice :=
  (Trace.keys headers ++ probedKeys).flatMap (Trace.lookupNotices headers)

end AmqpClient.Simulation
