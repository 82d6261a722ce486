import AmqpClient.Field
import AmqpClient.Notice
import AmqpClient.Text.Lowercase

/-!
# Trace context in message headers

A trace context travels in the headers of a message: each of its entries is a
long string under a lower-case name. Reading looks a name up exactly as it is
given; values that are not text count as absent.
-/

set_option autoImplicit false

namespace AmqpClient.Trace

/-- Writes one entry, replacing whatever the lower-case name held. -/
def set (key value : String) (headers : FieldTable) : FieldTable :=
  Keyed.insert (Text.lowercase key) (.longString (Text.encodeUtf8 value)) headers

def inject (entries : List (String × String)) (headers : FieldTable) : FieldTable :=
  entries.foldl (fun headers entry => set entry.1 entry.2 headers) headers

def text? : FieldValue → Option String
  | .longString bytes => Text.decodeUtf8? bytes
  | .shortString text => some text
  | _ => none

def get? (headers : FieldTable) (key : String) : Option String :=
  (Keyed.get? headers key).bind text?

/-- What a look-up reports: a long string that is not UTF-8 is worth a warning. -/
def lookupNotices (headers : FieldTable) (key : String) : List Notice :=
  match Keyed.get? headers key with
  | some (.longString bytes) =>
    match Text.utf8Fault? bytes with
    | some fault =>
      [{ level := .warning, source := .trace, message := "undecodable trace header",
         error := some fault.message }]
    | none => []
  | _ => []

def keys (headers : FieldTable) : List String :=
  Keyed.keys headers

end AmqpClient.Trace
