import AmqpClient.Message
import AmqpClient.Supervisor.Basic
import AmqpClient.Text.Quoted

/-!
# Texts for logs

How a delivery and a session look in a log: their name, then their fields in
braces. A delivery shows the length of its data, never the data.
-/

set_option autoImplicit false

namespace AmqpClient

def displayRecord (name : String) (fields : List (String × String)) : String :=
  name ++ " \x7b " ++ ", ".intercalate (fields.map fun field => field.1 ++ ": " ++ field.2) ++
    " \x7d"

def displayBool (value : Bool) : String :=
  if value then "true" else "false"

def Delivery.display (delivery : Delivery) : String :=
  displayRecord "Delivery"
    [("delivery_tag", toString delivery.tag),
     ("exchange", Text.quoted delivery.exchange),
     ("routing_key", Text.quoted delivery.routingKey),
     ("redelivered", displayBool delivery.redelivered),
     ("priority",
       match delivery.priority with
       | some priority => "Some(" ++ toString priority.toNat ++ ")"
       | none => "None"),
     ("msg_type", Text.quoted delivery.kind),
     ("len", toString delivery.data.length)]

def Session.display (isReady : Bool) (session : Session) : String :=
  displayRecord "Session"
    [("generation", toString session.generation), ("ready", displayBool isReady)]

end AmqpClient
