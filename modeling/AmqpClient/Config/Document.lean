import AmqpClient.Config
import AmqpClient.Json.Record

/-!
# Configuration documents

A configuration as a JSON object. Missing fields keep their defaults, unknown
ones are passed over, and the three fields without a default may be `null`.
-/

set_option autoImplicit false

namespace AmqpClient.Config

open Json (Reader RecordField)

private def textField (name : String) (set : Config → String → Config) : RecordField Config :=
  { name, read := fun config => return set config (← Json.readText) }

def documentFields : List (RecordField Config) :=
  [ textField "app_name" fun config appName => { config with appName },
    textField "address" fun config address => { config with address },
    textField "vhost" fun config virtualHost => { config with virtualHost },
    { name := "user",
      read := fun config => return { config with user := ← Json.readOptional Json.readText } },
    { name := "password",
      read := fun config => return { config with password := ← Json.readOptional Json.readText } },
    textField "queue" fun config queue => { config with queue },
    textField "routing_key" fun config routingKey => { config with routingKey },
    textField "exchange" fun config exchange => { config with exchange },
    textField "exchange_type" fun config exchangeType => { config with exchangeType },
    { name := "max_priority",
      read := fun config => do
        let max ← Json.readOptional (Json.readNatural 255)
        return { config with maxPriority := max.map UInt8.ofNat } },
    textField "consumer_tag" fun config consumerTag => { config with consumerTag },
    { name := "workers",
      read := fun config => return { config with workers := ← Json.readNatural maxWorkers } },
    { name := "prefetch",
      read := fun config => do
        let prefetch ← Json.readNatural 65535
        return { config with prefetch := UInt16.ofNat prefetch } } ]

def ofDocument (text : String) : Except Json.Fault Config :=
  Json.readWhole (Json.readRecord documentFields {}) (Text.encodeUtf8 text)

end AmqpClient.Config
