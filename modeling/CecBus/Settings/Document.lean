import CecBus.Settings
import CecBus.Yaml.Field

/-! What a document says about the settings. They stand in one record of the document; other entries are passed
over, and a setting without a value is not given. -/

namespace CecBus.Overrides

def names : List String :=
  ["profile", "log_level", "message_interval_ms", "claim_logical_address", "messages"]

/-- Reads the record of the settings. -/
def field : Yaml.Field Overrides := fun d node => do
  let entries ← Yaml.Field.record names d node
  let profile ← Yaml.Field.member? d entries "profile" Yaml.Field.text
  let logLevel ← Yaml.Field.member? d entries "log_level" Yaml.Field.text
  let interval ← Yaml.Field.member? d entries "message_interval_ms" Yaml.Field.word
  let claims ← Yaml.Field.member? d entries "claim_logical_address" Yaml.Field.flag
  let messages ← Yaml.Field.member? d entries "messages" (Yaml.Field.items Yaml.Field.text)
  pure { profile, logLevel, interval, claims, messages }

def ofDocument (d : Yaml.Document) : Yaml.Reading Overrides := do
  let entries ← Yaml.Field.record ["emulator"] d d.node
  pure ((← Yaml.Field.member? d entries "emulator" field).getD {})

def ofText (text : String) : Yaml.Reading Overrides := do
  ofDocument (← Yaml.Document.ofTokens (← Yaml.Token.ofText text.toList))

end CecBus.Overrides
