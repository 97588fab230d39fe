import Confine.Bytes
import Confine.Data.Typed
import Confine.Json.Parser
import Confine.Json.Printer
import Confine.Text.Quoted
import Confine.Toml.Document

/-!
Configurations from TOML text and from files.
-/

namespace Confine

/-- Why a configuration cannot be loaded. -/
inductive ConfigError where
  | unreadable (path : String)
  | malformed
deriving DecidableEq

namespace ConfigError

def message : ConfigError → String
  | unreadable path => "Failed to read sandbox configuration " ++ Text.quoted path
  | malformed => "Failed to parse sandbox configuration"

end ConfigError

namespace Config

/-- The configuration that a TOML text gives. -/
def ofToml (text : String) : Except ConfigError Config :=
  match (Toml.read? text).bind (Config.ofData Toml.format) with
  | some c => .ok c
  | none => .error .malformed

/-- The configuration in a file with the given content, if it has any that is text. -/
def load (path : String) (content : Option Bytes) : Except ConfigError Config :=
  match content.bind Bytes.toText? with
  | some text => ofToml text
  | none => .error (.unreadable path)

end Config

end Confine
