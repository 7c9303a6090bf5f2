import RichChat.Config.Codec
import RichChat.Toml.Reader

/-!
# Configuration files

A configuration is a TOML document. Settings that it does not have keep their defaults, and keys
that name no setting are ignored. What has been read has to keep the rules.
-/

namespace RichChat.Config

/-- The configuration in a text. -/
def ofToml (text : String) : Except ConfigError Config :=
  match Toml.parse? text with
  | none => .error .malformed
  | some entries =>
    match ofJson (Toml.Value.table .header entries).toJson with
    | .error _ => .error .malformed
    | .ok config => config.validate.map fun _ => config

/-- The configuration in a file, whose content is missing if it cannot be read. -/
def load (content : Option String) : Except ConfigError Config :=
  match content with
  | some text => ofToml text
  | none => .error .unreadable

/-- The configuration in a file, or the default one if there is no such file. -/
def loadOrDefault (content : Option String) : Except ConfigError Config :=
  match content with
  | some text => ofToml text
  | none => .ok {}

end RichChat.Config
