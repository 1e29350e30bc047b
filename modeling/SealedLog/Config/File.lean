import SealedLog.Act
import SealedLog.Config.Json
import SealedLog.Config.Yaml

/-!
# Configuration files

The extension of a file says how it is written: JSON if it is `json` in any case, otherwise YAML.

- `Config.load`: the configuration in a file, if it can be used.
-/

namespace SealedLog.Config

/-- Whether a path names a JSON file. -/
def isJson (path : Path) : Bool :=
  path.extension.any fun extension => extension.map Char.toLower == "json".toList

/-- The configuration in a text from a file. -/
def ofText? (path : Path) (text : String) : Option Config :=
  if isJson path then (Json.read (utf8 text)).bind ofJson? else ofYaml? text

/-- The configuration in the content of a file, if it can be used. -/
def ofContent (path : Path) (content : Bytes) : Except ConfigError Config :=
  match ofUtf8? content with
  | none => .error (.unreadable path .notText)
  | some text =>
    match ofText? path text with
    | none => .error .malformed
    | some config => config.validate.map fun _ => config

/-- The configuration in a file, if it can be used. -/
def load (path : Path) : Scene (Except ConfigError Config) := do
  match ← Scene.onFiles (Files.readAll path) with
  | .error error => return .error (.unreadable path error)
  | .ok content => return ofContent path content

end SealedLog.Config
