import MacAgent.Config.Basic
import MacAgent.Yaml.Document

/-! # Configurations as YAML

A configuration file is a flat document whose fields are settings. No field may occur twice or be
unknown. A setting that is left out, and a document without content, stand for the defaults. -/

namespace MacAgent

namespace Config

/-- Settings, and the names of those that have been given. -/
structure Partial where
  config : Config := {}
  given : List String := []

/-- A truth value, which has to be written without quotes. -/
def boolOfScalar? (value : Yaml.Scanned) : Option Bool :=
  if !value.plain then none
  else if value.text ∈ ["true", "True", "TRUE"] then some true
  else if value.text ∈ ["false", "False", "FALSE"] then some false
  else none

/-- Puts one field into its place. -/
def set? (c : Config) (name : String) (value : Yaml.Scanned) : Option Config :=
  match name with
  | "tracer_name" => some { c with tracerName := value.text }
  | "cursor_bridge" => return { c with bridge := ← Bridge.ofName? value.text }
  | "watch_all_mac_entries" => return { c with watchAll := ← boolOfScalar? value }
  | _ => none

def ofDocument? : Yaml.Document → Option Config
  | .empty => some {}
  | .mapping fields => do
    let result ← fields.foldlM (fun (p : Partial) (key, value) =>
      if key.text ∈ p.given then none
      else return { config := ← set? p.config key.text value, given := key.text :: p.given }) {}
    return result.config

/-- Reads a configuration and checks its values. -/
def ofYaml (text : String) : Except ConfigError Config :=
  if (Text.trim text.toList).isEmpty then .ok {}
  else
    match (Yaml.Document.parse? text).bind ofDocument? with
    | some c => do
      c.validate
      return c
    | none => .error .document

def load (path : String) (content : FileContent) : Except ConfigError Config := do
  let text ← content.text.mapError (.unreadable path)
  ofYaml text

end Config

end MacAgent
