import Tablecast.Settings.Basic
import Tablecast.Toml.Reader

/-!
# Reading settings

A file of settings overrides the initial ones key by key. Keys that are not known are ignored.
-/

namespace Tablecast

open Toml

def Toml.Item.text? : Item → Option String
  | .text s => some s
  | _ => none

def Toml.Item.texts? : Item → Option (List String)
  | .array items => items.mapM Item.text?
  | _ => none

namespace Settings

/-- Overrides the setting under a key; none if the item is not of its kind. -/
def override (s : Settings) (key : String) (item : Item) : Option Settings :=
  match key with
  | "model_output" => item.text?.map fun v => { s with modelOutput := v }
  | "wire_output" => item.text?.map fun v => { s with wireOutput := v }
  | "proto_package" => item.text?.map fun v => { s with protoPackage := v }
  | "service_name" => item.text?.map fun v => { s with serviceName := v }
  | "proto_module" => item.text?.map fun v => { s with protoModule := v }
  | "support_module" => item.text?.map fun v => { s with supportModule := v }
  | "shared_imports" => item.texts?.map fun v => { s with sharedImports := v }
  | _ => some s

/-- The settings that a TOML text gives; none if it is no such text. -/
def read? (text : String) : Option Settings := do
  let members ← Toml.read? text
  members.foldlM (fun s e => s.override e.1 e.2) initial

end Settings

end Tablecast
