/-
This file reads settings from YAML documents and from the contents of files. A
document is read first and checked afterwards, so whatever is returned has passed the
check.
-/

import PanelLink.Fault
import PanelLink.Journal
import PanelLink.Settings.Check
import PanelLink.Settings.Form
import PanelLink.Yaml.Grammar

namespace PanelLink

instance : Data.View Yaml.Document where
  natural? := Yaml.Document.natural?
  boolean? := Yaml.Document.boolean?
  word? := Yaml.Document.name?
  fields? := fun _ document => document.fields?

namespace Settings

/-- The settings of a document. -/
def ofYaml (text : String) : Except Problem Settings :=
  match (Yaml.parse text).bind read? with
  | some settings => do
    settings.check
    return settings
  | none => .error .unreadable

/-- What a file holds, or why it cannot be read. -/
abbrev Contents := Except IoFailure (List UInt8)

/-- The text of a file. -/
def textOf (contents : Contents) : Except IoFailure String := do
  let bytes ← contents
  match String.fromUTF8? (ByteArray.mk bytes.toArray) with
  | some text => return text
  | none => .error ⟨.invalidData, "stream did not contain valid UTF-8"⟩

/-- The settings of a file; a problem with them becomes a fault. -/
def load (path : String) (contents : Contents) : Except Fault Settings :=
  match textOf contents with
  | .error failure => .error (.file path failure)
  | .ok text => (ofYaml text).mapError fun problem => .settings problem.words

/-- The lines for loading a file. -/
def loadEntries (path : String) (contents : Contents) : List Journal.Entry :=
  match textOf contents with
  | .error _ => []
  | .ok text =>
    [⟨.debug, "Loaded config from " ++ path ++ " (" ++ Radix.decimal text.utf8ByteSize ++
      " bytes)"⟩]

end Settings

end PanelLink
