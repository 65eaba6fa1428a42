import ThemedPage.Settings
import ThemedPage.ThemeTable.Reading

/-!
# Reading Settings

Settings are written as a YAML mapping from the words of fields to their values. Fields
that are left out have their defaults, a blank text leaves out all, and no field may be
given twice or under another word. Settings that have been read are checked for use before
they are handed out.
-/

namespace ThemedPage.Settings

open Yaml (Document Path Node Reading)

/-- Reads the word of a field. -/
def readField (d : Document) (path : Path) : Node → Reading Field :=
  Reading.scalar d path "field identifier" fun word =>
    match Field.ofWord? word with
    | some field => pure field
    | none => Reading.fail (.unknownField word (Field.all.map (·.word)))

/-- Reads the value of a field into settings. -/
def readValue (d : Document) (path : Path) (s : Settings) (n : Node) : Field → Reading Settings
  | .themeAttribute => do
    return { s with themeAttribute := ← Reading.text d path n }
  | .templateAttribute => do
    return { s with templateAttribute := ← Reading.text d path n }
  | .sourceAttribute => do
    return { s with sourceAttribute := ← Reading.text d path n }
  | .matching => do
    let choices := Matching.all.map fun how => (how.word, how)
    return { s with matching := ← Reading.choice d path choices n }
  | .themes => do
    return { s with themes := ← ThemeTable.readRows d path n }

/-- Reads fields and their values into settings; `given` are the fields that have been. -/
def readFields (d : Document) (path : Path) (given : List Field) (s : Settings) :
    List (Node × Node) → Reading Settings
  | [] => pure s
  | (k, v) :: entries => do
    let field ← readField d path k
    if field ∈ given then Reading.fail (.duplicateField field.word)
    else
      let s ← readValue d (Reading.valuePath path k) s v field
      readFields d path (field :: given) s entries

/-- Reads settings from the root of a document. -/
def reading (d : Document) : Node → Reading Settings :=
  Reading.mapping d [] "struct SyncConfig" (readFields d [] [] standard)

/-- The settings of a YAML text, checked for use. -/
def ofYaml (text : String) : Except SetupError Settings :=
  if Text.allBlank text then .ok standard
  else
    match Yaml.readText text (pure standard) reading with
    | .error e => .error (.unreadable e)
    | .ok s => do
      s.checkNames
      discard s.table
      return s

end ThemedPage.Settings
