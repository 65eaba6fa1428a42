import ThemedPage.SetupError
import ThemedPage.Yaml.Reading

/-!
# Reading Modes

A mode is read from its bare word, or from a YAML node that chooses between the two words.
-/

namespace ThemedPage.Mode

/-- The mode of a bare word. -/
def ofWord (s : String) : Except SetupError Mode :=
  match ofWord? s with
  | some m => .ok m
  | none => .error (.unknownMode s)

/-- The words that a node can choose from. -/
def choices : List (String × Mode) := all.map fun m => (m.word, m)

/-- Reads a mode from a node. -/
def reading (d : Yaml.Document) (path : Yaml.Path) : Yaml.Node → Yaml.Reading Mode :=
  Yaml.Reading.choice d path choices

/-- The mode that a YAML text consists of. -/
def ofYaml (text : String) : Except Yaml.Error Mode :=
  Yaml.readText text (Yaml.Reading.fail .missing) fun d => reading d []

end ThemedPage.Mode
