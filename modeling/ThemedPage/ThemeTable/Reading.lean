import ThemedPage.Mode.Reading
import ThemedPage.ThemeTable

/-!
# Reading Rows of a Theme Table

Rows can be written as a YAML mapping from names to modes. A blank text has no rows. The
mapping is read as a dictionary before any of its rows is added, so rows are added in order
of name, and of several rows with one name only the last is.
-/

namespace ThemedPage

/-- Reads the rows of a theme table from a node. -/
def ThemeTable.readRows (d : Yaml.Document) (path : Yaml.Path) :
    Yaml.Node → Yaml.Reading (Dict Mode) :=
  Yaml.Reading.dict d path (Mode.reading d)

namespace ThemeTable

/-- Adds the rows of a YAML text. -/
def addYaml (t : ThemeTable) (text : String) : Except SetupError ThemeTable :=
  if Text.allBlank text then .ok t
  else
    match Yaml.readText text (pure Dict.empty) fun d => readRows d [] with
    | .ok rows => t.addAll rows.entries
    | .error e => .error (.unreadable e)

/-- The table of the common themes and the rows of a YAML text. -/
def ofYaml (text : String) : Except SetupError ThemeTable := common.addYaml text

end ThemeTable

end ThemedPage
