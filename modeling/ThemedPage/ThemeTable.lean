import ThemedPage.Dict
import ThemedPage.SetupError
import ThemedPage.Text.Blank
import ThemedPage.Text.Upper

/-!
# Theme Tables

A theme table says which mode a theme belongs to. It answers for every name: one that it
does not list, the empty name included, belongs to the fallback mode. Rows can only be
added; a theme that is listed can be added again with its mode but never with the other.
-/

namespace ThemedPage

/-- A **theme table**: names of themes and their modes. -/
structure ThemeTable where
  /-- The rows, in order of name. -/
  rows : Dict Mode
  deriving DecidableEq

namespace ThemeTable

/-- The table without rows. -/
def empty : ThemeTable := ⟨Dict.empty⟩

/-- The rows that need not be added: five themes of the usual book style and four of the
pastel family. -/
def commonRows : List (String × Mode) :=
  [("light", .light), ("rust", .light), ("coal", .dark), ("navy", .dark), ("ayu", .dark),
   ("latte", .light), ("frappe", .dark), ("macchiato", .dark), ("mocha", .dark)]

/-- The table of the common themes. -/
def common : ThemeTable := ⟨Dict.ofList commonRows⟩

/-- The mode a theme is listed with; names are compared exactly. -/
def get? (t : ThemeTable) (theme : String) : Option Mode := t.rows.get? theme

/-- Whether a theme is listed. -/
def contains (t : ThemeTable) (theme : String) : Bool := t.rows.contains theme

/-- The mode of any name. -/
def resolve (t : ThemeTable) (theme : String) : Mode := (t.get? theme).getD Mode.fallback

/-- The number of themes listed. -/
def size (t : ThemeTable) : Nat := t.rows.size

/-- A **theme name** is not empty and holds neither blanks nor upper-case characters. -/
def isThemeName (name : String) : Bool :=
  !name.toList.isEmpty && name.toList.all fun c => !Text.isBlank c && !Text.isUpper c

/-- Adds a theme, unless its name is no theme name or it is listed with the other mode. -/
def add (t : ThemeTable) (name : String) (mode : Mode) : Except SetupError ThemeTable :=
  if isThemeName name then
    match t.get? name with
    | none => .ok ⟨t.rows.insert name mode⟩
    | some present => if present = mode then .ok t else .error (.otherMode name present mode)
  else .error (.themeName name)

/-- Adds themes one after the other, up to the first that is refused. -/
def addAll (t : ThemeTable) (rows : List (String × Mode)) : Except SetupError ThemeTable :=
  rows.foldlM (fun t row => t.add row.1 row.2) t

end ThemeTable

end ThemedPage
