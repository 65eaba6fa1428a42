import ThemedPage.ThemeTable

/-!
# Settings

Settings name the attributes involved, say how the theme is found in its attribute, and
list themes beyond the common ones. Each has a default, so that no settings at all are
settings too.

Settings are **usable** if no attribute name is blank, templates have an attribute of their
own — in a shared one, the first source shown would take the placeholder away — and the themes
listed can be added to the common ones.
-/

namespace ThemedPage

/-- How the theme is found in the value of its attribute. -/
inductive Matching where
  /-- The value is the theme. -/
  | whole
  /-- The theme is the first word of the value that the table lists. -/
  | classList
  deriving DecidableEq

namespace Matching

/-- The word that stands for a way of matching in settings. -/
def word : Matching → String
  | whole => "whole"
  | classList => "class_list"

/-- Both ways, in the order in which messages list them. -/
def all : List Matching := [whole, classList]

/-- The **theme token** in a value; a list of words without a theme has the empty token. -/
def token (how : Matching) (value : String) (table : ThemeTable) : String :=
  match how with
  | whole => value
  | classList =>
    let words := (Text.words value.toList).map String.ofList
    (words.find? table.contains).getD ""

end Matching

/-- **Settings** for keeping images in step with the theme. -/
structure Settings where
  /-- The root attribute that holds the theme. -/
  themeAttribute : String := "class"
  /-- The image attribute that keeps the template. -/
  templateAttribute : String := "data-rsrc"
  /-- The image attribute that shows the image. -/
  sourceAttribute : String := "src"
  /-- How the theme is found in its attribute. -/
  matching : Matching := .whole
  /-- Themes beyond the common ones. -/
  themes : Dict Mode := Dict.empty
  deriving DecidableEq

namespace Settings

/-- The settings in which every field has its default. -/
def standard : Settings := {}

instance : Inhabited Settings := ⟨standard⟩

/-- The attribute names and their fields, in the order in which they are checked. -/
def names (s : Settings) : List (Field × String) :=
  [(.themeAttribute, s.themeAttribute), (.templateAttribute, s.templateAttribute),
   (.sourceAttribute, s.sourceAttribute)]

/-- Checks the attribute names. -/
def checkNames (s : Settings) : Except SetupError Unit :=
  match s.names.find? fun (_, name) => Text.allBlank name with
  | some (field, _) => .error (.blankName field)
  | none =>
    if s.templateAttribute = s.sourceAttribute then .error (.sharedName s.templateAttribute)
    else .ok ()

/-- The table of the common themes and those of the settings. -/
def table (s : Settings) : Except SetupError ThemeTable :=
  ThemeTable.common.addAll s.themes.entries

end Settings

end ThemedPage
