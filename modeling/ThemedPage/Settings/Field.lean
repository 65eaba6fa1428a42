/-!
# The Fields of Settings

Settings have five fields, each with the word it is written under. Three of them hold the
names of attributes.
-/

namespace ThemedPage

/-- A **field** of settings. -/
inductive Field where
  /-- The root attribute that holds the theme. -/
  | themeAttribute
  /-- The image attribute that keeps the template. -/
  | templateAttribute
  /-- The image attribute that shows the image. -/
  | sourceAttribute
  /-- How the theme is found in its attribute. -/
  | matching
  /-- Further themes and their modes. -/
  | themes
  deriving DecidableEq

namespace Field

/-- The word a field is written under. -/
def word : Field → String
  | themeAttribute => "theme_attribute"
  | templateAttribute => "template_attribute"
  | sourceAttribute => "source_attribute"
  | matching => "token_match"
  | themes => "themes"

/-- All fields, in the order in which messages list them. -/
def all : List Field := [themeAttribute, templateAttribute, sourceAttribute, matching, themes]

/-- The field written under a word. -/
def ofWord? (s : String) : Option Field := all.find? (·.word = s)

end Field

end ThemedPage
