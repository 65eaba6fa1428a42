import ThemedPage.Mode
import ThemedPage.Settings.Field
import ThemedPage.Yaml.Error

/-!
# Why a Setup is Refused

Keeping images in step with the theme cannot fail; setting it up can. A `SetupError` names
the cause, and `SetupError.message?` words it.
-/

namespace ThemedPage

/-- The **cause** for which a theme table or settings were refused. -/
inductive SetupError where
  /-- The YAML text could not be read. -/
  | unreadable (error : Yaml.Error)
  /-- A theme's name is empty or holds a blank or an upper-case character. -/
  | themeName (name : String)
  /-- A theme was to be moved to the other mode. -/
  | otherMode (name : String) (present requested : Mode)
  /-- The name of an attribute is blank. -/
  | blankName (field : Field)
  /-- Templates and sources were to share an attribute. -/
  | sharedName (name : String)
  /-- A word stands for no mode. -/
  | unknownMode (word : String)

namespace SetupError

/-- The wording of a cause. Malformed text has none. -/
def message? : SetupError → Option String
  | unreadable error => error.message?.map ("Failed to parse configuration: " ++ ·)
  | themeName name =>
    some ("Invalid theme name '" ++ name ++ "': expected a non-empty lower-case identifier")
  | otherMode name present requested =>
    some ("Theme '" ++ name ++ "' is already " ++ present.word ++ ", cannot register it as " ++
      requested.word)
  | blankName field => some ("Invalid " ++ field.word ++ ": attribute name is empty")
  | sharedName name =>
    some ("Invalid " ++ Field.templateAttribute.word ++ ": '" ++ name ++
      "' is also the source attribute")
  | unknownMode word =>
    some ("Unknown color mode '" ++ word ++ "' (expected 'light' or 'dark')")

end SetupError

end ThemedPage
