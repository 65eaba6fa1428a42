import ThemedPage.Mode

/-!
# Image Templates

The source of a themed image is written with the placeholder `$theme` wherever the mode's
word is to stand. `Template.resolve` fills every placeholder, from left to right, and
declines templates that hold none: those images look the same in every mode.

Filling works on the list of characters by structural recursion, so that laws about it
follow the template from its first character to its last.
-/

namespace ThemedPage

/-- A **template**: the source an image was authored with. -/
structure Template where
  /-- The authored text. -/
  source : String
  deriving DecidableEq

namespace Template

/-- The text that a mode's word replaces. -/
def placeholder : List Char := ['$', 't', 'h', 'e', 'm', 'e']

/-- Whether the placeholder stands anywhere in a text. -/
def occurs : List Char → Bool
  | '$' :: 't' :: 'h' :: 'e' :: 'm' :: 'e' :: _ => true
  | _ :: cs => occurs cs
  | [] => false

/-- Writes `word` for every placeholder of a text, the leftmost first; what follows a
replaced placeholder is searched on its own. -/
def fill (word : List Char) : List Char → List Char
  | '$' :: 't' :: 'h' :: 'e' :: 'm' :: 'e' :: cs => word ++ fill word cs
  | c :: cs => c :: fill word cs
  | [] => []

/-- A template is **themed** if it holds the placeholder. -/
def isThemed (t : Template) : Bool := occurs t.source.toList

/-- The source to show in a mode, or nothing for a template that is not themed. -/
def resolve (t : Template) (m : Mode) : Option String :=
  if t.isThemed then some (String.ofList (fill m.word.toList t.source.toList)) else none

end Template

end ThemedPage
