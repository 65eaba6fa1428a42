import ThemedPage.Yaml.Glyph

/-!
# Tokens

The words that YAML text is made of. Indentation has become explicit: a block collection
begins with a start token and ends with `blockEnd`, and every key of a mapping follows a
`key` token, whether or not it was written with a question mark.
-/

namespace ThemedPage.Yaml

/-- The octets of a tag, with escapes resolved. -/
abbrev Octets := List UInt8

/-- A **token** of YAML text. -/
inductive Token where
  /-- A directive that names the version of the format. -/
  | version (major minor : Nat)
  /-- A directive that gives a tag handle its expansion. -/
  | tagHandle (handle : List Char) (expansion : Octets)
  /-- The marker `---`. -/
  | documentStart
  /-- The marker `...`. -/
  | documentEnd
  /-- The end of the text. -/
  | streamEnd
  /-- The first entry of a block sequence follows. -/
  | blockSequenceStart
  /-- The first key of a block mapping follows. -/
  | blockMappingStart
  /-- A block collection is over. -/
  | blockEnd
  /-- An opening bracket. -/
  | flowSequenceStart
  /-- A closing bracket. -/
  | flowSequenceEnd
  /-- An opening brace. -/
  | flowMappingStart
  /-- A closing brace. -/
  | flowMappingEnd
  /-- The dash before an entry of a block sequence. -/
  | blockEntry
  /-- A comma. -/
  | flowEntry
  /-- A key follows. -/
  | key
  /-- The colon before a value. -/
  | value
  /-- A reference to an anchored node. -/
  | alias (name : List Char)
  /-- A name for the node that follows. -/
  | anchor (name : List Char)
  /-- A tag for the node that follows, with the handle it was written with. -/
  | tag (handle : List Char) (suffix : Octets)
  /-- Text, and whether it was written without quotes or a block header. -/
  | scalar (text : List Char) (plain : Bool)
  deriving DecidableEq

/-- A token and the place where it begins. -/
structure Placed where
  /-- The token. -/
  token : Token
  /-- Where it begins. -/
  mark : Mark

end ThemedPage.Yaml
