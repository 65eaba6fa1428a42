import ThemedPage.Text.Quoted
import ThemedPage.Yaml.Node
import ThemedPage.Yaml.PlainText

/-!
# Faults of Documents

A text can be malformed, or be well-formed and not what was wanted. In the second case the
fault names a **problem** and, as far as it is known, the **spot**: the path that leads to
the node from the root, and the place of the node in the text.

`Fault.message` is the text that people read: path, problem and place, with the path left
out at the root and the place left out where the text begins.
-/

namespace ThemedPage.Yaml

/-! ### Paths -/

/-- A step from a collection to one of its members. -/
inductive Segment where
  /-- To the value of a key. -/
  | key (name : String)
  /-- To an item, counted from zero. -/
  | index (n : Nat)
  /-- To the value of a key that is not written out in its place. -/
  | unnamed

/-- A **path** from the root to a node, the last step first. -/
abbrev Path := List Segment

namespace Path

/-- The text of a path: names joined by points, and items in brackets. -/
def text : Path → String
  | [] => "."
  | .index n :: path => text path ++ "[" ++ toString n ++ "]"
  | .key name :: path => (if path.isEmpty then "" else text path ++ ".") ++ name
  | .unnamed :: path => (if path.isEmpty then "" else text path ++ ".") ++ "?"

end Path

/-! ### Problems -/

/-- What was found where something else was wanted. -/
inductive Found where
  /-- A sequence. -/
  | sequence
  /-- A mapping. -/
  | mapping
  /-- Null. -/
  | null
  /-- A truth value. -/
  | boolean (value : Bool)
  /-- An integer. -/
  | integer (value : Int)
  /-- A floating-point number. -/
  | float (value : Decimal.Binary64)
  /-- Text. -/
  | string (value : String)

/-- How messages name what was found. Integers of more than 64 bits are marked. -/
def Found.text : Found → String
  | .sequence => "sequence"
  | .mapping => "map"
  | .null => "unit value"
  | .boolean b => "boolean `" ++ toString b ++ "`"
  | .integer n =>
    "integer `" ++ toString n ++ "`" ++
      (if Int.pow 2 64 ≤ n then " as u128" else if n < -Int.pow 2 63 then " as i128" else "")
  | .float x => "floating point `" ++ x.text ++ "`"
  | .string s => "string " ++ Text.quote s

/-- A **problem** with a well-formed document. -/
inductive Problem where
  /-- A key that is no field. -/
  | unknownField (name : String) (known : List String)
  /-- A field that is given twice. -/
  | duplicateField (name : String)
  /-- A word that is not among those that may stand here. -/
  | unknownVariant (name : String) (known : List String)
  /-- A node of the wrong kind. -/
  | wrongKind (found : Found) (wanted : String)
  /-- Text that does not spell what its tag says. -/
  | wrongText (text : String) (wanted : String)
  /-- No node where one is needed. -/
  | missing
  /-- Aliases that repeat too much. -/
  | tooManyRepeats

/-- Names as messages list them. -/
def listed : List String → String
  | [name] => "`" ++ name ++ "`"
  | [first, second] => "`" ++ first ++ "` or `" ++ second ++ "`"
  | names => "one of " ++ ", ".intercalate (names.map fun name => "`" ++ name ++ "`")

/-- The text of a problem. -/
def Problem.text : Problem → String
  | .unknownField name known => "unknown field `" ++ name ++ "`, expected " ++ listed known
  | .duplicateField name => "duplicate field `" ++ name ++ "`"
  | .unknownVariant name known => "unknown variant `" ++ name ++ "`, expected " ++ listed known
  | .wrongKind found wanted => "invalid type: " ++ found.text ++ ", expected " ++ wanted
  | .wrongText s wanted => "invalid value: string " ++ Text.quote s ++ ", expected " ++ wanted
  | .missing => "EOF while parsing a value"
  | .tooManyRepeats => "repetition limit exceeded"

/-! ### Faults -/

/-- A problem and where it lies, if that is known. -/
structure Fault where
  /-- What is wrong. -/
  problem : Problem
  /-- The path to the node and its place. -/
  spot : Option (Path × Mark) := none

/-- The text of a place, counted from one. -/
def Mark.text (m : Mark) : String :=
  "line " ++ toString (m.line + 1) ++ " column " ++ toString (m.column + 1)

/-- The message of a fault. -/
def Fault.message (f : Fault) : String :=
  match f.spot with
  | none => f.problem.text
  | some (path, mark) =>
    (if path.text = "." then "" else path.text ++ ": ") ++ f.problem.text ++
      (if mark.line = 0 && mark.column = 0 then "" else " at " ++ mark.text)

/-- Why a text could not be read. -/
inductive Error where
  /-- The text is not one well-formed document. -/
  | malformed
  /-- The document is not what was wanted. -/
  | unfit (fault : Fault)

/-- The message of an error; malformed text has none. -/
def Error.message? : Error → Option String
  | .malformed => none
  | .unfit fault => some fault.message

end ThemedPage.Yaml
