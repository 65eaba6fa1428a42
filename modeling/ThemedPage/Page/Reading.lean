import ThemedPage.Page
import ThemedPage.Yaml.Reading

/-!
# Reading Pages

A page is written as a YAML mapping with a dictionary `root` and a list `images` of
dictionaries. Either can be left out, neither given twice, and other keys do not matter.
-/

namespace ThemedPage.Page

open Yaml (Document Path Node Reading)

/-- A part of a page. -/
inductive Part where
  /-- The attributes of the root element. -/
  | root
  /-- The images. -/
  | images
  deriving DecidableEq

/-- The word a part is written under. -/
def Part.word : Part → String
  | root => "root"
  | images => "images"

/-- Reads the key of a part; other keys name none. -/
def readPart (d : Document) : Node → Reading (Option Part) :=
  Reading.scalar d [] "field identifier" fun word =>
    pure ([Part.root, Part.images].find? (·.word = word))

/-- Reads the attributes of an element. -/
def readAttributes (d : Document) (path : Path) : Node → Reading Attributes :=
  Reading.dict d path (Reading.text d)

/-- Reads parts into a page; `given` are those that have been. -/
def readParts (d : Document) (given : List Part) (p : Page) :
    List (Node × Node) → Reading Page
  | [] => pure p
  | (k, v) :: entries => do
    let path := Reading.valuePath [] k
    match ← readPart d k with
    | none => readParts d given p entries
    | some part =>
      if part ∈ given then Reading.fail (.duplicateField part.word)
      else
        let p ←
          match part with
          | .root => do
            let root ← readAttributes d path v
            pure { p with root }
          | .images => do
            let images ← Reading.list d path (readAttributes d) v
            pure { p with images }
        readParts d (part :: given) p entries

/-- Reads a page from the root of a document. -/
def reading (d : Document) : Node → Reading Page :=
  Reading.mapping d [] "struct PageFixture" (readParts d [] empty)

/-- The page of a YAML text. -/
def ofYaml (text : String) : Except Yaml.Error Page :=
  Yaml.readText text (pure empty) reading

/-- The message of an error in the text of a page. Malformed text has none. -/
def errorMessage? (e : Yaml.Error) : Option String :=
  e.message?.map ("Failed to parse page fixture: " ++ ·)

end ThemedPage.Page
