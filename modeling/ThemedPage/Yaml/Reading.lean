import ThemedPage.Dict
import ThemedPage.Yaml.Error
import ThemedPage.Yaml.Node.Grammar

/-!
# Reading Values from Nodes

A **reading** turns nodes into values. It either gives a value or stops at the first fault,
and it counts how often it went from an alias to the node behind it: a document may repeat
its nodes only a limited number of times, which `readText` checks at the end.

Kinds are lenient where text is wanted — every scalar is text, as it is written — and where
a collection is wanted: a plain scalar without text is an empty one. Tags matter only for
choices among words, where `!word` chooses as well as the word itself does.

A fault is located at the innermost node that is known when it arises. `Reading.bind_result`
says that counting does not change what is read.
-/

namespace ThemedPage.Yaml

/-- A **reading** of a value. -/
structure Reading (α : Type) where
  /-- The value, or the first fault. -/
  result : Except Fault α
  /-- The number of aliases followed. -/
  hops : Nat := 0

namespace Reading

variable {α β : Type}

/-- Stops at a problem whose spot is not known yet. -/
def fail (problem : Problem) : Reading α := { result := .error { problem } }

/-- One reading after another. -/
def andThen (x : Reading α) (f : α → Reading β) : Reading β :=
  match x.result with
  | .ok a => { result := (f a).result, hops := x.hops + (f a).hops }
  | .error fault => { result := .error fault, hops := x.hops }

instance : Monad Reading where
  pure a := { result := .ok a }
  bind := andThen

@[simp] theorem pure_result (a : α) : (pure a : Reading α).result = .ok a := rfl

/-- Readings in sequence give what their results in sequence give. -/
@[simp] theorem bind_result (x : Reading α) (f : α → Reading β) :
    (x >>= f).result = x.result >>= fun a => (f a).result := by
  obtain ⟨r, n⟩ := x
  cases r <;> rfl

/-- Locates a fault that has no spot yet. -/
def located (path : Path) (mark : Mark) (x : Reading α) : Reading α :=
  { x with
    result := x.result.mapError fun fault =>
      match fault.spot with
      | some _ => fault
      | none => { fault with spot := some (path, mark) } }

/-- Counts one alias. -/
def hop (x : Reading α) : Reading α := { x with hops := x.hops + 1 }

end Reading

/-! ### Nodes of the wrong kind -/

/-- The octets of a tag of the common schema. -/
def commonTag (name : String) : Octets := ("tag:yaml.org,2002:" ++ name).toUTF8.toList

/-- What a plain scalar without a tag is found to be. -/
def foundPlain (s : String) : Found :=
  match plainMeaning s with
  | .null => .null
  | .boolean b => .boolean b
  | .integer n => .integer n
  | .float x => .float x
  | .text => .string s

/-- Whether a tag is local to its document: it begins with an exclamation mark. -/
def isLocalTag (tag : Octets) : Bool := tag.head? = some '!'.toNat.toUInt8

/-- The problem with a scalar where something else was wanted. A tag of the common schema
that does not fit its own text is blamed first; a local tag says nothing about the text. -/
def scalarProblem (tag : Option Octets) (plain : Bool) (s wanted : String) : Problem :=
  let whenTagged (found : Option Found) (spelled : String) : Problem :=
    match found with
    | some found => .wrongKind found wanted
    | none => .wrongText s spelled
  let untagged : Problem := .wrongKind (if plain then foundPlain s else .string s) wanted
  match tag with
  | none => untagged
  | some tag =>
    if tag = commonTag "bool" then whenTagged ((boolean? s).map .boolean) "a boolean"
    else if tag = commonTag "int" then whenTagged ((integer? s.toList).map .integer) "an integer"
    else if tag = commonTag "float" then whenTagged ((float? s).map .float) "a float"
    else if tag = commonTag "null" then
      whenTagged (if spellsNull s then some .null else none) "null"
    else if isLocalTag tag then untagged
    else .wrongKind (.string s) wanted

namespace Node

/-- Where a node begins. -/
def mark : Node → Mark
  | .scalar p _ _ => p.mark
  | .sequence p _ => p.mark
  | .mapping p _ => p.mark
  | .alias mark _ => mark

/-- The tag of a node. -/
def tag : Node → Option Octets
  | .scalar p _ _ => p.tag
  | .sequence p _ => p.tag
  | .mapping p _ => p.tag
  | .alias _ _ => none

/-- The word of a local tag: what follows the exclamation mark, or the mark if it stands
alone. -/
def word? (n : Node) : Option String := do
  let tag ← n.tag
  if isLocalTag tag then
    let octets := if tag.length = 1 then tag else tag.drop 1
    String.fromUTF8? ⟨octets.toArray⟩
  else none

/-- The problem with a node where something else was wanted. -/
def problem (wanted : String) : Node → Problem
  | .scalar p plain s => scalarProblem p.tag plain s wanted
  | .sequence _ _ => .wrongKind .sequence wanted
  | .mapping _ _ => .wrongKind .mapping wanted
  | .alias _ _ => .missing

end Node

/-! ### Kinds of values -/

variable {α : Type}

namespace Reading

/-- Reads the node behind an alias in its place, at the same path. -/
def behindAlias (d : Document) (path : Path) (read : Node → Reading α) : Node → Reading α
  | .alias mark id =>
    match d.target? id with
    | some n => (read n).hop.located path mark
    | none => (fail .missing).located path mark
  | n => read n

/-- Reads what the text of a scalar stands for, given how to read the text. -/
def scalar (d : Document) (path : Path) (wanted : String) (read : String → Reading α) :
    Node → Reading α :=
  behindAlias d path fun n =>
    located path n.mark <|
      match n with
      | .scalar _ _ s => read s
      | n => fail (n.problem wanted)

/-- Reads a text: any scalar, as it is written. -/
def text (d : Document) (path : Path) : Node → Reading String :=
  scalar d path "a string" pure

/-- Reads a mapping, given how to read its entries. -/
def mapping (d : Document) (path : Path) (wanted : String)
    (read : List (Node × Node) → Reading α) : Node → Reading α :=
  behindAlias d path fun n =>
    located path n.mark <|
      match n with
      | .mapping _ entries => read entries
      | .scalar _ true "" => read []
      | n => fail (n.problem wanted)

/-- The path to the value of a key. -/
def valuePath (path : Path) : Node → Path
  | .scalar _ _ name => .key name :: path
  | _ => .unnamed :: path

/-- Reads the rows of a dictionary in order. -/
def rows (d : Document) (path : Path) (read : Path → Node → Reading α) :
    List (Node × Node) → Reading (List (String × α))
  | [] => pure []
  | (k, v) :: entries => do
    let name ← text d path k
    let value ← read (valuePath path k) v
    return (name, value) :: (← rows d path read entries)

/-- Reads a dictionary; of several rows with one name the last counts. -/
def dict (d : Document) (path : Path) (read : Path → Node → Reading α) (n : Node) :
    Reading (Dict α) :=
  mapping d path "a map" (fun entries => Dict.ofList <$> rows d path read entries) n

/-- Reads the items of a sequence in order, counting from a number. -/
def items (path : Path) (read : Path → Node → Reading α) :
    Nat → List Node → Reading (List α)
  | _, [] => pure []
  | i, n :: ns => do
    let value ← read (.index i :: path) n
    return value :: (← items path read (i + 1) ns)

/-- Reads a list. -/
def list (d : Document) (path : Path) (read : Path → Node → Reading α) :
    Node → Reading (List α) :=
  behindAlias d path fun n =>
    located path n.mark <|
      match n with
      | .sequence _ ns => items path read 0 ns
      | .scalar _ true "" => items path read 0 []
      | n => fail (n.problem "a sequence")

/-- Reads a choice among words: the word as a scalar, or as a tag on a scalar without text
or with null. -/
def choice (d : Document) (path : Path) (words : List (String × α)) : Node → Reading α :=
  let choose (word : String) : Reading α :=
    match words.lookup word with
    | some a => pure a
    | none => fail (.unknownVariant word (words.map (·.1)))
  behindAlias d path fun n =>
    match n.word?, n with
    | some word, n => do
      let a ← choose word
      located path n.mark <|
        match n with
        | .scalar _ plain s =>
          if plain && (s.isEmpty || spellsNull s) then pure a else fail (.wrongText s "null")
        | n => fail (n.problem "unit")
    | none, .scalar p _ s => (choose s).located path p.mark
    | none, n => (fail (n.problem "a YAML tag starting with '!'")).located path n.mark

end Reading

/-! ### Whole texts -/

/-- How many aliases may be followed for each unit of a document's size. -/
def repeatLimit : Nat := 100

/-- Reads a text, given how to read a document's root and what a document without nodes
means. -/
def readText (text : String) (empty : Reading α) (read : Document → Node → Reading α) :
    Except Error α :=
  match Document.ofText? text with
  | none => .error .malformed
  | some d =>
    let reading := d.root.elim empty (read d)
    if repeatLimit * d.size < reading.hops then
      .error (.unfit { problem := .tooManyRepeats })
    else reading.result.mapError .unfit

end ThemedPage.Yaml
