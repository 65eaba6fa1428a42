import ThemedPage.Yaml.Token

/-!
# Nodes and Documents

A document is a tree of nodes: scalars, sequences, mappings and aliases. An alias stands
for the node that carries its number as anchor, which may lie anywhere in the document;
`Document.target?` finds it. Documents without any node occur as well: text of nothing but
blanks and comments.
-/

namespace ThemedPage.Yaml

/-- What any node but an alias may carry, and where it begins. -/
structure Properties where
  /-- Where the node begins, its tag or anchor included. -/
  mark : Mark
  /-- The number by which aliases refer to the node. -/
  anchor : Option Nat := none
  /-- The node's tag, with its handle expanded. -/
  tag : Option Octets := none

/-- A **node** of a document. -/
inductive Node where
  /-- Text, and whether it was written plain. -/
  | scalar (properties : Properties) (plain : Bool) (text : String)
  /-- A list of nodes. -/
  | sequence (properties : Properties) (items : List Node)
  /-- Pairs of keys and values, in the order in which they were written. -/
  | mapping (properties : Properties) (entries : List (Node × Node))
  /-- Another mention of an anchored node. -/
  | alias (mark : Mark) (anchor : Nat)

namespace Node

/-- A plain scalar without text: what stands for a key or value that was left out. -/
def omitted (mark : Mark) : Node := .scalar ⟨mark, none, none⟩ true ""

/-- A node under its own anchor. -/
def underAnchor (p : Properties) (n : Node) : List (Nat × Node) :=
  match p.anchor with
  | some id => [(id, n)]
  | none => []

mutual

/-- The anchored nodes of a tree under their anchors, in the order in which they begin. -/
def anchored : Node → List (Nat × Node)
  | n@(.scalar p _ _) => underAnchor p n
  | n@(.sequence p items) => underAnchor p n ++ anchoredItems items
  | n@(.mapping p entries) => underAnchor p n ++ anchoredEntries entries
  | .alias _ _ => []

/-- The anchored nodes among the items of a sequence. -/
def anchoredItems : List Node → List (Nat × Node)
  | [] => []
  | n :: ns => anchored n ++ anchoredItems ns

/-- The anchored nodes among the entries of a mapping. -/
def anchoredEntries : List (Node × Node) → List (Nat × Node)
  | [] => []
  | (k, v) :: es => anchored k ++ anchored v ++ anchoredEntries es

end

mutual

/-- The size of a tree: one for a scalar or an alias, and two for a collection besides its
members. -/
def size : Node → Nat
  | .scalar _ _ _ => 1
  | .sequence _ items => 2 + sizeItems items
  | .mapping _ entries => 2 + sizeEntries entries
  | .alias _ _ => 1

/-- The size of the items of a sequence. -/
def sizeItems : List Node → Nat
  | [] => 0
  | n :: ns => size n + sizeItems ns

/-- The size of the entries of a mapping. -/
def sizeEntries : List (Node × Node) → Nat
  | [] => 0
  | (k, v) :: es => size k + size v + sizeEntries es

end

end Node

/-- A **document**: its root node, unless it has no node at all, and what its aliases can
stand for. -/
structure Document where
  /-- The root of the tree. -/
  root : Option Node
  /-- The anchored nodes of the tree, the last to begin first. -/
  anchors : List (Nat × Node) := ((root.map Node.anchored).getD []).reverse

namespace Document

/-- The node that aliases of a number stand for: the last to begin among those that carry
it. -/
def target? (d : Document) (anchor : Nat) : Option Node := d.anchors.lookup anchor

/-- The size of a document; one without nodes counts as one. -/
def size (d : Document) : Nat := (d.root.map Node.size).getD 1

end Document

end ThemedPage.Yaml
