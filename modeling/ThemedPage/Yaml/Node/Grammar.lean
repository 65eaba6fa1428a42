import ThemedPage.Yaml.Node
import ThemedPage.Yaml.Token.Lexer

/-!
# From Tokens to a Document

`Document.ofTokens?` builds the tree of a text's only document. Keys and values that were
left out become plain scalars without text. Anchors are numbered in the order in which
their nodes begin; a node that takes over the name of an earlier one is numbered anew, by
the number of names given out before.

The grammar is followed by recursion on a number of rounds, twice the number of tokens,
because each step down or along the tree takes a token at least every other time.
-/

namespace ThemedPage.Yaml

/-- What the tokens read so far leave: the tokens to come, and the anchor numbers that
names stand for. -/
structure Outline where
  /-- The tokens to come. -/
  tokens : List Placed
  /-- The names of anchors and their numbers. -/
  names : List (List Char × Nat) := []

/-- Steps that read tokens and may find the text malformed. -/
abbrev Build (α : Type) := StateT Outline Option α

/-- What tag handles expand to. -/
abbrev Handles := List (List Char × Octets)

namespace Build

/-- The next token. -/
def peek : Build Placed := fun s =>
  match s.tokens with
  | p :: _ => some (p, s)
  | [] => none

/-- Passes over the next token. -/
def skip : Build Unit := fun s => some ((), { s with tokens := s.tokens.drop 1 })

/-- Finds the text malformed. -/
def malformed {α : Type} : Build α := fun _ => none

/-- Numbers the node that an anchor is given to. -/
def number (name : List Char) : Build Nat := fun s =>
  let id := s.names.length
  let names :=
    if s.names.any (·.1 = name) then
      s.names.map fun entry => if entry.1 = name then (name, id) else entry
    else (name, id) :: s.names
  some (id, { s with names })

/-- The number of the anchor that an alias names. -/
def numberOf (name : List Char) : Build Nat := fun s =>
  (s.names.lookup name).map fun id => (id, s)

/-- The anchor and the tag in front of a node, in either order. -/
def written : Build (Option (List Char) × Option (List Char × Octets)) := do
  match (← peek).token with
  | .anchor name => do
    skip
    match (← peek).token with
    | .tag handle suffix => do
      skip
      pure (some name, some (handle, suffix))
    | _ => pure (some name, none)
  | .tag handle suffix => do
    skip
    match (← peek).token with
    | .anchor name => do
      skip
      pure (some name, some (handle, suffix))
    | _ => pure (none, some (handle, suffix))
  | _ => pure (none, none)

/-- A tag with its handle expanded. -/
def expand (handles : Handles) : Option (List Char × Octets) → Build (Option Octets)
  | none => pure none
  | some ([], suffix) => pure (some suffix)
  | some (handle, suffix) =>
    match handles.lookup handle with
    | some expansion => pure (some (expansion ++ suffix))
    | none => malformed

mutual

/-- Reads a node. Block collections may stand only where `block` is set, and a sequence at
the indentation of the mapping around it only where `indentless` is. -/
def node (handles : Handles) : Nat → (block indentless : Bool) → Build Node
  | 0, _, _ => malformed
  | rounds + 1, block, indentless => do
    let first ← peek
    match first.token with
    | .alias name => do
      skip
      pure (.alias first.mark (← numberOf name))
    | _ => do
      let (name, tag) ← written
      let tag ← expand handles tag
      let anchor ←
        match name with
        | some name => some <$> number name
        | none => pure none
      let properties : Properties := ⟨first.mark, anchor, tag⟩
      match (← peek).token, block, indentless with
      | .blockEntry, _, true => .sequence properties <$> indentlessItems handles rounds
      | .scalar text plain, _, _ => do
        skip
        pure (.scalar properties plain (String.ofList text))
      | .flowSequenceStart, _, _ => do
        skip
        .sequence properties <$> flowItems handles rounds true
      | .flowMappingStart, _, _ => do
        skip
        .mapping properties <$> flowEntries handles rounds true
      | .blockSequenceStart, true, _ => do
        skip
        .sequence properties <$> blockItems handles rounds
      | .blockMappingStart, true, _ => do
        skip
        .mapping properties <$> blockEntries handles rounds
      | _, _, _ =>
        if name.isSome || tag.isSome then pure (.scalar properties true "") else malformed

/-- Reads the entries of a block sequence. -/
def blockItems (handles : Handles) : Nat → Build (List Node)
  | 0 => malformed
  | rounds + 1 => do
    let dash ← peek
    match dash.token with
    | .blockEntry => do
      skip
      let item ←
        match (← peek).token with
        | .blockEntry | .blockEnd => pure (.omitted dash.mark.right)
        | _ => node handles rounds true false
      return item :: (← blockItems handles rounds)
    | .blockEnd => do
      skip
      pure []
    | _ => malformed

/-- Reads the entries of a sequence at the indentation of the mapping around it. -/
def indentlessItems (handles : Handles) : Nat → Build (List Node)
  | 0 => malformed
  | rounds + 1 => do
    let dash ← peek
    match dash.token with
    | .blockEntry => do
      skip
      let item ←
        match (← peek).token with
        | .blockEntry | .key | .value | .blockEnd => pure (.omitted dash.mark.right)
        | _ => node handles rounds true false
      return item :: (← indentlessItems handles rounds)
    | _ => pure []

/-- Reads the entries of a block mapping. -/
def blockEntries (handles : Handles) : Nat → Build (List (Node × Node))
  | 0 => malformed
  | rounds + 1 => do
    let question ← peek
    match question.token with
    | .key => do
      skip
      let key ←
        match (← peek).token with
        | .key | .value | .blockEnd => pure (.omitted question.mark.right)
        | _ => node handles rounds true true
      let colon ← peek
      let value ←
        match colon.token with
        | .value => do
          skip
          match (← peek).token with
          | .key | .value | .blockEnd => pure (.omitted colon.mark.right)
          | _ => node handles rounds true true
        | _ => pure (.omitted colon.mark)
      return (key, value) :: (← blockEntries handles rounds)
    | .blockEnd => do
      skip
      pure []
    | _ => malformed

/-- Reads the items between brackets; `first` is set before the first of them. An item may
be a single pair of key and value without braces. -/
def flowItems (handles : Handles) : Nat → (first : Bool) → Build (List Node)
  | 0, _ => malformed
  | rounds + 1, first => do
    if (← peek).token = .flowSequenceEnd then
      skip
      return []
    if !first then
      if (← peek).token = .flowEntry then skip else malformed
    let next ← peek
    match next.token with
    | .flowSequenceEnd => do
      skip
      pure []
    | .key => do
      skip
      let behind ← peek
      let key ←
        match behind.token with
        | .value | .flowEntry | .flowSequenceEnd => do
          skip
          pure (.omitted behind.mark.right)
        | _ => node handles rounds false false
      let value ← flowValue handles rounds
      let pair := .mapping ⟨next.mark, none, none⟩ [(key, value)]
      return pair :: (← flowItems handles rounds false)
    | _ => do
      let item ← node handles rounds false false
      return item :: (← flowItems handles rounds false)

/-- Reads what follows a key between brackets or braces. -/
def flowValue (handles : Handles) : Nat → Build Node
  | 0 => malformed
  | rounds + 1 => do
    let colon ← peek
    if colon.token = .value then
      skip
      let behind ← peek
      match behind.token with
      | .flowEntry | .flowSequenceEnd | .flowMappingEnd => pure (.omitted behind.mark)
      | _ => node handles rounds false false
    else pure (.omitted colon.mark)

/-- Reads the entries between braces; `first` is set before the first of them. -/
def flowEntries (handles : Handles) : Nat → (first : Bool) → Build (List (Node × Node))
  | 0, _ => malformed
  | rounds + 1, first => do
    if (← peek).token = .flowMappingEnd then
      skip
      return []
    if !first then
      if (← peek).token = .flowEntry then skip else malformed
    let next ← peek
    match next.token with
    | .flowMappingEnd => do
      skip
      pure []
    | .key => do
      skip
      let behind ← peek
      let key ←
        match behind.token with
        | .value | .flowEntry | .flowMappingEnd => pure (.omitted behind.mark)
        | _ => node handles rounds false false
      let value ← flowValue handles rounds
      return (key, value) :: (← flowEntries handles rounds false)
    | _ => do
      let key ← node handles rounds false false
      let value := .omitted (← peek).mark
      return (key, value) :: (← flowEntries handles rounds false)

end

end Build

/-! ### Documents -/

/-- The handles that need no directive. -/
def commonHandles : Handles :=
  [(['!'], ['!'.toNat.toUInt8]), (['!', '!'], "tag:yaml.org,2002:".toUTF8.toList)]

/-- Reads the directives in front of a document marker. The version can be named once, and
each handle be given one expansion; `named` says whether the version has been. -/
def directives? (named : Bool) (handles : Handles) :
    List Placed → Option (Handles × List Placed)
  | [] => none
  | p :: ps =>
    match p.token with
    | .version major minor =>
      if !named && major = 1 && (minor = 1 || minor = 2) then directives? true handles ps
      else none
    | .tagHandle handle expansion =>
      if handles.any (·.1 = handle) then none
      else directives? named ((handle, expansion) :: handles) ps
    | .documentStart => some (handles ++ commonHandles, ps)
    | _ => none

/-- Reads the root of a document behind its marker; it may be left out. -/
def markedRoot (handles : Handles) (rounds : Nat) : Build Node := do
  let first ← Build.peek
  match first.token with
  | .version _ _ | .tagHandle _ _ | .documentStart | .documentEnd | .streamEnd =>
    pure (.omitted first.mark)
  | _ => Build.node handles rounds true false

namespace Document

/-- The document of a text with at most one, from its tokens. -/
def ofTokens? (tokens : List Placed) : Option Document := do
  let rounds := 2 * tokens.length + 2
  let first ← tokens.head?
  let (root, s) : Option Node × Outline ←
    match first.token with
    | .streamEnd => some (none, { tokens })
    | .version _ _ | .tagHandle _ _ | .documentStart => do
      let (handles, tokens) ← directives? false [] tokens
      let (root, s) ← (markedRoot handles rounds).run { tokens }
      some (some root, s)
    | _ => do
      let (root, s) ← (Build.node commonHandles rounds true false).run { tokens }
      some (some root, s)
  let behind ← (s.tokens.dropWhile (·.token = .documentEnd)).head?
  if behind.token = .streamEnd then some { root } else none

/-- The document of a text, or nothing if the text is malformed, has more than one document
or mentions an anchor before it is given. -/
def ofText? (text : String) : Option Document := do
  ofTokens? (← tokens? text.toList)

end Document

end ThemedPage.Yaml
