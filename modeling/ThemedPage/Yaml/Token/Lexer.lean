import ThemedPage.Yaml.Token.Property
import ThemedPage.Yaml.Token.Scalar

/-!
# From Text to Tokens

`tokens?` cuts a text into tokens. The lexer keeps track of the columns at which open block
collections began, and emits start and end tokens as the indentation grows and shrinks.

Whether a word is a key is known only when the colon behind it is met. So the lexer
remembers, for every level of brackets and braces, the last place where a key without
question mark may have begun, and inserts the `key` token there once the colon comes. Such
a place lapses at the end of its line or after 1024 octets. A word that stands exactly at
the indentation of a block mapping has to be a key.
-/

namespace ThemedPage.Yaml

/-- A place where a key without question mark may have begun. -/
structure PossibleKey where
  /-- The number of tokens before it. -/
  position : Nat
  /-- Whether nothing else can stand there. -/
  required : Bool
  /-- Where it is. -/
  mark : Mark

/-- The state of the lexer. -/
structure Lexer where
  /-- The glyphs still to come. -/
  rest : List Glyph
  /-- Where the text ends. -/
  stop : Mark
  /-- The tokens so far, backwards. -/
  emitted : List Placed := []
  /-- The number of tokens so far. -/
  count : Nat := 0
  /-- The column of the innermost open block collection, if one is open. -/
  indent : Option Nat := none
  /-- The columns of the block collections around it. -/
  outer : List (Option Nat) := []
  /-- The possible key of this level of brackets and braces. -/
  possible : Option PossibleKey := none
  /-- The possible keys of the levels around it. -/
  levels : List (Option PossibleKey) := []
  /-- Whether a key without question mark may begin here. -/
  keyAllowed : Bool := true

namespace Lexer

/-- Where the lexer stands. -/
def mark (s : Lexer) : Mark := (s.rest.head?.map (·.mark)).getD s.stop

/-- Whether the lexer is inside brackets or braces. -/
def inFlow (s : Lexer) : Bool := !s.levels.isEmpty

/-- The least column of what belongs to the innermost block collection. -/
def least (s : Lexer) : Nat := (s.indent.map (· + 1)).getD 0

/-- Emits a token at a place. -/
def emitAt (s : Lexer) (token : Token) (mark : Mark) : Lexer :=
  { s with emitted := ⟨token, mark⟩ :: s.emitted, count := s.count + 1 }

/-- Emits a token that begins where the lexer stands. -/
def emit (s : Lexer) (token : Token) : Lexer := s.emitAt token s.mark

/-- Emits a token and passes over its glyphs. -/
def take (s : Lexer) (token : Token) (width : Nat) : Lexer :=
  { s.emit token with rest := s.rest.drop width }

/-- Inserts a token behind a number of tokens emitted before. -/
def insertAt (s : Lexer) (position : Nat) (token : Token) (mark : Mark) : Lexer :=
  let later := s.count - position
  { s with
    emitted := s.emitted.take later ++ ⟨token, mark⟩ :: s.emitted.drop later
    count := s.count + 1 }

/-! ### Keys and indentation -/

/-- Gives up the possible key of this level. -/
def dropKey (s : Lexer) : Option Lexer :=
  if s.possible.any (·.required) then none else some { s with possible := none }

/-- Notes that a key may begin here. -/
def noteKey (s : Lexer) : Option Lexer :=
  if s.keyAllowed then do
    let s ← s.dropKey
    let required := !s.inFlow && s.indent = some s.mark.column
    some { s with possible := some ⟨s.count, required, s.mark⟩ }
  else some s

/-- Whether a possible key has lapsed at a mark. -/
def lapsed (m : Mark) (k : PossibleKey) : Bool :=
  k.mark.line < m.line || k.mark.index + 1024 < m.index

/-- Gives up the possible keys of all levels that have lapsed. -/
def dropLapsed (s : Lexer) : Option Lexer :=
  let lapses (k : Option PossibleKey) : Bool := k.any (lapsed s.mark)
  let keep (k : Option PossibleKey) : Option PossibleKey := if lapses k then none else k
  if (s.possible :: s.levels).any fun k => lapses k && k.any (·.required) then none
  else some { s with possible := keep s.possible, levels := s.levels.map keep }

/-- Opens a block collection at a column if that lies deeper than those open, with its
start token behind a number of tokens. -/
def openBlock (s : Lexer) (column position : Nat) (token : Token) (mark : Mark) : Lexer :=
  if s.inFlow || s.indent.any (column ≤ ·) then s
  else
    { s.insertAt position token mark with indent := some column, outer := s.indent :: s.outer }

/-- Closes the block collections that a column does not belong to; without a column, all of
them. -/
def closeBlocks (s : Lexer) (column : Option Nat) : Lexer :=
  if s.inFlow then s else close s s.outer
where
  /-- Closes along the columns of the collections around the innermost one. -/
  close (s : Lexer) : List (Option Nat) → Lexer
    | [] => s
    | around :: outer =>
      if s.indent.any fun i => column.all (· < i) then
        close { s.emit .blockEnd with indent := around, outer := outer } outer
      else s

/-! ### Between tokens -/

/-- Passes over blanks, comments and line ends to the next token. A tab is no blank where a
key could begin, and a byte order mark may begin a line. -/
def skipGaps (flow comment keyAllowed : Bool) : List Glyph → Bool × List Glyph
  | [] => (keyAllowed, [])
  | g :: gs =>
    if isBreak g.char then skipGaps flow false (!flow || keyAllowed) gs
    else if comment then skipGaps flow true keyAllowed gs
    else if g.char = '#' then skipGaps flow true keyAllowed gs
    else if g.char = ' ' || g.char = '\t' && (flow || !keyAllowed) ||
        g.char = '\ufeff' && g.mark.column = 0 then skipGaps flow false keyAllowed gs
    else (keyAllowed, g :: gs)

/-- Passes over what stands between two tokens and settles what ends there. -/
def advance (s : Lexer) : Option Lexer := do
  let (keyAllowed, rest) := skipGaps s.inFlow false s.keyAllowed s.rest
  let s ← { s with keyAllowed, rest }.dropLapsed
  some (s.closeBlocks (some s.mark.column))

/-! ### Single tokens -/

/-- Ends the text: the end stands at the beginning of a line. -/
def finish (s : Lexer) : Option (List Placed) := do
  let stop := if s.stop.column = 0 then s.stop else s.stop.nextLine 0
  let s ← ({ s with rest := [], stop := stop }.closeBlocks none).dropKey
  some ((s.emit .streamEnd).emitted.reverse)

/-- A marker or directive: it ends all block collections. -/
def outermost (s : Lexer) : Option Lexer := do
  let s ← (s.closeBlocks none).dropKey
  some { s with keyAllowed := false }

/-- An opening bracket or brace. -/
def openFlow (s : Lexer) (token : Token) : Option Lexer := do
  let s ← s.noteKey
  some { s.take token 1 with
    possible := none, levels := s.possible :: s.levels, keyAllowed := true }

/-- A closing bracket or brace. -/
def closeFlow (s : Lexer) (token : Token) : Option Lexer := do
  let s ← s.dropKey
  let s := { s.take token 1 with keyAllowed := false }
  match s.levels with
  | [] => some s
  | possible :: levels => some { s with possible, levels }

/-- The indicator of an entry or a key in a block: it may open the collection. -/
def indicator (s : Lexer) (token collection : Token) : Option Lexer := do
  let s ←
    if s.inFlow then some s
    else if s.keyAllowed then
      some (s.openBlock s.mark.column s.count collection s.mark)
    else none
  let s ← s.dropKey
  some { s.take token 1 with keyAllowed := token = .blockEntry || !s.inFlow }

/-- The colon before a value: it makes a key of what was possibly one. -/
def valueIndicator (s : Lexer) : Option Lexer :=
  match s.possible with
  | some k =>
    let s := s.insertAt k.position .key k.mark
    let s := s.openBlock k.mark.column k.position .blockMappingStart k.mark
    some { s.take .value 1 with possible := none, keyAllowed := false }
  | none =>
    if s.inFlow then some { s.take .value 1 with keyAllowed := false }
    else if s.keyAllowed then
      let s := s.openBlock s.mark.column s.count .blockMappingStart s.mark
      some { s.take .value 1 with keyAllowed := true }
    else none

/-- A word that can begin a key: the reader is given the glyphs behind the indicator. -/
def word (s : Lexer) (width : Nat) (read : List Glyph → Option (Token × List Glyph)) :
    Option Lexer := do
  let s ← s.noteKey
  let (token, rest) ← read (s.rest.drop width)
  some { s.emit token with rest := rest, keyAllowed := false }

/-- A plain scalar. A line end behind it lets a key begin. -/
def plain (s : Lexer) : Option Lexer := do
  let s ← s.noteKey
  let (text, broken, rest) ← plainText s.inFlow s.least [] Gap.none s.rest
  some { s.emit (.scalar text true) with rest := rest, keyAllowed := broken }

/-- A block scalar. -/
def block (s : Lexer) (literal : Bool) : Option Lexer := do
  let s ← s.dropKey
  let (text, rest) ← blockScalar literal s.least (s.rest.drop 1)
  some { s.emit (.scalar text false) with rest := rest, keyAllowed := true }

/-- Whether a plain scalar can begin with a character, what follows it given. -/
def beginsPlain (flow : Bool) (c : Char) (gs : List Glyph) : Bool :=
  let isIndicator := isFlowIndicator c || (List.elem c
    ['-', '?', ':', '#', '&', '*', '!', '|', '>', '\x27', '\x22', '%', '@', '\x60'])
  !isGap c && !isIndicator || c = '-' && !gs.head?.any (isSpace ·.char) ||
    !flow && (c = '?' || c = ':') && !gapNext gs

/-- Reads one token; `g` is its first glyph and `gs` what follows. -/
def token (s : Lexer) (g : Glyph) (gs : List Glyph) : Option Lexer :=
  let c := g.char
  let atStart := g.mark.column = 0
  if atStart && c = '%' then do
    let s ← s.outermost
    let (token, rest) ← directive gs
    some { s.emit token with rest := rest }
  else if atStart && markerNext '-' (g :: gs) then s.outermost.map (·.take .documentStart 3)
  else if atStart && markerNext '.' (g :: gs) then s.outermost.map (·.take .documentEnd 3)
  else if c = '[' then s.openFlow .flowSequenceStart
  else if c = '{' then s.openFlow .flowMappingStart
  else if c = ']' then s.closeFlow .flowSequenceEnd
  else if c = '}' then s.closeFlow .flowMappingEnd
  else if c = ',' then do
    let s ← s.dropKey
    some { s.take .flowEntry 1 with keyAllowed := true }
  else if c = '-' && gapNext gs then s.indicator .blockEntry .blockSequenceStart
  else if c = '?' && (s.inFlow || gapNext gs) then s.indicator .key .blockMappingStart
  else if c = ':' && (s.inFlow || gapNext gs) then s.valueIndicator
  else if c = '*' then s.word 1 fun gs => (nameText gs).map fun (n, rest) => (.alias n, rest)
  else if c = '&' then s.word 1 fun gs => (nameText gs).map fun (n, rest) => (.anchor n, rest)
  else if c = '!' then s.word 0 (tagText s.inFlow)
  else if c = '|' && !s.inFlow then s.block true
  else if c = '>' && !s.inFlow then s.block false
  else if c = '\x27' then
    s.word 1 fun gs => (singleQuoted [] Gap.none gs).map fun (t, rest) => (.scalar t false, rest)
  else if c = '\x22' then
    s.word 1 fun gs =>
      (doubleQuoted [] Gap.none none gs).map fun (t, rest) => (.scalar t false, rest)
  else if beginsPlain s.inFlow c gs then s.plain
  else none

/-- Reads all tokens. Every token takes at least one glyph, so the number of glyphs bounds
the number of rounds. -/
def run : Nat → Lexer → Option (List Placed)
  | 0, _ => none
  | rounds + 1, s => do
    let s ← s.advance
    match s.rest with
    | [] => s.finish
    | g :: gs => run rounds (← s.token g gs)

end Lexer

/-- The tokens of a text, or nothing if it is malformed. -/
def tokens? (cs : List Char) : Option (List Placed) := do
  let (rest, stop) ← glyphs? cs
  Lexer.run (rest.length + 1) { rest, stop }

end ThemedPage.Yaml
