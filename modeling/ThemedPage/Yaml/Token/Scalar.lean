import ThemedPage.Yaml.Glyph

/-!
# The Text of Scalars

A scalar can be written plain, between single or double quotes, or as a block of indented
lines. Each style is read by one pass over the glyphs that keeps what it has read and the
**gap** since the last character of text: blanks are text only if more text follows on the
same line, and line ends inside a scalar are folded.

Every reader returns the text and the glyphs behind the scalar, or nothing where the text
is malformed.
-/

namespace ThemedPage.Yaml

/-! ### Gaps -/

/-- A **gap** in a scalar: blanks of one line, or line ends with the blanks around them
left out. -/
inductive Gap where
  /-- Blanks between two characters of one line. -/
  | blanks (text : List Char)
  /-- The first line end of the gap, if it is not escaped, and the further ones. -/
  | breaks (first more : List Char)

namespace Gap

/-- No gap: the last glyph was text. -/
def none : Gap := blanks []

/-- The gap with one more blank or line end. -/
def push (c : Char) : Gap → Gap
  | blanks text => if isBreak c then breaks [c] [] else blanks (text ++ [c])
  | breaks first more => if isBreak c then breaks first (more ++ [c]) else breaks first more

/-- What a gap counts for when text follows it: one line feed alone becomes a space, and
the first of several is dropped. -/
def folded : Gap → List Char
  | blanks text => text
  | breaks first more =>
    if first = ['\n'] then (if more.isEmpty then [' '] else more) else first ++ more

/-- Whether there is any gap at all. -/
def isNone : Gap → Bool
  | blanks text => text.isEmpty
  | breaks _ _ => false

/-- Whether the gap reaches over a line end. -/
def isBroken : Gap → Bool
  | blanks _ => false
  | breaks _ _ => true

end Gap

/-! ### Plain scalars -/

/-- The indicators that end a plain scalar inside brackets or braces. -/
def isFlowIndicator (c : Char) : Bool :=
  c = ',' || c = '[' || c = ']' || c = '{' || c = '}'

/-- Reads a plain scalar: `text` is what was read so far, backwards, and `column` the least
column at which a further line may begin outside brackets and braces. Also says whether a
line end follows the scalar. -/
def plainText (flow : Bool) (column : Nat) (text : List Char) (gap : Gap) :
    List Glyph → Option (List Char × Bool × List Glyph)
  | [] => some (text.reverse, gap.isBroken, [])
  | g :: gs =>
    let finish := some (text.reverse, gap.isBroken, g :: gs)
    if isGap g.char then
      if gap.isBroken && g.mark.column < column && g.char = '\t' then none
      else plainText flow column text (gap.push g.char) gs
    else if !gap.isNone && (!flow && g.mark.column < column ||
        g.mark.column = 0 && documentMarkNext (g :: gs) || g.char = '#') then finish
    else if flow && g.char = ':' && gs.head?.any (fun h => isFlowIndicator h.char || h.char = '?')
      then none
    else if g.char = ':' && gapNext gs || flow && isFlowIndicator g.char then finish
    else plainText flow column (g.char :: (gap.folded.reverse ++ text)) Gap.none gs

/-! ### Quoted scalars -/

/-- Reads on in a scalar between single quotes, in which a quote is written twice. -/
def singleQuoted (text : List Char) (gap : Gap) :
    List Glyph → Option (List Char × List Glyph)
  | [] => none
  | g :: gs =>
    if isGap g.char then singleQuoted text (gap.push g.char) gs
    else if g.mark.column = 0 && documentMarkNext (g :: gs) then none
    else
      let text := gap.folded.reverse ++ text
      if g.char = '\x27' then
        match gs with
        | h :: hs =>
          if h.char = '\x27' then singleQuoted ('\x27' :: text) Gap.none hs
          else some (text.reverse, h :: hs)
        | [] => some (text.reverse, [])
      else singleQuoted (g.char :: text) Gap.none gs

/-- The character that a one-letter escape stands for. -/
def escaped? (c : Char) : Option Char :=
  (List.lookup c
    [('0', '\x00'), ('a', '\x07'), ('b', '\x08'), ('t', '\t'), ('\t', '\t'), ('n', '\n'),
     ('v', '\x0b'), ('f', '\x0c'), ('r', '\r'), ('e', '\x1b'), (' ', ' '), ('\x22', '\x22'),
     ('/', '/'), ('\\', '\\'), ('N', '\u0085'), ('_', '\u00a0'), ('L', '\u2028'),
     ('P', '\u2029')])

/-- The number of hexadecimal digits that an escape by number has. -/
def escapeLength? (c : Char) : Option Nat :=
  (List.lookup c [('x', 2), ('u', 4), ('U', 8)])

/-- The character of a number, if it is one. -/
def charOfNat? (n : Nat) : Option Char :=
  if h : n.isValidChar then some (Char.ofNatAux n h) else none

/-- Reads on in a scalar between double quotes. Inside an escape by number, `code` holds
how many digits are still to come and the value of those read. -/
def doubleQuoted (text : List Char) (gap : Gap) (code : Option (Nat × Nat)) :
    List Glyph → Option (List Char × List Glyph)
  | [] => none
  | g :: gs =>
    match code with
    | some (left, value) => do
      let value := 16 * value + (← hexDigit? g.char)
      if left ≤ 1 then doubleQuoted ((← charOfNat? value) :: text) Gap.none none gs
      else doubleQuoted text Gap.none (some (left - 1, value)) gs
    | none =>
      if isGap g.char then doubleQuoted text (gap.push g.char) none gs
      else if g.mark.column = 0 && documentMarkNext (g :: gs) then none
      else
        let text := gap.folded.reverse ++ text
        if g.char = '\x22' then some (text.reverse, gs)
        else if g.char = '\\' then
          match gs with
          | [] => none
          | h :: hs =>
            if isBreak h.char then doubleQuoted text (Gap.breaks [] []) none hs
            else
              match escaped? h.char, escapeLength? h.char with
              | some c, _ => doubleQuoted (c :: text) Gap.none none hs
              | none, some n => doubleQuoted text Gap.none (some (n, 0)) hs
              | none, none => none
        else doubleQuoted (g.char :: text) Gap.none none gs

/-! ### Block scalars -/

/-- What happens to the line ends behind the last line of a block. -/
inductive Chomping where
  /-- All are dropped. -/
  | strip
  /-- The first is kept. -/
  | clip
  /-- All are kept. -/
  | keep
  deriving DecidableEq

/-- What does not change while a block is read. -/
structure Block where
  /-- Whether line ends are kept as they are. -/
  literal : Bool
  /-- What happens to the last line ends. -/
  chomping : Chomping
  /-- The least indentation that the surroundings allow. -/
  least : Nat

/-- How far a block has been read. -/
structure BlockState where
  /-- The indentation of the block, once it is known. -/
  indent : Option Nat
  /-- The deepest indentation among the blank lines before that. -/
  deepest : Nat := 0
  /-- Whether the last glyph belonged to a line's text. -/
  inLine : Bool := false
  /-- Whether the last line of text began with a blank. -/
  indented : Bool := false
  /-- The line end behind the last line of text. -/
  lineEnd : List Char := []
  /-- The line ends of the blank lines since. -/
  blankLines : List Char := []
  /-- The text so far, backwards. -/
  text : List Char := []

/-- The text of a block that has been read to its end. -/
def Block.finish (b : Block) (s : BlockState) : List Char :=
  s.text.reverse ++ (if b.chomping = .strip then [] else s.lineEnd) ++
    (if b.chomping = .keep then s.blankLines else [])

/-- The state at the first character of a line of text. In a folded block the line end
before it becomes a space, or nothing if blank lines stand between, unless one of the two
lines begins with a blank. -/
def Block.newLine (b : Block) (s : BlockState) (indent : Nat) (c : Char) : BlockState :=
  let joined :=
    if !b.literal && s.lineEnd = ['\n'] && !s.indented && !isSpace c then
      if s.blankLines.isEmpty then [' '] else s.blankLines
    else s.lineEnd ++ s.blankLines
  { indent := some indent, inLine := true, indented := isSpace c,
    text := c :: (joined.reverse ++ s.text) }

/-- Reads the lines of a block. -/
def blockText (b : Block) (s : BlockState) : List Glyph → Option (List Char × List Glyph)
  | [] => some (b.finish s, [])
  | g :: gs =>
    let c := g.char
    let column := g.mark.column
    if s.inLine then
      if isBreak c then blockText b { s with inLine := false, lineEnd := [c] } gs
      else blockText b { s with text := c :: s.text } gs
    else
      let short := s.indent.all (column < ·)
      if c = ' ' && short then blockText b s gs
      else
        let s := { s with deepest := max s.deepest column }
        if c = '\t' && short then none
        else if isBreak c then blockText b { s with blankLines := s.blankLines ++ [c] } gs
        else
          let indent := s.indent.getD (max s.deepest (max b.least 1))
          if column = indent then blockText b (b.newLine s indent c) gs
          else some (b.finish s, g :: gs)

/-- The chomping that an indicator asks for. -/
def chomping? : Char → Option Chomping
  | '+' => some .keep
  | '-' => some .strip
  | _ => none

/-- The indentation that an indicator asks for, from one to nine. -/
def indentation? (c : Char) : Option Nat :=
  if '1' ≤ c && c ≤ '9' then some (c.toNat - '0'.toNat) else none

/-- Reads a block scalar behind its first indicator. The header may name chomping and
indentation in either order, and a comment may follow it. -/
def blockScalar (literal : Bool) (least : Nat) (gs : List Glyph) :
    Option (List Char × List Glyph) := do
  let next (gs : List Glyph) : Char := (gs.head?.map (·.char)).getD ' '
  let (chomping, gs) : Option Chomping × List Glyph :=
    match chomping? (next gs) with
    | some k => (some k, gs.drop 1)
    | none => (none, gs)
  let (increment, gs) : Option Nat × List Glyph :=
    match indentation? (next gs) with
    | some n => (some n, gs.drop 1)
    | none => (none, gs)
  let (chomping, gs) : Option Chomping × List Glyph :=
    match chomping, increment, chomping? (next gs) with
    | none, some _, some k => (some k, gs.drop 1)
    | _, _, _ => (chomping, gs)
  let gs := gs.dropWhile (isSpace ·.char)
  let gs := if nextIs '#' gs then gs.dropWhile (!isBreak ·.char) else gs
  let block : Block := ⟨literal, chomping.getD .clip, least⟩
  let state : BlockState := { indent := increment.map (· + (least - 1)) }
  match gs with
  | [] => some (block.finish state, [])
  | g :: gs => if isBreak g.char then blockText block state gs else none

end ThemedPage.Yaml
