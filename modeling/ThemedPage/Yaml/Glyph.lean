/-!
# Located Characters

YAML text is read as a list of **glyphs**: characters that know where they stand. Line
ends are settled once, in `glyphs?`: a carriage return, a line feed, the pair of both and
the next-line character all become one line feed, while the two Unicode separators stay as
they are. Text with a character that YAML does not allow has no glyphs.

Marks count from zero: octets of UTF-8 from the start of the text, lines, and characters
from the start of the line.
-/

namespace ThemedPage.Yaml

/-- A **mark**: a place in a text. -/
structure Mark where
  /-- The octets before the place. -/
  index : Nat
  /-- The lines before it. -/
  line : Nat
  /-- The characters before it on its line. -/
  column : Nat
  deriving DecidableEq

namespace Mark

/-- The place where a text begins. -/
def start : Mark := ⟨0, 0, 0⟩

/-- The place behind a character of some octets on the same line. -/
def right (m : Mark) (octets : Nat := 1) : Mark := ⟨m.index + octets, m.line, m.column + 1⟩

/-- The start of the next line, behind a line end of some octets. -/
def nextLine (m : Mark) (octets : Nat) : Mark := ⟨m.index + octets, m.line + 1, 0⟩

end Mark

/-- A **glyph**: a character and its place. -/
structure Glyph where
  /-- The character, a line feed for most line ends. -/
  char : Char
  /-- Where it stands. -/
  mark : Mark

/-! ### Classes of characters -/

/-- The characters that may stand in a YAML text. -/
def isAllowed (c : Char) : Bool :=
  let n := c.toNat
  n == 0x09 || n == 0x0A || n == 0x0D || n == 0x85 || 0x20 ≤ n && n ≤ 0x7E ||
    0xA0 ≤ n && n ≤ 0xFFFD || 0x10000 ≤ n

/-- The line ends that remain among glyphs. -/
def isBreak (c : Char) : Bool := c = '\n' || c = '\u2028' || c = '\u2029'

/-- A space or a tab. -/
def isSpace (c : Char) : Bool := c = ' ' || c = '\t'

/-- A space, a tab or a line end. -/
def isGap (c : Char) : Bool := isSpace c || isBreak c

/-- The characters of anchor names and tag handles. -/
def isName (c : Char) : Bool :=
  'a' ≤ c && c ≤ 'z' || 'A' ≤ c && c ≤ 'Z' || '0' ≤ c && c ≤ '9' || c = '_' || c = '-'

/-- The value of a hexadecimal digit. -/
def hexDigit? (c : Char) : Option Nat :=
  if '0' ≤ c && c ≤ '9' then some (c.toNat - '0'.toNat)
  else if 'a' ≤ c && c ≤ 'f' then some (c.toNat - 'a'.toNat + 10)
  else if 'A' ≤ c && c ≤ 'F' then some (c.toNat - 'A'.toNat + 10)
  else none

/-! ### From text to glyphs -/

/-- Places the characters of a text from a mark on. -/
def place (m : Mark) : List Char → List Glyph × Mark
  | [] => ([], m)
  | '\r' :: '\n' :: cs =>
    let (gs, stop) := place (m.nextLine 2) cs
    (⟨'\n', m⟩ :: gs, stop)
  | c :: cs =>
    if c = '\r' || c = '\u0085' then
      let (gs, stop) := place (m.nextLine c.utf8Size) cs
      (⟨'\n', m⟩ :: gs, stop)
    else
      let next := if isBreak c then m.nextLine c.utf8Size else m.right c.utf8Size
      let (gs, stop) := place next cs
      (⟨c, m⟩ :: gs, stop)

/-- The glyphs of a text and the place where it ends. -/
def glyphs? (cs : List Char) : Option (List Glyph × Mark) :=
  if cs.all isAllowed then some (place Mark.start cs) else none

/-! ### Looking ahead -/

/-- Whether the next glyph is a given character. -/
def nextIs (c : Char) (gs : List Glyph) : Bool := gs.head?.any (·.char = c)

/-- Whether a space, a line end or the end of the text comes next. -/
def gapNext (gs : List Glyph) : Bool := gs.head?.all (isGap ·.char)

/-- Whether the three glyphs of a document marker come next, with a gap behind them. -/
def markerNext (c : Char) (gs : List Glyph) : Bool :=
  (gs.take 3).map (·.char) = [c, c, c] && gapNext (gs.drop 3)

/-- Whether a document starts or ends here, on the assumption that a line does. -/
def documentMarkNext (gs : List Glyph) : Bool := markerNext '-' gs || markerNext '.' gs

/-- Splits off the longest beginning whose characters have a property. -/
def spanGlyphs (p : Char → Bool) (gs : List Glyph) : List Char × List Glyph :=
  ((gs.takeWhile (p ·.char)).map (·.char), gs.dropWhile (p ·.char))

end ThemedPage.Yaml
