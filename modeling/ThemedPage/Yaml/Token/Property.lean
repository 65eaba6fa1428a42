import ThemedPage.Yaml.Token

/-!
# Anchors, Tags and Directives

The parts of YAML text that are written as single words: names of anchors, tags with their
handles, and the lines at the head of a document that name the version of the format or
give a tag handle its expansion.

Every reader returns the token and the glyphs behind it, or nothing where the text is
malformed.
-/

namespace ThemedPage.Yaml

/-- Reads the name of an anchor or an alias behind its indicator. -/
def nameText (gs : List Glyph) : Option (List Char × List Glyph) :=
  let (name, rest) := spanGlyphs isName gs
  let closes (c : Char) : Bool :=
    isGap c || c = '?' || c = ':' || c = ',' || c = ']' || c = '}' || c = '%' || c = '@' ||
      c = '\x60'
  if !name.isEmpty && rest.head?.all (closes ·.char) then some (name, rest) else none

/-! ### Tags -/

/-- The characters of a tag that need no escape; brackets and commas are among them only in
tags and expansions written out in full. -/
def isTagChar (full : Bool) (c : Char) : Bool :=
  isName c || c = ';' || c = '/' || c = '?' || c = ':' || c = '@' || c = '&' || c = '=' ||
    c = '+' || c = '$' || c = '.' || c = '!' || c = '~' || c = '*' || c = '\x27' || c = '(' ||
    c = ')' || full && (c = ',' || c = '[' || c = ']')

/-- The number of octets that a character takes whose first octet is given. -/
def octetWidth? (n : Nat) : Option Nat :=
  if n < 0x80 then some 1
  else if 0xC0 ≤ n && n < 0xE0 then some 2
  else if 0xE0 ≤ n && n < 0xF0 then some 3
  else if 0xF0 ≤ n && n < 0xF8 then some 4
  else none

/-- Reads the octets of a tag, backwards. Escapes stand for single octets, and `missing` is
how many octets of a character begun by an escape are still to come. -/
def tagOctets (full : Bool) (read : Octets) (missing : Nat) :
    List Glyph → Option (Octets × List Glyph)
  | [] => if missing = 0 then some (read, []) else none
  | g :: gs =>
    if g.char = '%' then
      match gs with
      | h :: l :: ls =>
        match hexDigit? h.char, hexDigit? l.char with
        | some a, some b =>
          let n := 16 * a + b
          if missing = 0 then
            match octetWidth? n with
            | some width => tagOctets full (n.toUInt8 :: read) (width - 1) ls
            | none => none
          else if 0x80 ≤ n && n < 0xC0 then
            tagOctets full (n.toUInt8 :: read) (missing - 1) ls
          else none
        | _, _ => none
      | _ => none
    else if missing ≠ 0 then none
    else if isTagChar full g.char then tagOctets full (g.char.toNat.toUInt8 :: read) 0 gs
    else some (read, g :: gs)

/-- The octets of a tag whose beginning has been read. What follows a null octet does not
count, and there must be at least one octet or a handle before. -/
def tagSuffix (full : Bool) (before : List Char) (gs : List Glyph) :
    Option (Octets × List Glyph) := do
  let begun : Octets := ((before.drop 1).map (·.toNat.toUInt8)).reverse
  let (read, rest) ← tagOctets full begun 0 gs
  if read.isEmpty && before.isEmpty then none
  else some (read.reverse.takeWhile (· ≠ 0), rest)

/-- Reads a tag handle: an exclamation mark, or a name between two of them. What is no
handle because the second mark is missing is returned as it was read. -/
def handleText (gs : List Glyph) : Option (List Char × List Glyph) :=
  match gs with
  | g :: gs =>
    if g.char = '!' then
      let (name, rest) := spanGlyphs isName gs
      if nextIs '!' rest then some ('!' :: name ++ ['!'], rest.drop 1)
      else some ('!' :: name, rest)
    else none
  | [] => none

/-- Whether a text is a handle with a mark at either end. -/
def isLongHandle (cs : List Char) : Bool := 2 ≤ cs.length && cs.getLast? = some '!'

/-- Reads a tag from its exclamation mark on. The tag `!` alone has no handle. -/
def tagText (flow : Bool) (gs : List Glyph) : Option (Token × List Glyph) := do
  let (token, rest) : Token × List Glyph ←
    if nextIs '<' (gs.drop 1) then do
      let (suffix, rest) ← tagSuffix true [] (gs.drop 2)
      if nextIs '>' rest then some (.tag [] suffix, rest.drop 1) else none
    else do
      let (handle, rest) ← handleText gs
      if isLongHandle handle then
        let (suffix, rest) ← tagSuffix false [] rest
        some (.tag handle suffix, rest)
      else
        let (suffix, rest) ← tagSuffix false handle rest
        if suffix.isEmpty then some (.tag [] ['!'.toNat.toUInt8], rest)
        else some (.tag ['!'] suffix, rest)
  if flow && nextIs ',' rest || gapNext rest then some (token, rest) else none

/-! ### Directives -/

/-- Reads a version number of one to nine digits. -/
def versionNumber (gs : List Glyph) : Option (Nat × List Glyph) :=
  let (digits, rest) := spanGlyphs Char.isDigit gs
  if 1 ≤ digits.length && digits.length ≤ 9 then
    some (digits.foldl (fun n c => 10 * n + (c.toNat - '0'.toNat)) 0, rest)
  else none

/-- Reads a directive behind its percent sign, with the rest of its line. -/
def directive (gs : List Glyph) : Option (Token × List Glyph) := do
  let (name, rest) := spanGlyphs isName gs
  if !gapNext rest then none
  let blanks := fun gs : List Glyph => gs.dropWhile (isSpace ·.char)
  let (token, rest) : Token × List Glyph ←
    if name = ['Y', 'A', 'M', 'L'] then do
      let (major, rest) ← versionNumber (blanks rest)
      if !nextIs '.' rest then none
      let (minor, rest) ← versionNumber (rest.drop 1)
      some (.version major minor, rest)
    else if name = ['T', 'A', 'G'] then do
      let (handle, rest) ← handleText (blanks rest)
      if !(handle = ['!'] || isLongHandle handle) then none
      if !rest.head?.any (isSpace ·.char) then none
      let (expansion, rest) ← tagSuffix true [] (blanks rest)
      if !gapNext rest then none
      some (.tagHandle handle expansion, rest)
    else none
  let rest := blanks rest
  let rest := if nextIs '#' rest then rest.dropWhile (!isBreak ·.char) else rest
  if rest.head?.all (isBreak ·.char) then some (token, rest.drop 1) else none

end ThemedPage.Yaml
