import ThemedPage.Decimal.Shortest

/-!
# What Plain Text Means

A plain scalar without a tag is null, a truth value, an integer or a floating-point number
if it is spelled like one, and text otherwise. Where text is wanted the spelling does not
matter; where something else is wanted, messages say what the scalar means.

Digits behind a leading zero are text, so that `007` is no number. Integers may have a sign
and one of the bases marked by `0x`, `0o` and `0b`, and have up to 128 bits.
-/

namespace ThemedPage.Yaml

/-- What the text of a plain scalar means. -/
inductive PlainMeaning where
  /-- Null, which no text at all means too. -/
  | null
  /-- A truth value. -/
  | boolean (value : Bool)
  /-- An integer. -/
  | integer (value : Int)
  /-- A floating-point number. -/
  | float (value : Decimal.Binary64)
  /-- Text. -/
  | text

/-- Whether a text spells null. -/
def spellsNull (s : String) : Bool :=
  s = "null" || s = "Null" || s = "NULL" || s = "~"

/-- The truth value that a text spells. -/
def boolean? (s : String) : Option Bool :=
  if s = "true" || s = "True" || s = "TRUE" then some true
  else if s = "false" || s = "False" || s = "FALSE" then some false
  else none

/-! ### Integers -/

/-- The value of a digit of any base up to sixteen. -/
def digit? (c : Char) : Option Nat :=
  if '0' ≤ c && c ≤ '9' then some (c.toNat - '0'.toNat)
  else if 'a' ≤ c && c ≤ 'f' then some (c.toNat - 'a'.toNat + 10)
  else if 'A' ≤ c && c ≤ 'F' then some (c.toNat - 'A'.toNat + 10)
  else none

/-- The number that digits of a base denote, of which there must be one at least. -/
def natural? (base : Nat) (cs : List Char) : Option Nat :=
  if cs.isEmpty then none
  else
    cs.foldlM
      (fun n c => (digit? c).bind fun d => if d < base then some (base * n + d) else none) 0

/-- Takes one sign off a text. -/
def unsigned : List Char → List Char
  | '+' :: cs => cs
  | '-' :: cs => cs
  | cs => cs

/-- Whether a text is a zero with more digits behind it. -/
def isZeroPadded (cs : List Char) : Bool :=
  match unsigned cs with
  | '0' :: c :: ds => (c :: ds).all Char.isDigit
  | _ => false

/-- The number that digits with a mark of their base denote. -/
def based? : List Char → Option Nat
  | '0' :: 'x' :: cs => natural? 16 cs
  | '0' :: 'o' :: cs => natural? 8 cs
  | '0' :: 'b' :: cs => natural? 2 cs
  | _ => none

/-- The integer that a text spells, if it has at most 128 bits. -/
def integer? (cs : List Char) : Option Int :=
  let magnitude? := (based? (unsigned cs)).or
    (if isZeroPadded cs then none else natural? 10 (unsigned cs))
  match cs with
  | '-' :: _ => (magnitude?.filter (· ≤ Nat.pow 2 127)).map fun n => -(n : Int)
  | _ => (magnitude?.filter (· < Nat.pow 2 128)).map fun n => (n : Int)

/-! ### Floating-point numbers -/

/-- The power of ten that an exponent part adds; no exponent part adds none. -/
def exponent? : List Char → Option Int
  | [] => some 0
  | c :: cs =>
    if c = 'e' || c = 'E' then
      match cs with
      | '-' :: ds => (natural? 10 ds).map fun n => -(n : Int)
      | _ => (natural? 10 (if cs.head? = some '+' then cs.drop 1 else cs)).map fun n => (n : Int)
    else none

/-- The magnitude nearest to a numeral with digits on at least one side of an optional point
and an optional exponent part. -/
def magnitude? (cs : List Char) : Option Decimal.Magnitude := do
  let whole := cs.takeWhile Char.isDigit
  let rest := cs.dropWhile Char.isDigit
  let (places, rest) :=
    match rest with
    | '.' :: rest => (rest.takeWhile Char.isDigit, rest.dropWhile Char.isDigit)
    | _ => ([], rest)
  let digits ← natural? 10 (whole ++ places)
  Decimal.Magnitude.nearest? digits ((← exponent? rest) - places.length)

/-- The floating-point number that a text spells. Numerals beyond the largest finite number
spell none. -/
def float? (s : String) : Option Decimal.Binary64 :=
  let infinities := [".inf", ".Inf", ".INF"]
  let cs := s.toList
  if infinities.any fun i => s = i || s = "+" ++ i then some (.infinite false)
  else if infinities.any fun i => s = "-" ++ i then some (.infinite true)
  else if s = ".nan" || s = ".NaN" || s = ".NAN" then some .notANumber
  else (magnitude? (unsigned cs)).map (.finite (cs.head? = some '-'))

/-! ### The meaning of a text -/

/-- What the text of a plain scalar without a tag means. -/
def plainMeaning (s : String) : PlainMeaning :=
  if s.isEmpty || spellsNull s then .null
  else
    match boolean? s, integer? s.toList with
    | some b, _ => .boolean b
    | none, some n => .integer n
    | none, none =>
      if isZeroPadded s.toList then .text
      else
        match float? s with
        | some x => .float x
        | none => .text

end ThemedPage.Yaml
