import ThemedPage.Text.Unprintable

/-!
# Quoted Text

How messages and dumps show a text: between double quotes, on one line, with every
character that could not be told from its surroundings spelled out. The five named escapes
are those of the quote, the backslash, the null character, the tab and the two line ends;
other characters without a picture of their own, and marks that would be drawn onto their
neighbour, are given by their number in hexadecimal.
-/

namespace ThemedPage.Text

/-- The spelling of a character inside a quoted text. -/
def escape (c : Char) : List Char :=
  if c = '\x22' then ['\\', '\x22']
  else if c = '\\' then ['\\', '\\']
  else if c = '\n' then ['\\', 'n']
  else if c = '\r' then ['\\', 'r']
  else if c = '\t' then ['\\', 't']
  else if c = '\x00' then ['\\', '0']
  else if isExtender c || isUnprintable c || isIgnorable c then
    ['\\', 'u', '\x7b'] ++ Nat.toDigits 16 c.toNat ++ ['\x7d']
  else [c]

/-- A text as messages and dumps show it. -/
def quote (s : String) : String :=
  String.ofList ('\x22' :: s.toList.flatMap escape ++ ['\x22'])

example : quote "say \"hi\"" = "\"say \\\"hi\\\"\"" := by decide

example : quote "\u200b" = "\"\\u\x7b200b\x7d\"" := by decide

end ThemedPage.Text
