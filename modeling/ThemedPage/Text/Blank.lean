import ThemedPage.Text.Runs

/-!
# Blanks and Words

Blank characters are those of the Unicode property `White_Space`. Words are the maximal
runs of other characters; `words` lists them in order, and a text is blank if it has none.
-/

namespace ThemedPage.Text

/-- The code points of the property `White_Space`. -/
def blankRuns : Runs :=
  [(0x09, 0x0D, 1), (0x20, 0x20, 1), (0x85, 0x85, 1), (0xA0, 0xA0, 1), (0x1680, 0x1680, 1),
   (0x2000, 0x200A, 1), (0x2028, 0x2029, 1), (0x202F, 0x202F, 1), (0x205F, 0x205F, 1),
   (0x3000, 0x3000, 1)]

/-- A **blank** character has the property `White_Space`. -/
def isBlank (c : Char) : Bool := inRuns c.toNat blankRuns

/-- The **words** of a text: its maximal runs of characters that are not blank, in order. -/
def words : List Char → List (List Char)
  | [] => []
  | c :: cs =>
    if isBlank c then words cs
    else if cs.head?.all isBlank then [c] :: words cs
    else
      match words cs with
      | w :: ws => (c :: w) :: ws
      | [] => [[c]]

/-- A text is **blank** if all its characters are. -/
def allBlank (s : String) : Bool := s.toList.all isBlank

@[simp] theorem words_nil : words [] = [] := rfl

/-- Leading blanks are no part of any word. -/
theorem words_cons_of_isBlank {c : Char} (h : isBlank c) (cs : List Char) :
    words (c :: cs) = words cs := by
  simp [words, h]

end ThemedPage.Text
