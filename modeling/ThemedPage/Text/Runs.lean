/-!
# Tables of Code Points

A property of characters is written as a table of runs. A **run** `(first, last, step)`
holds every `step`-th code point from `first` to `last`, so that alphabets in which capital
and small letters alternate take one entry. Tables are written in increasing order, which
lets `inRuns` stop at the first run that begins beyond the code point.
All tables hold the properties as of Unicode 17.
-/

namespace ThemedPage.Text

/-- The table of a property: runs `(first, last, step)` in increasing order. -/
abbrev Runs := List (Nat × Nat × Nat)

/-- Whether a code point lies in one of the runs of a table. -/
def inRuns (n : Nat) : Runs → Bool
  | [] => false
  | (first, last, step) :: rs =>
    if n < first then false
    else n ≤ last && (n - first) % step == 0 || inRuns n rs

end ThemedPage.Text
