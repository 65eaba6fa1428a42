/-!
# Display Modes

Every theme belongs to one of two display modes, and images are published once for each
mode. The word of a mode is what ends up in an image's source, in settings and in log
entries.
-/

namespace ThemedPage

/-- The **display mode** of a theme: light or dark. -/
inductive Mode where
  /-- Light background, dark text. -/
  | light
  /-- Dark background, light text. -/
  | dark
  deriving DecidableEq

namespace Mode

/-- The **fallback**, for themes nobody has registered. -/
def fallback : Mode := dark

instance : Inhabited Mode := ⟨fallback⟩

/-- The word that stands for a mode in sources, settings and log entries. -/
def word : Mode → String
  | light => "light"
  | dark => "dark"

/-- Both modes, in the order in which messages list them. -/
def all : List Mode := [light, dark]

/-- The mode with a given word; case and surrounding blanks count. -/
def ofWord? (s : String) : Option Mode := all.find? (·.word = s)

@[simp] theorem ofWord?_word (m : Mode) : ofWord? m.word = some m := by
  cases m <;> rfl

/-- Reading a word succeeds on the two words alone. -/
theorem ofWord?_eq_some_iff {s : String} {m : Mode} : ofWord? s = some m ↔ s = m.word := by
  constructor
  · intro h
    have := List.find?_some h
    simp only [decide_eq_true_eq] at this
    exact this.symm
  · rintro rfl
    exact ofWord?_word m

end Mode

end ThemedPage
