import ThemedPage.Proofs.ClassLists
import ThemedPage.Proofs.Placeholders
import ThemedPage.Synchronizer

/-!
# The Mode of a Page

Which mode a page is in and what a template looks like in it is said here without the functions
that find it out. The value of the theme's attribute **names** a theme: itself, or the first of its
classes that the table lists. The theme **belongs** to a mode, by its row or, without a row, to the
dark one. And a source is a **variant** of a template in a mode if it is made of the template's
pieces, with the word of the mode where the placeholders were.

What a synchronizer does to a page is stated against these relations: an image displays a mode if
its source is the variant of its template. Each of them leaves one choice, the one that the
searching functions make.

## Main definitions and results

* `ThemeTable.names_iff`, `ThemeTable.belongs_iff` — the theme in a value and the mode of a theme;
* `Synchronizer.themeOf_iff`, `Synchronizer.inMode_iff` — the theme and the mode of a page;
* `Template.resolve_eq_some_iff_isVariant` — the variants of a template that holds a placeholder;
* `Synchronizer.Displays`, `Synchronizer.Shows` — images in a mode, as they were authored.
-/

namespace ThemedPage

/-! ### Themes and their modes -/

namespace ThemeTable

variable {t : ThemeTable} {value theme : String} {m : Mode}

/-- A value **names** a theme in one of the ways of matching. -/
inductive Names (t : ThemeTable) (value : String) : Matching → String → Prop where
  /-- The whole value is the theme, whether it is listed or not. -/
  | whole : Names t value .whole value
  /-- The first class that is listed is the theme. -/
  | leads {theme : String} (h : t.Leads value theme) : Names t value .classList theme
  /-- If no class is listed, the theme is the one without a name. -/
  | free (h : t.Free value.toList) : Names t value .classList ""

/-- The search for the theme in a value finds the one that is named. -/
theorem names_iff {how : Matching} : t.Names value how theme ↔ how.token value t = theme := by
  constructor
  · intro h
    cases h with
    | whole => rfl
    | leads hleads => exact token_of_leads hleads
    | free hfree => exact token_of_free hfree
  · rintro rfl
    cases how with
    | whole => exact .whole
    | classList =>
        rcases leads_or_free t value with ⟨name, hleads⟩ | hfree
        · rw [token_of_leads hleads]
          exact .leads hleads
        · rw [token_of_free hfree]
          exact .free hfree

/-- A theme **belongs** to the mode of its row, and to the dark one if it has none. -/
inductive Belongs (t : ThemeTable) (theme : String) : Mode → Prop where
  /-- The theme has a row. -/
  | listed {m : Mode} (h : (theme, m) ∈ t.rows.entries) : Belongs t theme m
  /-- The theme has no row. -/
  | unlisted (h : ∀ m, (theme, m) ∉ t.rows.entries) : Belongs t theme .dark

/-- A theme resolves to the mode that it belongs to. -/
theorem belongs_iff : t.Belongs theme m ↔ t.resolve theme = m := by
  rw [resolve_eq_iff, contains_iff, not_exists]
  constructor
  · intro h
    cases h with
    | listed hrow => exact .inl hrow
    | unlisted hnone => exact .inr ⟨hnone, rfl⟩
  · rintro (hrow | ⟨hnone, rfl⟩)
    · exact .listed hrow
    · exact .unlisted hnone

end ThemeTable

namespace Synchronizer

variable {s : Synchronizer} {p : Page} {theme : String} {m : Mode}

/-- The **theme of a root**, for a synchronizer. -/
inductive ThemeOf (s : Synchronizer) (root : Attributes) : String → Prop where
  /-- The attribute of the theme is there, and its value names the theme. -/
  | present {value theme : String} (hvalue : root.get? s.settings.themeAttribute = some value)
      (hnames : s.table.Names value s.settings.matching theme) : ThemeOf s root theme
  /-- Without the attribute the theme is the one without a name. -/
  | absent (h : root.get? s.settings.themeAttribute = none) : ThemeOf s root ""

/-- A missing attribute is read as an empty value, which names the theme without a name. -/
theorem names_empty (s : Synchronizer) : s.table.Names "" s.settings.matching "" := by
  cases s.settings.matching with
  | whole => exact .whole
  | classList => exact .free s.table.free_nil

/-- The token that a synchronizer reads off a page is the theme of its root. -/
theorem themeOf_iff : s.ThemeOf p.root theme ↔ s.token p = theme := by
  rw [token]
  constructor
  · intro h
    cases h with
    | present hvalue hnames => rwa [hvalue, Option.getD_some, ← ThemeTable.names_iff]
    | absent hnone =>
        rw [hnone, Option.getD_none, ← ThemeTable.names_iff]
        exact s.names_empty
  · rintro rfl
    cases hroot : p.root.get? s.settings.themeAttribute with
    | some value =>
        rw [Option.getD_some]
        exact .present hroot (ThemeTable.names_iff.mpr rfl)
    | none =>
        rw [Option.getD_none, ThemeTable.names_iff.mp s.names_empty]
        exact .absent hroot

/-- A root is **in a mode**, for a synchronizer, if its theme belongs to the mode. -/
def InMode (s : Synchronizer) (root : Attributes) (m : Mode) : Prop :=
  ∃ theme, s.ThemeOf root theme ∧ s.table.Belongs theme m

/-- **A page is in one mode**, which the theme that is read off it resolves to. -/
theorem inMode_iff : s.InMode p.root m ↔ m = s.resolve (s.token p) := by
  constructor
  · rintro ⟨theme, htheme, hm⟩
    rw [themeOf_iff.mp htheme, resolve, ThemeTable.belongs_iff.mp hm]
  · rintro rfl
    exact ⟨s.token p, themeOf_iff.mpr rfl, ThemeTable.belongs_iff.mpr rfl⟩

end Synchronizer

/-! ### Variants of templates -/

namespace Template

/-- A source is a **variant** of a template in a mode if it consists of the pieces of the template,
which hold no placeholder, with the word of the mode between them. -/
def IsVariant (m : Mode) (template source : String) : Prop :=
  ∃ ps, IsCut ps template.toList ∧ source.toList = m.word.toList.intercalate ps

/-- A template with a placeholder resolves to its variant and to nothing else. -/
theorem resolve_eq_some_iff_isVariant {t source : String} (h : placeholder <:+: t.toList)
    {m : Mode} : resolve ⟨t⟩ m = some source ↔ IsVariant m t source := by
  rw [resolve_eq_some_fill h, Option.some.injEq, fill_eq_intercalate]
  constructor
  · rintro rfl
    exact ⟨pieces t.toList, isCut_iff.mpr rfl, String.toList_ofList⟩
  · rintro ⟨ps, hps, hsource⟩
    rw [← isCut_iff.mp hps, ← hsource, String.ofList_toList]

/-- A template with a placeholder has a variant in every mode, to which it resolves. -/
theorem exists_variant {t : String} (h : placeholder <:+: t.toList) (m : Mode) :
    ∃ source, resolve ⟨t⟩ m = some source ∧ IsVariant m t source := by
  have hsource := resolve_eq_some_fill (t := ⟨t⟩) h m
  exact ⟨_, hsource, (resolve_eq_some_iff_isVariant h).mp hsource⟩

end Template

/-! ### Images in a mode -/

namespace Synchronizer

/-- An image **displays** a mode, as it was authored: its template is the authored one or
else the authored source, and if that holds the placeholder, the source is its variant in the
mode. Of the other attributes nothing is said. -/
structure Displays (s : Synchronizer) (m : Mode) (authored image : Attributes) : Prop where
  /-- The template. -/
  template : image.get? s.settings.templateAttribute =
    (authored.get? s.settings.templateAttribute).or
      (authored.get? s.settings.sourceAttribute)
  /-- The source of an image whose template holds the placeholder. -/
  themed : ∀ t, image.get? s.settings.templateAttribute = some t →
    Template.placeholder <:+: t.toList →
    ∃ source, image.get? s.settings.sourceAttribute = some source ∧
      Template.IsVariant m t source

/-- An image **shows** a mode, as it was authored, if it displays it, has its authored source where
its template does not hold the placeholder, and all else as authored. -/
structure Shows (s : Synchronizer) (m : Mode) (authored image : Attributes) : Prop extends
    s.Displays m authored image where
  /-- The source of any other image. -/
  plain : (∀ t, image.get? s.settings.templateAttribute = some t →
    ¬Template.placeholder <:+: t.toList) →
    image.get? s.settings.sourceAttribute = authored.get? s.settings.sourceAttribute
  /-- All other attributes. -/
  others : ∀ name, name ≠ s.settings.templateAttribute → name ≠ s.settings.sourceAttribute →
    image.get? name = authored.get? name

end Synchronizer

end ThemedPage
