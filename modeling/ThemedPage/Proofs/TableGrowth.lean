import Mathlib.Data.List.Nodup
import ThemedPage.ThemeTable.Reading

/-!
# How Theme Tables Grow

Rows reach a theme table one by one, in a list or in a YAML text, and each of these
**operations** can be refused. Whatever is done to a table, it comes down to one thing: rows
of theme names that were not listed yet are put in. This is the relation `Grows`, and
everything below is read off it, never off the operations themselves.

## Main results

* `Grows.of_add`, `Grows.of_addAll`, `Grows.of_addYaml` — operations that are not refused
  make a table grow;
* `Grows.get?_eq_some` — a table that grows keeps its rows;
* `Grows.wellNamed` — if it lists theme names only, so does what it grows into;
* `sound_after` — the laws of the tables that are made from the common table or from none.
-/

namespace ThemedPage.ThemeTable

variable {s t u : ThemeTable}

/-! ### Names and rows -/

/-- A theme name has characters, none of which is blank or in upper case. -/
theorem isThemeName_iff {name : String} :
    isThemeName name ↔
      name ≠ "" ∧ ∀ c ∈ name.toList, ¬Text.isBlank c ∧ ¬Text.isUpper c := by
  simp [isThemeName]

/-- A table lists the names that its rows have. -/
theorem contains_iff {name : String} :
    t.contains name ↔ ∃ mode, (name, mode) ∈ t.rows.entries := by
  simp only [contains, Dict.contains_eq, Option.isSome_iff_exists, Dict.mem_entries_iff]

/-- No name has two rows. -/
theorem count_names (t : ThemeTable) (name : String) :
    (t.rows.entries.map Prod.fst).count name = if t.contains name then 1 else 0 := by
  have hnodup : (t.rows.entries.map Prod.fst).Nodup :=
    List.pairwise_map.mpr (t.rows.ordered.imp String.ne_of_lt)
  rw [hnodup.count]
  exact if_congr (by simp [contains_iff]) rfl rfl

/-- A name resolves to the mode of its row, and to the fallback if it has none. -/
theorem resolve_eq_iff {name : String} {mode : Mode} :
    t.resolve name = mode ↔
      (name, mode) ∈ t.rows.entries ∨ ¬t.contains name ∧ mode = Mode.fallback := by
  rw [Dict.mem_entries_iff]
  cases h : t.rows.get? name <;> simp [resolve, contains, Dict.contains, get?, h, eq_comm]

/-! ### Growth -/

/-- A table **grows** into another by rows of theme names that it does not list. -/
inductive Grows (t : ThemeTable) : ThemeTable → Prop where
  /-- Nothing happens. -/
  | refl : Grows t t
  /-- A name that is not listed yet gets a row. -/
  | insert {u : ThemeTable} {name : String} (mode : Mode) (hname : isThemeName name)
      (hnew : u.get? name = none) (h : Grows t u) : Grows t ⟨u.rows.insert name mode⟩

/-- A table is **well named** if it lists theme names only. -/
def WellNamed (t : ThemeTable) : Prop := ∀ name, t.contains name → isThemeName name

/-- The empty table lists nothing, and so theme names only. -/
theorem wellNamed_empty : empty.WellNamed := fun _ h => nomatch h

namespace Grows

/-- A table that grows into one that grows further grows into the last. -/
theorem trans (hst : Grows s t) (htu : Grows t u) : Grows s u := by
  induction htu with
  | refl => exact hst
  | insert mode hname hnew _ ih => exact ih.insert mode hname hnew

/-- **Rows stay.** -/
theorem get?_eq_some (h : Grows t u) {name : String} {mode : Mode}
    (ht : t.get? name = some mode) : u.get? name = some mode := by
  induction h with
  | refl => exact ht
  | @insert u new m _ hnew _ ih =>
      -- A row that is there already is not one of a new name.
      have hne : new ≠ name := by
        rintro rfl
        rw [ih] at hnew
        cases hnew
      rw [get?, Dict.get?_insert_of_ne _ hne]
      exact ih

/-- A table that grows keeps its rows. -/
theorem mem_entries (h : Grows t u) {row : String × Mode} (hrow : row ∈ t.rows.entries) :
    row ∈ u.rows.entries :=
  (Dict.mem_entries_iff ..).mpr (h.get?_eq_some ((Dict.mem_entries_iff ..).mp hrow))

/-- A well-named table stays so when it grows. -/
theorem wellNamed (h : Grows t u) (ht : t.WellNamed) : u.WellNamed := by
  induction h with
  | refl => exact ht
  | @insert u new m hname _ _ ih =>
      intro name hlisted
      rw [contains, Dict.contains_eq, Dict.get?_insert] at hlisted
      split at hlisted
      · rename_i heq
        exact heq ▸ hname
      · exact ih name hlisted

end Grows

/-! ### Operations that are not refused -/

/-- A row that is not refused has a theme name, is listed afterwards, and either was listed
before or is the only thing that is new. -/
theorem add_eq_ok {name : String} {mode : Mode} (h : t.add name mode = .ok u) :
    isThemeName name ∧
      (t.get? name = some mode ∧ u = t ∨
        t.get? name = none ∧ u = ⟨t.rows.insert name mode⟩) := by
  unfold add at h
  split at h
  · rename_i hname
    refine ⟨hname, ?_⟩
    split at h
    · rename_i hnew
      cases h
      exact Or.inr ⟨hnew, rfl⟩
    · rename_i present hpresent
      split at h
      · rename_i hmode
        cases h
        exact Or.inl ⟨hmode ▸ hpresent, rfl⟩
      · cases h
  · cases h

/-- A row that is added is found under its name. -/
theorem get?_of_add {name : String} {mode : Mode} (h : t.add name mode = .ok u) :
    u.get? name = some mode := by
  obtain ⟨-, ⟨hlisted, rfl⟩ | ⟨-, rfl⟩⟩ := add_eq_ok h
  · exact hlisted
  · exact Dict.get?_insert_self ..

/-- The first row of a list goes in, and then the others. -/
theorem addAll_cons_eq_ok {row : String × Mode} {rows : List (String × Mode)}
    (h : t.addAll (row :: rows) = .ok u) :
    ∃ s, t.add row.1 row.2 = .ok s ∧ s.addAll rows = .ok u := by
  rw [addAll, List.foldlM_cons] at h
  cases hadd : t.add row.1 row.2 with
  | error e =>
      rw [hadd] at h
      cases h
  | ok s =>
      rw [hadd] at h
      exact ⟨s, rfl, h⟩

namespace Grows

/-- A table grows by a row that is not refused. -/
theorem of_add {name : String} {mode : Mode} (h : t.add name mode = .ok u) : Grows t u := by
  obtain ⟨hname, ⟨-, rfl⟩ | ⟨hnew, rfl⟩⟩ := add_eq_ok h
  · exact refl
  · exact insert mode hname hnew refl

/-- A table grows by rows that are not refused. -/
theorem of_addAll {rows : List (String × Mode)} (h : t.addAll rows = .ok u) : Grows t u := by
  induction rows generalizing t with
  | nil =>
      cases h
      exact refl
  | cons row rows ih =>
      obtain ⟨s, hadd, hrest⟩ := addAll_cons_eq_ok h
      exact (of_add hadd).trans (ih hrest)

/-- A table grows by a text that is not refused. -/
theorem of_addYaml {text : String} (h : t.addYaml text = .ok u) : Grows t u := by
  unfold addYaml at h
  split at h
  · cases h
    exact refl
  · split at h
    · exact of_addAll h
    · cases h

end Grows

/-- Rows that are not refused are listed afterwards. -/
theorem get?_of_addAll {rows : List (String × Mode)} (h : t.addAll rows = .ok u)
    {row : String × Mode} (hrow : row ∈ rows) : u.get? row.1 = some row.2 := by
  induction rows generalizing t with
  | nil => cases hrow
  | cons first rows ih =>
      obtain ⟨s, hadd, hrest⟩ := addAll_cons_eq_ok h
      rcases List.mem_cons.mp hrow with rfl | hrow
      · exact (Grows.of_addAll hrest).get?_eq_some (get?_of_add hadd)
      · exact ih hrest hrow

/-- The common table is what the common rows make of the empty one. -/
theorem addAll_commonRows : empty.addAll commonRows = .ok common := by
  rfl

/-! ### Runs of operations -/

/-- What can be done to a theme table. -/
inductive Operation where
  /-- One row is added. -/
  | add (name : String) (mode : Mode)
  /-- Rows are added one after the other. -/
  | addAll (rows : List (String × Mode))
  /-- The rows of a YAML text are added. -/
  | addYaml (text : String)

/-- What an operation makes of a table, if it is not refused. -/
def Operation.apply (t : ThemeTable) : Operation → Except SetupError ThemeTable
  | add name mode => t.add name mode
  | addAll rows => t.addAll rows
  | addYaml text => t.addYaml text

/-- The table one goes on with: after a refusal it is the one from before. -/
def proceed (t : ThemeTable) (op : Operation) : ThemeTable :=
  match op.apply t with
  | .ok u => u
  | .error _ => t

/-- The table **after** some operations, of which any may be refused. -/
def after (t : ThemeTable) (ops : List Operation) : ThemeTable := ops.foldl proceed t

/-- A table grows by an operation that is not refused. -/
theorem Grows.of_apply {op : Operation} (h : op.apply t = .ok u) : Grows t u := by
  cases op with
  | add name mode => exact of_add h
  | addAll rows => exact of_addAll h
  | addYaml text => exact of_addYaml h

/-- A table grows by an operation, refused or not. -/
theorem Grows.proceed (t : ThemeTable) (op : Operation) : Grows t (t.proceed op) := by
  unfold ThemeTable.proceed
  split
  · rename_i happly
    exact of_apply happly
  · exact refl

/-- **Whatever is done to a table, it grows.** -/
theorem Grows.after (t : ThemeTable) (ops : List Operation) : Grows t (t.after ops) := by
  induction ops generalizing t with
  | nil => exact refl
  | cons op ops ih => exact (Grows.proceed t op).trans (ih (t.proceed op))

/-! ### What holds of every table -/

/-- The **laws of a theme table**, of the names it lists and of the answers it gives. -/
structure Sound (t : ThemeTable) : Prop where
  /-- Listed names are not empty and have neither blank nor upper-case characters. -/
  listed : ∀ name, t.contains name →
    name ≠ "" ∧ ∀ c ∈ name.toList, ¬Text.isBlank c ∧ ¬Text.isUpper c
  /-- What is no theme name is dark. -/
  unlisted : ∀ name, (name = "" ∨ ∃ c ∈ name.toList, Text.isBlank c ∨ Text.isUpper c) →
    t.resolve name = .dark
  /-- The rows are in order of name, by code points. -/
  increasing : t.rows.entries.Pairwise fun d e => d.1 < e.1
  /-- Every listed name has one row, and no other name has any. -/
  once : ∀ name, (t.rows.entries.map Prod.fst).count name = if t.contains name then 1 else 0
  /-- The size is the number of rows. -/
  size_eq : t.size = t.rows.entries.length
  /-- Look-ups find the rows. -/
  get?_iff : ∀ name mode, t.get? name = some mode ↔ (name, mode) ∈ t.rows.entries
  /-- The names listed are those of the rows. -/
  contains_iff : ∀ name, t.contains name ↔ ∃ mode, (name, mode) ∈ t.rows.entries
  /-- A name resolves to the mode of its row, and without a row to dark. -/
  resolve_iff : ∀ name mode, t.resolve name = mode ↔
    (name, mode) ∈ t.rows.entries ∨ ¬t.contains name ∧ mode = .dark

/-- Good names are all it takes: the rest lies in how rows are kept. -/
theorem WellNamed.sound (h : t.WellNamed) : t.Sound where
  listed name hlisted := isThemeName_iff.mp (h name hlisted)
  unlisted name hname := by
    refine resolve_eq_iff.mpr (Or.inr ⟨fun hlisted => ?_, rfl⟩)
    obtain ⟨hne, hchars⟩ := isThemeName_iff.mp (h name hlisted)
    rcases hname with rfl | ⟨c, hc, hblank | hupper⟩
    · exact hne rfl
    · exact (hchars c hc).1 hblank
    · exact (hchars c hc).2 hupper
  increasing := t.rows.ordered
  once := t.count_names
  size_eq := rfl
  get?_iff name mode := (t.rows.mem_entries_iff name mode).symm
  contains_iff _ := contains_iff
  resolve_iff _ _ := resolve_eq_iff

/-- A table of the common themes or of none grows out of the empty one. -/
theorem Grows.of_start (h : t = common ∨ t = empty) : Grows empty t := by
  rcases h with rfl | rfl
  · exact of_addAll addAll_commonRows
  · exact refl

/-- **Theme tables are sound and only grow.** Take the table of the common themes or the one
without any, do some operations, and then some more. After the first the laws of a theme
table hold; after the others all its rows are still there, and what it listed resolves to the
same mode. If the common rows were there in the beginning, they are never lost. -/
theorem sound_after {start : ThemeTable} (hstart : start = common ∨ start = empty)
    (earlier later : List Operation) :
    let t := start.after earlier
    let u := t.after later
    t.Sound ∧
      (∀ row ∈ t.rows.entries, row ∈ u.rows.entries) ∧
      (∀ name, t.contains name → u.resolve name = t.resolve name) ∧
      (start = common → ∀ row ∈ commonRows, row ∈ t.rows.entries) := by
  intro t u
  have hstarted : Grows empty start := Grows.of_start hstart
  have hearlier : Grows start t := Grows.after start earlier
  have hlater : Grows t u := Grows.after t later
  have ht : t.WellNamed := (hstarted.trans hearlier).wellNamed wellNamed_empty
  refine ⟨ht.sound, fun _ => hlater.mem_entries, fun name hlisted => ?_, ?_⟩
  · obtain ⟨mode, hrow⟩ := contains_iff.mp hlisted
    rw [resolve_eq_iff.mpr (Or.inl hrow), resolve_eq_iff.mpr (Or.inl (hlater.mem_entries hrow))]
  · rintro rfl row hrow
    refine hearlier.mem_entries ((Dict.mem_entries_iff ..).mpr ?_)
    exact get?_of_addAll addAll_commonRows hrow

/-- After a refused name and a new theme, a text cannot make the new theme a dark one. -/
theorem common_sound_after :
    let t := common.after [.add "Nord" .dark, .add "nord" .light, .addAll [("latte", .dark)]]
    t.resolve "nord" = .light ∧ t.resolve "latte" = .light ∧ t.resolve "Nord" = .dark ∧
      (t.after [.addYaml "nord: dark"]).resolve "nord" = .light := by
  intro t
  have h := sound_after (Or.inl rfl) [.add "Nord" .dark, .add "nord" .light,
    .addAll [("latte", .dark)]] [.addYaml "nord: dark"]
  have hnord : t.contains "nord" := by decide
  have hlight : t.resolve "nord" = .light := by decide
  exact ⟨hlight, by decide, by decide, (h.2.2.1 "nord" hnord).trans hlight⟩

end ThemedPage.ThemeTable
