import ThemedPage.Proofs.Readings
import ThemedPage.Proofs.TableGrowth

/-!
# Rows in Lists and in Texts

Rows that are added one after the other are refused if one of them has a bad name or another
mode than its theme has by then, in the table or in a row before. Whether all of them go in
is a matter of the set of rows alone, and so is what the table lists afterwards
(`addAll_eq_ok_iff`).

A text is read as a dictionary before its rows are added, and a theme that it lists twice is
listed with the mode of the later row. So a text can be accepted whose rows, one after the
other, are not: `addAll_eq_ok_iff_addYaml` says that this happens exactly when the text gives
two modes to one theme.

## Main results

* `addAll_eq_ok_iff` — which rows go in, and what is listed then;
* `addAll_congr` — neither order nor repetition matters;
* `addYaml_of_listed` — the rows of a text are added as a dictionary of them;
* `addAll_eq_ok_iff_addYaml` — rows one after the other and in a text.
-/

namespace ThemedPage

namespace ThemeTable

variable {t u : ThemeTable} {rows rows' : List (String × Mode)}

/-! ### Rows one after the other -/

/-- No name has two modes in some rows. -/
def OneMode (rows : List (String × Mode)) : Prop :=
  ∀ name mode mode', (name, mode) ∈ rows → (name, mode') ∈ rows → mode = mode'

/-- A table **admits** rows if their names are theme names and none of them would have two
modes among the rows and the table. -/
structure Admits (t : ThemeTable) (rows : List (String × Mode)) : Prop where
  /-- The names. -/
  names : ∀ row ∈ rows, isThemeName row.1
  /-- The modes within the rows. -/
  oneMode : OneMode rows
  /-- The modes in the table. -/
  listed : ∀ row ∈ rows, ∀ mode, t.get? row.1 = some mode → mode = row.2

/-- A table is the **union** of another and of rows. -/
def IsUnion (u t : ThemeTable) (rows : List (String × Mode)) : Prop :=
  ∀ name mode, u.get? name = some mode ↔ t.get? name = some mode ∨ (name, mode) ∈ rows

/-- There is one union at most of a table and rows. -/
theorem IsUnion.unique {v : ThemeTable} (hu : u.IsUnion t rows) (hv : v.IsUnion t rows) :
    u = v := by
  obtain ⟨d⟩ := u
  obtain ⟨e⟩ := v
  congr
  refine Dict.ext_get? fun name => Option.ext fun mode => ?_
  exact (hu name mode).trans (hv name mode).symm

/-- What is listed after a row went in was listed before or is the row. -/
theorem get?_add_cases {name other : String} {mode mode' : Mode} (h : t.add name mode = .ok u)
    (hu : u.get? other = some mode') :
    t.get? other = some mode' ∨ (other, mode') = (name, mode) := by
  obtain ⟨-, ⟨-, rfl⟩ | ⟨-, rfl⟩⟩ := add_eq_ok h
  · exact Or.inl hu
  · rw [get?, Dict.get?_insert] at hu
    split at hu
    · rename_i heq
      cases hu
      exact Or.inr (by rw [heq])
    · exact Or.inl hu

/-- Rows that are not refused lead to the union. -/
theorem isUnion_of_addAll (h : t.addAll rows = .ok u) : u.IsUnion t rows := by
  intro name mode
  constructor
  · intro hu
    induction rows generalizing t with
    | nil =>
        cases h
        exact Or.inl hu
    | cons row rows ih =>
        obtain ⟨s, hadd, hrest⟩ := addAll_cons_eq_ok h
        rcases ih hrest with hs | hrow
        · exact (get?_add_cases hadd hs).imp_right fun heq =>
            List.mem_cons.mpr (Or.inl heq)
        · exact Or.inr (List.mem_cons_of_mem row hrow)
  · rintro (ht | hrow)
    · exact (Grows.of_addAll h).get?_eq_some ht
    · exact get?_of_addAll h hrow

/-- Rows that are not refused are rows that the table admits. -/
theorem admits_of_addAll (h : t.addAll rows = .ok u) : t.Admits rows where
  names row hrow := by
    induction rows generalizing t with
    | nil => cases hrow
    | cons first rows ih =>
        obtain ⟨s, hadd, hrest⟩ := addAll_cons_eq_ok h
        rcases List.mem_cons.mp hrow with rfl | hrow
        · exact (add_eq_ok hadd).1
        · exact ih hrest hrow
  oneMode name mode mode' hrow hrow' :=
    Option.some.inj ((get?_of_addAll h hrow).symm.trans (get?_of_addAll h hrow'))
  listed row hrow mode ht :=
    Option.some.inj (((Grows.of_addAll h).get?_eq_some ht).symm.trans (get?_of_addAll h hrow))

/-- A row with a theme name goes in unless the theme is listed with the other mode. -/
theorem exists_add_eq_ok {name : String} {mode : Mode} (hname : isThemeName name)
    (hmode : ∀ mode', t.get? name = some mode' → mode' = mode) :
    ∃ s, t.add name mode = .ok s := by
  rw [add, if_pos hname]
  cases hget : t.get? name with
  | none => exact ⟨_, rfl⟩
  | some mode' => exact ⟨t, if_pos (hmode mode' hget)⟩

/-- Rows that the table admits are not refused. -/
theorem exists_addAll_eq_ok (h : t.Admits rows) : ∃ u, t.addAll rows = .ok u := by
  induction rows generalizing t with
  | nil => exact ⟨t, rfl⟩
  | cons row rows ih =>
      obtain ⟨s, hadd⟩ := exists_add_eq_ok (h.names row List.mem_cons_self)
        (h.listed row List.mem_cons_self)
      have hs : s.Admits rows :=
        { names := fun r hr => h.names r (List.mem_cons_of_mem row hr)
          oneMode := fun name mode mode' hr hr' =>
            h.oneMode name mode mode' (List.mem_cons_of_mem row hr) (List.mem_cons_of_mem row hr')
          listed := fun r hr mode hmode => by
            rcases get?_add_cases hadd hmode with ht | heq
            · exact h.listed r (List.mem_cons_of_mem row hr) mode ht
            · exact h.oneMode r.1 mode r.2 (heq ▸ List.mem_cons_self)
                (List.mem_cons_of_mem row hr) }
      obtain ⟨u, hrest⟩ := ih hs
      refine ⟨u, ?_⟩
      rw [addAll, List.foldlM_cons, hadd]
      exact hrest

/-- **Which rows go in**: those that the table admits; and then it lists what it listed before
and the rows. -/
theorem addAll_eq_ok_iff : t.addAll rows = .ok u ↔ t.Admits rows ∧ u.IsUnion t rows := by
  constructor
  · exact fun h => ⟨admits_of_addAll h, isUnion_of_addAll h⟩
  · rintro ⟨hadmits, hunion⟩
    obtain ⟨v, hv⟩ := exists_addAll_eq_ok hadmits
    rw [hv, hunion.unique (isUnion_of_addAll hv)]

/-- What admits rows admits fewer. -/
theorem Admits.of_subset (h : t.Admits rows) (hsub : ∀ row ∈ rows', row ∈ rows) :
    t.Admits rows' where
  names row hrow := h.names row (hsub row hrow)
  oneMode name mode mode' hrow hrow' :=
    h.oneMode name mode mode' (hsub _ hrow) (hsub _ hrow')
  listed row hrow := h.listed row (hsub row hrow)

/-- Neither the order of rows nor their repetition matters for what they make of a table. -/
theorem addAll_congr (h : ∀ row, row ∈ rows ↔ row ∈ rows') :
    t.addAll rows = .ok u ↔ t.addAll rows' = .ok u := by
  have hadmits : t.Admits rows ↔ t.Admits rows' :=
    ⟨fun ha => ha.of_subset fun row => (h row).mpr, fun ha => ha.of_subset fun row => (h row).mp⟩
  rw [addAll_eq_ok_iff, addAll_eq_ok_iff, hadmits]
  simp only [IsUnion, h]

/-! ### Rows in a dictionary -/

/-- The last row of a name counts. -/
theorem get?_insertAll {α : Type} (d : Dict α) (rows : List (String × α)) (name : String) :
    (d.insertAll rows).get? name =
      ((rows.filter (·.1 = name)).getLast?.map (·.2)).or (d.get? name) := by
  induction rows generalizing d with
  | nil => rfl
  | cons row rows ih =>
      rw [Dict.insertAll_cons, ih, Dict.get?_insert]
      by_cases hname : row.1 = name
      · rw [if_pos hname, List.filter_cons_of_pos (by simpa using hname), List.getLast?_cons]
        cases (rows.filter (·.1 = name)).getLast? <;> rfl
      · rw [if_neg hname, List.filter_cons_of_neg (by simpa using hname)]

/-- Where no name has two modes, a dictionary of rows lists the rows. -/
theorem mem_entries_ofList_iff (h : OneMode rows) (row : String × Mode) :
    row ∈ (Dict.ofList rows).entries ↔ row ∈ rows := by
  obtain ⟨name, mode⟩ := row
  have hlast : ∀ last, (rows.filter (·.1 = name)).getLast? = some last →
      last.1 = name ∧ last ∈ rows := by
    intro last hl
    have := List.mem_filter.mp (List.mem_of_getLast? hl)
    exact ⟨by simpa using this.2, this.1⟩
  rw [Dict.mem_entries_iff, Dict.ofList, get?_insertAll, Dict.get?_empty, Option.or_none]
  constructor
  · intro hget
    obtain ⟨last, hl, rfl⟩ := Option.map_eq_some_iff.mp hget
    obtain ⟨rfl, hmem⟩ := hlast last hl
    exact hmem
  · intro hrow
    have hne : rows.filter (·.1 = name) ≠ [] :=
      List.ne_nil_of_mem (List.mem_filter.mpr ⟨hrow, by simp⟩)
    obtain ⟨last, hl⟩ := Option.ne_none_iff_exists'.mp (mt List.getLast?_eq_none_iff.mp hne)
    obtain ⟨rfl, hmem⟩ := hlast last hl
    rw [hl, Option.map_some]
    exact congrArg some (h _ _ _ hmem hrow)

/-- Rows go in one after the other exactly if they go in as a dictionary and no name has two
modes among them. -/
theorem addAll_eq_ok_iff_entries : t.addAll rows = .ok u ↔
    t.addAll (Dict.ofList rows).entries = .ok u ∧ OneMode rows := by
  constructor
  · intro h
    have honeMode : OneMode rows := (admits_of_addAll h).oneMode
    exact ⟨(addAll_congr fun row => (mem_entries_ofList_iff honeMode row).symm).mp h, honeMode⟩
  · rintro ⟨h, honeMode⟩
    exact (addAll_congr (mem_entries_ofList_iff honeMode)).mp h

/-! ### Rows in a text -/

/-- The rows that a text **lists**, in order: its document is a mapping, whose keys are scalars
and whose values choose a mode. A blank text is not read at all and lists none. -/
def listed? (text : String) : Option (List (String × Mode)) :=
  if Text.allBlank text then none
  else do
    let d ← Yaml.Document.ofText? text
    match ← d.root with
    | .mapping _ entries =>
      Yaml.Reading.rows? d (fun n => (d.behind? n).bind (Yaml.Node.chosen? Mode.choices)) entries
    | _ => none

/-- The rows of a text are added as a dictionary of them. -/
theorem addYaml_of_listed {text : String} (h : listed? text = some rows) :
    t.addYaml text = t.addAll (Dict.ofList rows).entries := by
  rw [listed?] at h
  split at h
  · cases h
  · rename_i hblank
    obtain ⟨d, htext, h⟩ := Option.bind_eq_some_iff.mp h
    obtain ⟨n, hroot, h⟩ := Option.bind_eq_some_iff.mp h
    cases n with
    | mapping p entries =>
        have hdict : (readRows d [] (.mapping p entries)).Gives (some (Dict.ofList rows))
            ((1 + 1) * entries.length + 1) := by
          simp only at h
          rw [← Option.map_some, ← h]
          refine Yaml.Reading.gives_dict
            (fun path n => Yaml.Reading.gives_choice d path Mode.choices n) [] fun es hes => ?_
          cases hes
          exact Nat.le_refl _
        have hk : (1 + 1) * entries.length + 1 ≤ Yaml.repeatLimit * d.size := by
          have hsize := Yaml.Node.two_mul_length_le_size p entries
          rw [Yaml.Document.size, hroot, Option.map_some, Option.getD_some, Yaml.repeatLimit]
          omega
        have hread : (Yaml.readText text (pure Dict.empty) fun d => readRows d []).toOption =
            some (Dict.ofList rows) :=
          Yaml.readText_of_gives htext hroot hdict hk
        rw [addYaml, if_neg hblank]
        cases hr : Yaml.readText text (pure Dict.empty) fun d => readRows d [] with
        | error e => rw [hr] at hread; cases hread
        | ok dict =>
            rw [hr] at hread
            rw [Option.some.inj hread]
    | scalar p plain s => cases h
    | sequence p items => cases h
    | «alias» mark id => cases h

/-- **Rows one after the other and in a text.** Adding the rows that a text lists one after the
other and adding the text come to the same table, except where the text gives two modes to one
theme: then the rows are refused and the text may not be, as the last row of the theme counts.
Either way what was listed before stays as it was. -/
theorem addAll_eq_ok_iff_addYaml (t : ThemeTable) {text : String} {rows : List (String × Mode)}
    (h : listed? text = some rows) :
    t.addYaml text = t.addAll (Dict.ofList rows).entries ∧
      (∀ u, t.addAll rows = .ok u ↔ t.addYaml text = .ok u ∧ OneMode rows) ∧
      ∀ u, t.addYaml text = .ok u → ∀ name mode, t.get? name = some mode →
        u.get? name = some mode := by
  have htext : t.addYaml text = t.addAll (Dict.ofList rows).entries := addYaml_of_listed h
  refine ⟨htext, fun u => ?_, fun u hu name mode => (Grows.of_addYaml hu).get?_eq_some⟩
  rw [htext]
  exact addAll_eq_ok_iff_entries

/-- A text of two new themes, one of them listed twice with one mode. -/
theorem nord_and_dawn_added :
    let rows : List (String × Mode) := [("nord", .dark), ("dawn", .light), ("nord", .dark)]
    listed? "nord: dark\ndawn: light\nnord: dark" = some rows ∧
      ∀ u, common.addAll rows = .ok u ↔
        common.addYaml "nord: dark\ndawn: light\nnord: dark" = .ok u := by
  intro rows
  have hlisted : listed? "nord: dark\ndawn: light\nnord: dark" = some rows := by decide +kernel
  have honeMode : OneMode rows := by
    intro name mode mode' h h'
    simp only [rows, List.mem_cons, List.not_mem_nil, or_false, Prod.mk.injEq] at h h'
    grind
  refine ⟨hlisted, fun u => ?_⟩
  rw [(addAll_eq_ok_iff_addYaml common hlisted).2.1 u, and_iff_left honeMode]

/-- A text that gives two modes to a common theme and is accepted, though its rows are not. -/
theorem coal_twice_accepted :
    let rows : List (String × Mode) := [("coal", .light), ("coal", .dark)]
    listed? "coal: light\ncoal: dark" = some rows ∧
      common.addAll rows = .error (.otherMode "coal" .dark .light) ∧
      common.addYaml "coal: light\ncoal: dark" = .ok common := by
  intro rows
  have hlisted : listed? "coal: light\ncoal: dark" = some rows := by decide +kernel
  refine ⟨hlisted, rfl, ?_⟩
  rw [addYaml_of_listed hlisted]
  rfl

end ThemeTable

end ThemedPage
