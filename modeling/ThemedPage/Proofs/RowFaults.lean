import ThemedPage.Proofs.TableRows

/-!
# The First Row at Fault

Rows go into a theme table one after the other, and the first row **at fault** stops them: its
name is no theme name, or its theme has the other mode, in the table or in a row before. Which
row that is depends on the order of the rows, as a row can be at fault only for what comes
before it; whether there is one at all does not (`addAll_congr`).

## Main results

* `add_eq_error_iff` — when a single row is refused, and for what;
* `addAll_eq_error_iff` — rows are refused for the first of them that is at fault;
* `addAll_entries_eq_error_iff` — and those of a dictionary for the smallest name at fault;
* `addAll_outcome` — which rows go in, what is listed then, and what they are refused for.
-/

namespace ThemedPage.ThemeTable

variable {t s u : ThemeTable} {rows earlier later : List (String × Mode)} {row : String × Mode}
  {e : SetupError}

/-! ### Faults of a row -/

/-- A row is **at fault** beside some rows: its name is no theme name, or else one of them has
its theme with another mode. -/
inductive AtFault (present : List (String × Mode)) : String × Mode → SetupError → Prop where
  /-- The name is to blame. -/
  | name {name : String} {mode : Mode} (hname : ¬isThemeName name) :
      AtFault present (name, mode) (.themeName name)
  /-- The mode is to blame. -/
  | mode {name : String} {existing mode : Mode} (hname : isThemeName name)
      (hpresent : (name, existing) ∈ present) (hne : existing ≠ mode) :
      AtFault present (name, mode) (.otherMode name existing mode)

/-- Only the set of the other rows matters. -/
theorem AtFault.congr {present present' : List (String × Mode)}
    (h : ∀ r, r ∈ present ↔ r ∈ present') :
    AtFault present row e ↔ AtFault present' row e := by
  constructor
  · rintro (hname | ⟨hname, hpresent, hne⟩)
    · exact .name hname
    · exact .mode hname ((h _).mp hpresent) hne
  · rintro (hname | ⟨hname, hpresent, hne⟩)
    · exact .name hname
    · exact .mode hname ((h _).mpr hpresent) hne

/-- **When a row is refused**: if it is at fault beside the rows of the table. -/
theorem add_eq_error_iff : t.add row.1 row.2 = .error e ↔ AtFault t.rows.entries row e := by
  obtain ⟨name, mode⟩ := row
  constructor
  · intro h
    unfold add at h
    split at h
    · rename_i hname
      split at h
      · cases h
      · rename_i existing hget
        split at h
        · cases h
        · rename_i hne
          cases h
          exact .mode hname ((Dict.mem_entries_iff ..).mpr hget) hne
    · rename_i hname
      cases h
      exact .name hname
  · rintro (hname | ⟨hname, hpresent, hne⟩)
    · exact if_neg hname
    · have hget : t.get? name = some _ := (Dict.mem_entries_iff ..).mp hpresent
      rw [add, if_pos hname, hget]
      exact if_neg hne

/-! ### Faults in a list of rows -/

/-- What the table lists behind some rows are its own rows and these. -/
theorem mem_entries_addAll (h : t.addAll rows = .ok u) (r : String × Mode) :
    r ∈ u.rows.entries ↔ r ∈ t.rows.entries ++ rows := by
  rw [List.mem_append, Dict.mem_entries_iff, Dict.mem_entries_iff]
  exact isUnion_of_addAll h r.1 r.2

/-- Rows and then others are added one list after the other. -/
theorem addAll_append (t : ThemeTable) (rows rows' : List (String × Mode)) :
    t.addAll (rows ++ rows') = (t.addAll rows).bind fun s => s.addAll rows' :=
  List.foldlM_append

/-- **What rows are refused for**: the first of them at fault, which is the one behind rows that
go in. -/
theorem addAll_eq_error_iff : t.addAll rows = .error e ↔
    ∃ earlier row later, rows = earlier ++ row :: later ∧ (∃ s, t.addAll earlier = .ok s) ∧
      AtFault (t.rows.entries ++ earlier) row e := by
  constructor
  · intro h
    induction rows generalizing t with
    | nil => cases h
    | cons first rows ih =>
        cases hadd : t.add first.1 first.2 with
        | error e' =>
            have hfault : t.addAll (first :: rows) = .error e' := by
              rw [addAll, List.foldlM_cons, hadd]
              rfl
            rw [hfault] at h
            cases h
            refine ⟨[], first, rows, rfl, ⟨t, rfl⟩, ?_⟩
            rw [List.append_nil]
            exact add_eq_error_iff.mp hadd
        | ok s =>
            have hcons (rows : List (String × Mode)) :
                t.addAll (first :: rows) = s.addAll rows := by
              rw [addAll, List.foldlM_cons, hadd]
              rfl
            rw [hcons] at h
            obtain ⟨earlier, row, later, rfl, ⟨u, hu⟩, hfault⟩ := ih h
            refine ⟨first :: earlier, row, later, rfl, ⟨u, (hcons earlier).trans hu⟩, ?_⟩
            -- Beside the rows that are listed behind the first one, the first one is among them.
            have hsingle : t.addAll [first] = .ok s := hcons []
            refine (AtFault.congr fun r => ?_).mp hfault
            simp only [List.mem_append, mem_entries_addAll hsingle r, List.mem_cons,
              List.not_mem_nil, or_false, or_assoc]
  · rintro ⟨earlier, row, later, rfl, ⟨s, hs⟩, hfault⟩
    have hadd : s.add row.1 row.2 = .error e :=
      add_eq_error_iff.mpr ((AtFault.congr (mem_entries_addAll hs)).mpr hfault)
    rw [addAll_append, hs]
    change s.addAll (row :: later) = .error e
    rw [addAll, List.foldlM_cons, hadd]
    rfl

/-- A **first fault** in some rows: a row at fault beside the table's rows and those before it,
none of which is at fault itself. -/
def FirstFault (t : ThemeTable) (rows : List (String × Mode)) (e : SetupError) : Prop :=
  ∃ earlier row later, rows = earlier ++ row :: later ∧
    AtFault (t.rows.entries ++ earlier) row e ∧
    ∀ before r behind, earlier = before ++ r :: behind →
      ∀ e', ¬AtFault (t.rows.entries ++ before) r e'

/-- Rows go in if and only if none is at fault beside the table's rows and those before it. -/
theorem exists_addAll_eq_ok_iff : (∃ u, t.addAll rows = .ok u) ↔
    ∀ before r behind, rows = before ++ r :: behind →
      ∀ e, ¬AtFault (t.rows.entries ++ before) r e := by
  constructor
  · rintro ⟨u, hu⟩ before r behind rfl e hfault
    rw [addAll_append] at hu
    cases hbefore : t.addAll before with
    | error e' =>
        rw [hbefore] at hu
        cases hu
    | ok s =>
        have herror : t.addAll (before ++ r :: behind) = .error e :=
          addAll_eq_error_iff.mpr ⟨before, r, behind, rfl, ⟨s, hbefore⟩, hfault⟩
        rw [addAll_append, hu] at herror
        cases herror
  · intro h
    cases hadd : t.addAll rows with
    | ok u => exact ⟨u, rfl⟩
    | error e =>
        obtain ⟨earlier, row, later, hrows, -, hfault⟩ := addAll_eq_error_iff.mp hadd
        exact absurd hfault (h earlier row later hrows e)

/-- **Rows are refused for their first fault.** -/
theorem addAll_eq_error_iff_firstFault : t.addAll rows = .error e ↔ FirstFault t rows e := by
  simp only [addAll_eq_error_iff, exists_addAll_eq_ok_iff, FirstFault, and_comm]

/-! ### Rows of a dictionary -/

/-- A table admits rows if and only if their names are theme names and no name has two modes
among the table's rows and them. -/
theorem admits_iff : t.Admits rows ↔
    (∀ r ∈ rows, isThemeName r.1) ∧ OneMode (t.rows.entries ++ rows) := by
  constructor
  · intro h
    refine ⟨h.names, fun name mode mode' hmem hmem' => ?_⟩
    rcases List.mem_append.mp hmem with hlisted | hrow <;>
      rcases List.mem_append.mp hmem' with hlisted' | hrow'
    · rw [Dict.mem_entries_iff] at hlisted hlisted'
      exact Option.some.inj (hlisted.symm.trans hlisted')
    · exact h.listed _ hrow' mode ((Dict.mem_entries_iff ..).mp hlisted)
    · exact (h.listed _ hrow mode' ((Dict.mem_entries_iff ..).mp hlisted')).symm
    · exact h.oneMode name mode mode' hrow hrow'
  · rintro ⟨hnames, honeMode⟩
    exact
      { names := hnames
        oneMode := fun name mode mode' hrow hrow' =>
          honeMode name mode mode' (List.mem_append_right _ hrow) (List.mem_append_right _ hrow')
        listed := fun r hrow mode hget =>
          honeMode r.1 mode r.2 (List.mem_append_left _ ((Dict.mem_entries_iff ..).mpr hget))
            (List.mem_append_right _ hrow) }

/-- Rows that went in once go in again and change nothing. -/
theorem addAll_again (h : t.addAll rows = .ok u) : u.addAll rows = .ok u := by
  have hadmits : t.Admits rows := admits_of_addAll h
  have hrow : ∀ r ∈ rows, u.get? r.1 = some r.2 := fun r => get?_of_addAll h
  refine addAll_eq_ok_iff.mpr ⟨⟨hadmits.names, hadmits.oneMode, fun r hr mode hmode => ?_⟩, ?_⟩
  · exact Option.some.inj (hmode.symm.trans (hrow r hr))
  · exact fun name mode => ⟨Or.inl, fun h => h.elim id (hrow (name, mode))⟩

/-- **What becomes of rows.** They go in if and only if their names are not empty and have
neither blanks nor upper-case characters, and no name has two modes among the table's rows and
them. Then the table lists its own rows and them and nothing else, it is the same for all rows
with the same members, in whatever order and however often, and adding them again changes
nothing. Otherwise they are refused for the first of them that is at fault. -/
theorem addAll_outcome (t : ThemeTable) (rows : List (String × Mode)) :
    ((∃ u, t.addAll rows = .ok u) ↔
      (∀ row ∈ rows, row.1 ≠ "" ∧ ∀ c ∈ row.1.toList, ¬Text.isBlank c ∧ ¬Text.isUpper c) ∧
        OneMode (t.rows.entries ++ rows)) ∧
      (∀ u, t.addAll rows = .ok u →
        (∀ row, row ∈ u.rows.entries ↔ row ∈ t.rows.entries ∨ row ∈ rows) ∧
        (∀ rows', (∀ row, row ∈ rows' ↔ row ∈ rows) → t.addAll rows' = .ok u) ∧
        u.addAll rows = .ok u) ∧
      ∀ e, t.addAll rows = .error e ↔ FirstFault t rows e := by
  refine ⟨?_, fun u hu => ⟨fun row => ?_, fun rows' hrows => ?_, addAll_again hu⟩,
    fun e => addAll_eq_error_iff_firstFault⟩
  · simp only [← isThemeName_iff, ← admits_iff]
    exact ⟨fun ⟨u, hu⟩ => admits_of_addAll hu, exists_addAll_eq_ok⟩
  · rw [mem_entries_addAll hu, List.mem_append]
  · exact (addAll_congr hrows).mpr hu

/-- Two new themes go in either way round, and of two faults the first one counts: a second mode
for a theme, and not the bad name behind it. -/
theorem dusk_and_dawn_outcome :
    (∃ u, common.addAll [("dusk", .dark), ("dawn", .light)] = .ok u ∧
      common.addAll [("dawn", .light), ("dusk", .dark), ("dawn", .light)] = .ok u) ∧
      common.addAll [("dusk", .dark), ("dusk", .light), ("Dawn", .light)] =
        .error (.otherMode "dusk" .dark .light) := by
  constructor
  · obtain ⟨u, hu⟩ : ∃ u, common.addAll [("dusk", .dark), ("dawn", .light)] = .ok u := ⟨_, rfl⟩
    refine ⟨u, hu, ((addAll_outcome common _).2.1 u hu).2.1 _ fun row => ?_⟩
    simp only [List.mem_cons, List.not_mem_nil, or_false]
    tauto
  · refine ((addAll_outcome common _).2.2 _).mpr
      ⟨[("dusk", .dark)], ("dusk", .light), [("Dawn", .light)], rfl, ?_, ?_⟩
    · exact .mode (by decide) (List.mem_append_right _ List.mem_cons_self) (by decide)
    · exact exists_addAll_eq_ok_iff.mp ⟨_, rfl⟩

end ThemedPage.ThemeTable
