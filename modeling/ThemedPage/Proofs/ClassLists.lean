import ThemedPage.Proofs.TableGrowth
import ThemedPage.Settings

/-!
# Themes in Lists of Classes

The value of an attribute can list classes, of which one is the theme. Where a word begins and
ends is said here without the function that cuts a text into words: a **run** of a text is a part
without blanks that cannot be made longer on either side. The words of a text are its runs, in
order (`Text.words_append_run`, `Text.exists_run_of_words_eq`).

Theme names are not empty and hold no blanks, so that a name that a table lists is a run wherever
it stands between blanks or ends of the text. This is why all themes of a table can be found in
lists, which `reads_classes_after` says together with what else there is to know of tokens.
-/

namespace ThemedPage

namespace Text

variable {c : Char} {cs before run behind : List Char}

/-! ### Words of parts -/

/-- A character is a word of its own before a blank or the end. -/
theorem words_cons_of_closes (hc : ¬isBlank c) (hcs : ∀ d ∈ cs.head?, isBlank d) :
    words (c :: cs) = [c] :: words cs := by
  have hhead : cs.head?.all isBlank := by
    cases hd : cs.head? with
    | none => rfl
    | some d => exact hcs d hd
  rw [words, if_neg hc, if_pos hhead]

/-- A character belongs to the word that begins behind it. -/
theorem words_cons_cons {d : Char} {w : List Char} {ws : List (List Char)} (hc : ¬isBlank c)
    (hd : ¬isBlank d) (hwords : words (d :: cs) = w :: ws) :
    words (c :: d :: cs) = (c :: w) :: ws := by
  have hhead : ¬((d :: cs).head?.all isBlank) := hd
  rw [words, if_neg hc, if_neg hhead, hwords]

theorem words_singleton (hc : ¬isBlank c) : words [c] = [[c]] := by
  rw [words, if_neg hc]
  rfl

/-- A text that begins with no blank has a word. -/
theorem words_ne_nil (hc : ¬isBlank c) (cs : List Char) : words (c :: cs) ≠ [] := by
  rw [words, if_neg hc]
  split
  · exact List.cons_ne_nil _ _
  · split <;> exact List.cons_ne_nil _ _

/-- **No word reaches over a blank.** All else about words follows from this. -/
theorem words_append_blank (hc : isBlank c) (before behind : List Char) :
    words (before ++ c :: behind) = words before ++ words behind := by
  induction before with
  | nil => exact words_cons_of_isBlank hc behind
  | cons a before ih =>
      by_cases ha : isBlank a
      · rw [words_cons_of_isBlank ha, ← ih]
        exact words_cons_of_isBlank ha _
      cases before with
      | nil =>
          rw [words_singleton ha, List.singleton_append,
            words_cons_of_closes ha (by simpa using hc), words_cons_of_isBlank hc]
          rfl
      | cons d before =>
          by_cases hd : isBlank d
          · calc words (a :: (d :: before ++ c :: behind))
                _ = [a] :: words (d :: before ++ c :: behind) :=
                  words_cons_of_closes ha (by simpa using hd)
                _ = [a] :: words (d :: before) ++ words behind := by rw [ih, List.cons_append]
                _ = words (a :: d :: before) ++ words behind := by
                  rw [words_cons_of_closes ha (by simpa using hd)]
          · obtain ⟨w, ws, hwords⟩ := List.exists_cons_of_ne_nil (words_ne_nil hd before)
            rw [hwords] at ih
            rw [words_cons_cons ha hd hwords]
            exact words_cons_cons ha hd ih

/-- The words of two texts are those of both if a blank or an end is between them. -/
theorem words_append {xs ys : List Char}
    (h : (∀ c ∈ xs.getLast?, isBlank c) ∨ (∀ c ∈ ys.head?, isBlank c)) :
    words (xs ++ ys) = words xs ++ words ys := by
  rcases h with hlast | hhead
  · rcases List.eq_nil_or_concat xs with rfl | ⟨xs, c, rfl⟩
    · rfl
    · have hc : isBlank c := hlast c (by simp)
      rw [List.concat_eq_append, List.append_assoc, List.singleton_append,
        words_append_blank hc, words_append_blank hc, words_nil, List.append_nil]
  · cases ys with
    | nil => simp
    | cons c ys =>
        have hc : isBlank c := hhead c rfl
        rw [words_append_blank hc, words_cons_of_isBlank hc]

/-- A text without blanks is its only word. -/
theorem words_of_solid (hne : cs ≠ []) (hsolid : ∀ c ∈ cs, ¬isBlank c) : words cs = [cs] := by
  induction cs with
  | nil => exact absurd rfl hne
  | cons c cs ih =>
      have hc : ¬isBlank c := hsolid c List.mem_cons_self
      cases cs with
      | nil => exact words_singleton hc
      | cons d cs =>
          refine words_cons_cons hc (hsolid d (by simp)) (ih (List.cons_ne_nil d cs) ?_)
          exact fun c' hc' => hsolid c' (List.mem_cons_of_mem c hc')

/-! ### Runs -/

/-- A **run** between two texts: a part without blanks that ends at blanks or at an end of the
text on either side. -/
structure IsRun (before run behind : List Char) : Prop where
  /-- It holds a character. -/
  ne_nil : run ≠ []
  /-- It holds no blank. -/
  solid : ∀ c ∈ run, ¬isBlank c
  /-- It begins behind a blank or at the beginning. -/
  opens : ∀ c ∈ before.getLast?, isBlank c
  /-- It ends before a blank or at the end. -/
  closes : ∀ c ∈ behind.head?, isBlank c

/-- **Runs are words**, with the words before and behind them where they are. -/
theorem words_append_run (h : IsRun before run behind) :
    words (before ++ run ++ behind) = words before ++ run :: words behind := by
  rw [words_append (.inr h.closes), words_append (.inl h.opens), words_of_solid h.ne_nil h.solid,
    List.append_assoc, List.singleton_append]

/-- A text that begins without a blank begins with a run. -/
theorem exists_run_cons (hc : ¬isBlank c) (cs : List Char) :
    ∃ run behind, c :: cs = run ++ behind ∧ IsRun [] run behind := by
  refine ⟨c :: cs.takeWhile (!isBlank ·), cs.dropWhile (!isBlank ·), ?_, List.cons_ne_nil _ _,
    fun d hd => ?_, nofun, fun d hd => ?_⟩
  · rw [List.cons_append, List.takeWhile_append_dropWhile]
  · rcases List.mem_cons.mp hd with rfl | hd
    · exact hc
    · simpa using List.all_eq_true.mp List.all_takeWhile d hd
  · simpa [Option.mem_def.mp hd] using List.head?_dropWhile_not (!isBlank ·) cs

/-- The first word of a text is a run behind blanks. -/
theorem exists_run_of_words_cons {w : List Char} {ws : List (List Char)}
    (h : words cs = w :: ws) :
    ∃ before behind, cs = before ++ w ++ behind ∧ IsRun before w behind ∧
      words before = [] ∧ words behind = ws := by
  induction cs with
  | nil => cases h
  | cons c cs ih =>
      by_cases hc : isBlank c
      · rw [words_cons_of_isBlank hc] at h
        obtain ⟨before, behind, rfl, hrun, hbefore, hbehind⟩ := ih h
        refine ⟨c :: before, behind, rfl, ⟨hrun.ne_nil, hrun.solid, fun d hd => ?_, hrun.closes⟩,
          (words_cons_of_isBlank hc before).trans hbefore, hbehind⟩
        cases before with
        | nil => exact Option.some.inj hd ▸ hc
        | cons b before => exact hrun.opens d (by simpa using hd)
      · obtain ⟨run, behind, hsplit, hrun⟩ := exists_run_cons hc cs
        have hwords := words_append_run hrun
        rw [List.nil_append, ← hsplit, h] at hwords
        cases hwords
        exact ⟨[], behind, hsplit, hrun, rfl, rfl⟩

/-- **Words are runs**, with the words before and behind them where they are. -/
theorem exists_run_of_words_eq {w : List Char} {ws ws' : List (List Char)}
    (h : words cs = ws ++ w :: ws') :
    ∃ before behind, cs = before ++ w ++ behind ∧ IsRun before w behind ∧
      words before = ws ∧ words behind = ws' := by
  induction ws generalizing cs with
  | nil => exact exists_run_of_words_cons h
  | cons first ws ih =>
      obtain ⟨blanks, rest, rfl, hfirst, hblanks, hrest⟩ := exists_run_of_words_cons h
      obtain ⟨before, behind, rfl, hrun, hbefore, hbehind⟩ := ih hrest
      -- The run does not touch the first word, so there is something between them.
      have hne : before ≠ [] := by
        rintro rfl
        obtain ⟨c, w, rfl⟩ := List.exists_cons_of_ne_nil hrun.ne_nil
        exact hrun.solid c List.mem_cons_self (hfirst.closes c rfl)
      have hclosed : IsRun blanks first before := by
        refine ⟨hfirst.ne_nil, hfirst.solid, hfirst.opens, fun d hd => hfirst.closes d ?_⟩
        rw [List.append_assoc, List.head?_append_of_ne_nil before hne]
        exact hd
      refine ⟨blanks ++ first ++ before, behind, by simp, ⟨hrun.ne_nil, hrun.solid, ?_,
        hrun.closes⟩, ?_, hbehind⟩
      · rw [List.getLast?_append_of_ne_nil _ hne]
        exact hrun.opens
      · rw [words_append_run hclosed, hblanks, hbefore, List.nil_append]

/-- The words of a text are its runs. -/
theorem mem_words_iff {w : List Char} :
    w ∈ words cs ↔ ∃ before behind, cs = before ++ w ++ behind ∧ IsRun before w behind := by
  constructor
  · intro h
    obtain ⟨ws, ws', hwords⟩ := List.append_of_mem h
    obtain ⟨before, behind, hsplit, hrun, -, -⟩ := exists_run_of_words_eq hwords
    exact ⟨before, behind, hsplit, hrun⟩
  · rintro ⟨before, behind, rfl, hrun⟩
    rw [words_append_run hrun]
    exact List.mem_append_right _ List.mem_cons_self

end Text

namespace ThemeTable

open Text (IsRun words)
open Matching (classList whole)

variable {t : ThemeTable} {value name : String} {cs before behind : List Char}

/-! ### Themes among the words of a text -/

/-- A text is **free** of themes if the table lists none of its runs. -/
def Free (t : ThemeTable) (cs : List Char) : Prop :=
  ∀ before run behind, cs = before ++ run ++ behind → IsRun before run behind →
    ¬t.contains (String.ofList run)

/-- A name **leads** in a value if it is listed and a run of the value, and what is before it is
free of themes. -/
def Leads (t : ThemeTable) (value name : String) : Prop :=
  t.contains name ∧ ∃ before behind, value.toList = before ++ name.toList ++ behind ∧
    IsRun before name.toList behind ∧ t.Free before

/-- A text is free of themes if the table lists none of its words. -/
theorem free_iff : t.Free cs ↔ ∀ w ∈ words cs, ¬t.contains (String.ofList w) := by
  constructor
  · intro h w hw
    obtain ⟨before, behind, hsplit, hrun⟩ := Text.mem_words_iff.mp hw
    exact h before w behind hsplit hrun
  · intro h before run behind hsplit hrun
    exact h run (Text.mem_words_iff.mpr ⟨before, behind, hsplit, hrun⟩)

/-- The search for a listed word looks at the words of the value. -/
theorem token_classList (t : ThemeTable) (value : String) :
    classList.token value t =
      (((words value.toList).find? fun w => t.contains (String.ofList w)).map
        String.ofList).getD "" := by
  rw [Matching.token, List.find?_map]
  rfl

/-- The token of a value is the name that leads in it. -/
theorem token_of_leads (h : t.Leads value name) : classList.token value t = name := by
  obtain ⟨hlisted, before, behind, hsplit, hrun, hfree⟩ := h
  have hbefore : (words before).find? (fun w => t.contains (String.ofList w)) = none := by
    rw [List.find?_eq_none]
    exact free_iff.mp hfree
  rw [token_classList, hsplit, Text.words_append_run hrun, List.find?_append, hbefore,
    Option.none_or, List.find?_cons_of_pos (by simpa using hlisted)]
  simp

/-- A value that is free of themes has no token. -/
theorem token_of_free (h : t.Free value.toList) : classList.token value t = "" := by
  rw [token_classList, List.find?_eq_none.mpr (free_iff.mp h)]
  rfl

/-- In every value a name leads, or the value is free of themes. -/
theorem leads_or_free (t : ThemeTable) (value : String) :
    (∃ name, t.Leads value name) ∨ t.Free value.toList := by
  cases hfind : (words value.toList).find? fun w => t.contains (String.ofList w) with
  | none => exact .inr (free_iff.mpr (List.find?_eq_none.mp hfind))
  | some w =>
      obtain ⟨hlisted, ws, ws', hwords, hfree⟩ := List.find?_eq_some_iff_append.mp hfind
      obtain ⟨before, behind, hsplit, hrun, hbefore, -⟩ := Text.exists_run_of_words_eq hwords
      refine .inl ⟨String.ofList w, hlisted, before, behind, ?_, ?_, free_iff.mpr ?_⟩
      · rw [String.toList_ofList, hsplit]
      · rw [String.toList_ofList]
        exact hrun
      · rw [hbefore]
        simpa using hfree

/-! ### Tables of theme names -/

/-- A listed name of a well-named table is a run wherever it stands between blanks. -/
theorem WellNamed.isRun (h : t.WellNamed) (hlisted : t.contains name)
    (hopens : ∀ c ∈ before.getLast?, Text.isBlank c)
    (hcloses : ∀ c ∈ behind.head?, Text.isBlank c) : IsRun before name.toList behind := by
  obtain ⟨hne, hchars⟩ := isThemeName_iff.mp (h name hlisted)
  exact ⟨by simpa using hne, fun c hc => (hchars c hc).1, hopens, hcloses⟩

/-- A listed name of a well-named table is found between anything that is free of themes and
anything at all, if blanks or ends of the text are next to it. -/
theorem WellNamed.token_of_listed (h : t.WellNamed) (hlisted : t.contains name)
    (hfree : t.Free before) (hopens : ∀ c ∈ before.getLast?, Text.isBlank c)
    (hcloses : ∀ c ∈ behind.head?, Text.isBlank c) :
    classList.token (String.ofList (before ++ name.toList ++ behind)) t = name :=
  token_of_leads ⟨hlisted, before, behind, String.toList_ofList, h.isRun hlisted hopens hcloses,
    hfree⟩

/-- The empty text is free of the themes of every table. -/
theorem free_nil (t : ThemeTable) : t.Free [] := free_iff.mpr (by simp)

/-- A well-named table finds a name that it lists in that name itself. -/
theorem WellNamed.token_self (h : t.WellNamed) (hlisted : t.contains name) :
    classList.token name t = name := by
  have htoken : classList.token (String.ofList ([] ++ name.toList ++ [])) t = name :=
    h.token_of_listed hlisted t.free_nil nofun nofun
  simpa using htoken

/-- In a well-named table, what leads is the token, unless there is none. -/
theorem WellNamed.leads_iff (h : t.WellNamed) :
    t.Leads value name ↔ classList.token value t = name ∧ name ≠ "" := by
  constructor
  · intro hleads
    exact ⟨token_of_leads hleads, (isThemeName_iff.mp (h name hleads.1)).1⟩
  · rintro ⟨rfl, hne⟩
    rcases leads_or_free t value with ⟨name, hleads⟩ | hfree
    · rw [token_of_leads hleads]
      exact hleads
    · exact absurd (token_of_free hfree) hne

/-- In a well-named table, only a value that is free of themes has no token: no theme has
the empty name. -/
theorem WellNamed.token_eq_empty_iff (h : t.WellNamed) :
    classList.token value t = "" ↔ t.Free value.toList := by
  refine ⟨fun htoken => ?_, token_of_free⟩
  rcases leads_or_free t value with ⟨name, hleads⟩ | hfree
  · obtain ⟨hname, hne⟩ := h.leads_iff.mp hleads
    exact absurd (hname.symm.trans htoken) hne
  · exact hfree

/-- What is not listed resolves to the fallback. -/
theorem resolve_of_not_contains (h : ¬t.contains name) : t.resolve name = Mode.fallback :=
  resolve_eq_iff.mpr (.inr ⟨h, rfl⟩)

/-- A value without blanks is a class or none, so it makes no difference for its mode whether
it is read as a list of classes. -/
theorem WellNamed.resolve_token_of_solid (h : t.WellNamed)
    (hsolid : ∀ c ∈ value.toList, ¬Text.isBlank c) :
    t.resolve (classList.token value t) = t.resolve value := by
  by_cases hlisted : t.contains value
  · rw [h.token_self hlisted]
  · have hfree : t.Free value.toList := by
      refine free_iff.mpr fun w hw => ?_
      by_cases hnil : value.toList = []
      · rw [hnil] at hw
        cases hw
      · rw [Text.words_of_solid hnil hsolid, List.mem_singleton] at hw
        rwa [hw, String.ofList_toList]
    have hempty : ¬t.contains "" := fun hc => (isThemeName_iff.mp (h "" hc)).1 rfl
    rw [token_of_free hfree, resolve_of_not_contains hempty, resolve_of_not_contains hlisted]

/-! ### What holds of every table -/

/-- The **laws of class lists**, of the tokens that a table finds in values that list classes. -/
structure ReadsClasses (t : ThemeTable) : Prop where
  /-- A token that is not empty is the first run of the value that is listed. -/
  leads_iff : ∀ value name,
    t.Leads value name ↔ classList.token value t = name ∧ name ≠ ""
  /-- The token is empty if and only if no run of the value is listed. -/
  free_iff : ∀ value, classList.token value t = "" ↔ t.Free value.toList
  /-- Values have the same token if the same name leads in them, or none in either. -/
  congr : ∀ value value', (∀ name, t.Leads value name ↔ t.Leads value' name) →
    classList.token value t = classList.token value' t
  /-- A listed name is found alone and behind classes that are not listed, whatever classes
  follow it. -/
  found : ∀ name before behind, t.contains name → t.Free before →
    (∀ c ∈ before.getLast?, Text.isBlank c) → (∀ c ∈ behind.head?, Text.isBlank c) →
    classList.token (String.ofList (before ++ name.toList ++ behind)) t = name
  /-- The token of a token is that token. -/
  again : ∀ value, classList.token (classList.token value t) t = classList.token value t
  /-- Without blanks in a value both ways of matching come to the same mode. -/
  solid : ∀ value, (∀ c ∈ value.toList, ¬Text.isBlank c) →
    t.resolve (classList.token value t) = t.resolve (whole.token value t)

/-- **Well-named tables obey the laws of class lists.** -/
theorem WellNamed.readsClasses (h : t.WellNamed) : t.ReadsClasses where
  leads_iff _ _ := h.leads_iff
  free_iff _ := h.token_eq_empty_iff
  congr value value' hleads := by
    rcases leads_or_free t value with ⟨name, hname⟩ | hfree
    · rw [token_of_leads hname, token_of_leads ((hleads name).mp hname)]
    · rcases leads_or_free t value' with ⟨name, hname⟩ | hfree'
      · rw [token_of_leads hname, token_of_leads ((hleads name).mpr hname)]
      · rw [token_of_free hfree, token_of_free hfree']
  found _ _ _ hlisted hfree := h.token_of_listed hlisted hfree
  again value := by
    rcases leads_or_free t value with ⟨name, hname⟩ | hfree
    · rw [token_of_leads hname]
      exact h.token_self hname.1
    · rw [token_of_free hfree]
      exact token_of_free t.free_nil
  solid _ := h.resolve_token_of_solid

/-- **Classes are read by the themes among them.** Whatever has been done to the table of the
common themes or to the one without any, the laws of class lists hold of it. -/
theorem reads_classes_after {start : ThemeTable} (hstart : start = common ∨ start = empty)
    (ops : List Operation) : (start.after ops).ReadsClasses := by
  have hgrown : Grows empty (start.after ops) :=
    (Grows.of_start hstart).trans (Grows.after start ops)
  exact (hgrown.wellNamed wellNamed_empty).readsClasses

/-- A new theme behind an ideographic space, with a common theme behind it that does not count. -/
theorem nord_found_between_classes :
    let t := common.after [.add "nord" .light]
    t.contains "nord" ∧ classList.token "js\u3000nord\tayu" t = "nord" ∧
      t.resolve (classList.token "js\u3000nord\tayu" t) = .light := by
  intro t
  have hlaws := reads_classes_after (Or.inl rfl) [.add "nord" .light]
  have hlisted : t.contains "nord" := by decide
  have hfree : t.Free "js\u3000".toList := free_iff.mpr (by decide)
  have hbefore : ∀ c ∈ "js\u3000".toList.getLast?, Text.isBlank c := by
    rw [show "js\u3000".toList.getLast? = some '\u3000' from rfl]
    rintro c ⟨⟩
    decide
  have hbehind : ∀ c ∈ "\tayu".toList.head?, Text.isBlank c := by
    rw [show "\tayu".toList.head? = some '\t' from rfl]
    rintro c ⟨⟩
    decide
  have htoken : classList.token "js\u3000nord\tayu" t = "nord" :=
    hlaws.found "nord" "js\u3000".toList "\tayu".toList hlisted hfree hbefore hbehind
  refine ⟨hlisted, htoken, ?_⟩
  rw [htoken]
  decide

end ThemeTable

end ThemedPage
