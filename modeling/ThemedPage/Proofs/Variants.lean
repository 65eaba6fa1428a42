import Mathlib.Data.List.Infix
import Mathlib.Data.String.Basic
import ThemedPage.Proofs.Filling
import ThemedPage.Proofs.Placeholders

/-!
# A Template and Its Two Variants

One variant of a template does not tell the template: where it shows the word of its mode, the
word may have been there before. Both variants together do. Read side by side from the left, they
show the same letter as long as the template does, and they part where it has a placeholder, as
the words of the two modes begin with different letters. Behind the two words the reading goes on.

The variants also tell how many placeholders there are. The light word is longer than the dark
one by a single character, which takes a single octet, so that the difference of the lengths
counts the placeholders in either unit.

## Main results

* `Template.head?_fill_eq_iff` — the variants begin alike unless the template begins with a
  placeholder;
* `Template.eq_of_fill_eq` — two texts that agree when filled with either word are the same;
* `Template.holes_eq_occurrences` — filling replaces every occurrence of the placeholder;
* `Template.variants_determine` — all of it, for templates.
-/

namespace ThemedPage.Template

variable {a b : Char} {v w cs ds : List Char}

/-! ### Reading two variants side by side -/

/-- Filled with words that begin with different letters, a text begins with the same letter in
both ways **unless it begins with a placeholder**. -/
theorem head?_fill_eq_iff (hab : a ≠ b) (cs : List Char) :
    (fill (a :: v) cs).head? = (fill (b :: w) cs).head? ↔ ¬placeholder <+: cs := by
  induction cs using hole_induction with
  | hole cs _ =>
      have hparted : (fill (a :: v) (placeholder ++ cs)).head? ≠
          (fill (b :: w) (placeholder ++ cs)).head? := by
        rw [fill_hole, fill_hole, List.cons_append, List.cons_append, List.head?_cons,
          List.head?_cons]
        exact fun h => hab (Option.some.inj h)
      exact iff_of_false hparted fun h => h (List.prefix_append placeholder cs)
  | letter c cs h _ =>
      rw [fill_letter _ h, fill_letter _ h]
      exact iff_of_true rfl h
  | nil => exact iff_of_true rfl (by decide)

/-- Two texts with the same variants begin with a placeholder both or neither. -/
theorem begins_iff_of_fill_eq (hab : a ≠ b) (hv : fill (a :: v) cs = fill (a :: v) ds)
    (hw : fill (b :: w) cs = fill (b :: w) ds) : placeholder <+: cs ↔ placeholder <+: ds := by
  rw [← not_iff_not, ← head?_fill_eq_iff (v := v) (w := w) hab,
    ← head?_fill_eq_iff (v := v) (w := w) hab, hv, hw]

/-- **Two variants tell the text**, if the words they are filled with begin with different
letters. -/
theorem eq_of_fill_eq (hab : a ≠ b) (hv : fill (a :: v) cs = fill (a :: v) ds)
    (hw : fill (b :: w) cs = fill (b :: w) ds) : cs = ds := by
  induction cs using hole_induction generalizing ds with
  | hole cs ih =>
      obtain ⟨ds, rfl⟩ :=
        (begins_iff_of_fill_eq hab hv hw).mp (List.prefix_append placeholder cs)
      rw [fill_hole, fill_hole] at hv hw
      rw [ih (List.append_cancel_left hv) (List.append_cancel_left hw)]
  | letter c cs h ih =>
      -- The variants of `ds` agree in their first letter, which is therefore one of its own.
      have h' := mt (begins_iff_of_fill_eq hab hv hw).mpr h
      cases ds with
      | nil =>
          rw [fill_letter _ h] at hv
          exact absurd hv (List.cons_ne_nil c _)
      | cons d ds =>
          rw [fill_letter _ h, fill_letter _ h'] at hv hw
          obtain ⟨rfl, hv'⟩ := List.cons.inj hv
          rw [ih hv' (List.cons.inj hw).2]
  | nil =>
      have h' := mt (begins_iff_of_fill_eq hab hv hw).mpr (by decide)
      cases ds with
      | nil => rfl
      | cons d ds =>
          rw [fill_letter _ h'] at hv
          exact absurd hv.symm (List.cons_ne_nil d _)

/-! ### Counting placeholders -/

/-- The number of **occurrences** of the placeholder in a text: of the places where it begins. -/
def occurrences (cs : List Char) : Nat := cs.tails.countP (placeholder.isPrefixOf ·)

/-- Filling goes on behind a replaced placeholder and yet misses no occurrence, as none begins
within another. -/
theorem holes_eq_occurrences (cs : List Char) : holes cs = occurrences cs := by
  rw [occurrences]
  induction cs using hole_induction with
  | hole cs ih =>
      -- The tails that begin within the placeholder do not begin with its `$`.
      have htails : (placeholder ++ cs).tails.countP (placeholder.isPrefixOf ·) =
          cs.tails.countP (placeholder.isPrefixOf ·) + 1 := by
        simp [placeholder]
      rw [htails, ← ih]
      rfl
  | letter c cs h ih =>
      have hholes : holes (c :: cs) = holes cs := by
        rw [holes]
        exact not_hole h
      rw [hholes, List.tails_cons, List.countP_cons_of_neg (mt List.isPrefixOf_iff_prefix.mp h),
        ih]
  | nil => rfl

theorem addsUp_utf8Len : AddsUp String.utf8Len := String.utf8Len_append

/-! ### Templates -/

/-- A template that looks in both modes like a themed one is that one. -/
theorem eq_of_resolve_eq {t u : Template} (ht : placeholder <:+: t.source.toList)
    (hlight : u.resolve .light = t.resolve .light) (hdark : u.resolve .dark = t.resolve .dark) :
    u = t := by
  have hu : placeholder <:+: u.source.toList := by
    by_contra hsolid
    rw [(resolve_eq_none_iff_solid u .light).mpr hsolid, resolve_eq_some_fill ht] at hlight
    cases hlight
  rw [resolve_eq_some_fill hu, resolve_eq_some_fill ht] at hlight hdark
  have hsource : u.source.toList = t.source.toList :=
    eq_of_fill_eq (a := 'l') (b := 'd') (by decide)
      (String.ofList_injective (Option.some.inj hlight))
      (String.ofList_injective (Option.some.inj hdark))
  exact congrArg Template.mk (String.toList_inj.mp hsource)

/-- In either mode two templates look the same: one with the word and then a placeholder, and one
with a placeholder and then the word. -/
theorem exists_ne_resolve_eq (m : Mode) : ∃ t u : Template, t ≠ u ∧
    placeholder <:+: t.source.toList ∧ placeholder <:+: u.source.toList ∧
    t.resolve m = u.resolve m := by
  refine ⟨⟨m.word ++ "-$theme"⟩, ⟨"$theme-" ++ m.word⟩, ?_⟩
  rw [← isThemed_iff, ← isThemed_iff]
  cases m with
  | light => decide
  | dark => decide

/-- **A themed template is determined by its two variants.** They differ, and the light one is
longer than the dark one by the number of placeholders in the template, in characters as in
octets. No other template has the same two variants, while one variant alone may be shared by
several themed templates. -/
theorem variants_determine {t : Template} (ht : placeholder <:+: t.source.toList) :
    (∃ light dark, t.resolve .light = some light ∧ t.resolve .dark = some dark ∧ light ≠ dark ∧
      light.length = dark.length + occurrences t.source.toList ∧
      light.utf8ByteSize = dark.utf8ByteSize + occurrences t.source.toList) ∧
    (∀ u : Template,
      (u.resolve .light = t.resolve .light ∧ u.resolve .dark = t.resolve .dark) ↔ u = t) ∧
    ∀ m, ∃ u u' : Template, u ≠ u' ∧
      placeholder <:+: u.source.toList ∧ placeholder <:+: u'.source.toList ∧
      u.resolve m = u'.resolve m := by
  have hlight := resolve_eq_some_fill ht .light
  have hdark := resolve_eq_some_fill ht .dark
  refine ⟨⟨_, _, hlight, hdark, ?_, ?_, ?_⟩, fun u => ⟨?_, ?_⟩, exists_ne_resolve_eq⟩
  · have hne := resolve_light_ne_resolve_dark ((isThemed_iff t).mpr ht)
    rw [hlight, hdark] at hne
    exact fun heq => hne (congrArg some heq)
  · rw [String.length_ofList, String.length_ofList, ← holes_eq_occurrences]
    exact measure_fill_light addsUp_length rfl _
  · rw [String.utf8ByteSize_ofList, String.utf8ByteSize_ofList, ← holes_eq_occurrences]
    exact measure_fill_light addsUp_utf8Len rfl _
  · rintro ⟨hl, hd⟩
    exact eq_of_resolve_eq ht hl hd
  · rintro rfl
    exact ⟨rfl, rfl⟩

/-- Of two templates with the same light variant the dark one tells which it is. -/
theorem swapped_words_told_apart :
    let t : Template := ⟨"light-$theme"⟩
    let u : Template := ⟨"$theme-light"⟩
    placeholder <:+: t.source.toList ∧
      t.resolve .light = some "light-light" ∧ t.resolve .dark = some "light-dark" ∧
      "light-light".length = "light-dark".length + occurrences t.source.toList ∧
      u.resolve .light = t.resolve .light ∧ u.resolve .dark ≠ t.resolve .dark := by
  intro t u
  have ht : placeholder <:+: t.source.toList := (isThemed_iff t).mp (by decide)
  obtain ⟨⟨light, dark, hlight, hdark, -, hlength, -⟩, htold, -⟩ := variants_determine ht
  have hl : t.resolve .light = some "light-light" := by decide
  have hd : t.resolve .dark = some "light-dark" := by decide
  have hu : u.resolve .light = some "light-light" := by decide
  have hne : u ≠ t := by decide
  rw [hl] at hlight
  rw [hd] at hdark
  cases hlight
  cases hdark
  refine ⟨ht, hl, hd, hlength, hu.trans hl.symm, fun heq => ?_⟩
  exact hne ((htold u).mp ⟨hu.trans hl.symm, heq⟩)

end ThemedPage.Template
