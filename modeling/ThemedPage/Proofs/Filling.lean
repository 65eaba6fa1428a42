import ThemedPage.Template

/-!
# Filled Templates

Every placeholder that is filled makes a text shorter by the placeholder and longer by the
word. This holds of any measure that adds up over the parts of a text, be it counted in
characters or in octets. The words of the two modes are not equally long, so a themed template
has two different variants: the lengths alone tell them apart.

## Main results

* `Template.measure_fill` — the measure of a filled template;
* `Template.measure_fill_light` — the light variant is larger than the dark one by one for each
  placeholder, if the light word is larger than the dark one by one;
* `Template.resolve_ne_resolve` — the variants of a themed template differ.
-/

namespace ThemedPage.Template

/-- The number of placeholders that filling replaces. -/
def holes : List Char → Nat
  | '$' :: 't' :: 'h' :: 'e' :: 'm' :: 'e' :: cs => holes cs + 1
  | _ :: cs => holes cs
  | [] => 0

/-- A text with a placeholder has one that is filled. -/
theorem occurs_iff_holes_pos (cs : List Char) : occurs cs = true ↔ 0 < holes cs := by
  fun_induction holes cs with
  | case1 cs ih => simp [occurs]
  | case2 c cs h ih => rw [occurs, ih]; exact h
  | case3 => simp [occurs]

/-- A **measure adds up** if the measure of a text is that of its parts together. -/
def AddsUp (measure : List Char → Nat) : Prop :=
  ∀ cs ds, measure (cs ++ ds) = measure cs + measure ds

theorem addsUp_length : AddsUp List.length := fun _ _ => List.length_append

/-- Every placeholder is taken out, and for each of them the word is put in. -/
theorem measure_fill {measure : List Char → Nat} (h : AddsUp measure) (word cs : List Char) :
    measure (fill word cs) + measure placeholder * holes cs =
      measure cs + measure word * holes cs := by
  fun_induction fill word cs with
  | case1 cs ih =>
      have hhole : measure ('$' :: 't' :: 'h' :: 'e' :: 'm' :: 'e' :: cs) =
          measure placeholder + measure cs := h placeholder cs
      rw [h, holes, hhole, Nat.mul_succ, Nat.mul_succ]
      omega
  | case2 c cs hc ih =>
      have hbefore : measure (c :: cs) = measure [c] + measure cs := h [c] cs
      have hafter : measure (c :: fill word cs) = measure [c] + measure (fill word cs) :=
        h [c] (fill word cs)
      rw [holes, hbefore, hafter]
      · omega
      · exact hc
  | case3 => simp [holes]

/-- The light variant is larger than the dark one by one for each placeholder, if its word is
larger by one. -/
theorem measure_fill_light {measure : List Char → Nat} (h : AddsUp measure)
    (hwords : measure Mode.light.word.toList = measure Mode.dark.word.toList + 1)
    (cs : List Char) :
    measure (fill Mode.light.word.toList cs) =
      measure (fill Mode.dark.word.toList cs) + holes cs := by
  have hlight := measure_fill h Mode.light.word.toList cs
  have hdark := measure_fill h Mode.dark.word.toList cs
  rw [hwords, Nat.succ_mul] at hlight
  omega

/-- The variants of a themed template are not the same. -/
theorem resolve_light_ne_resolve_dark {t : Template} (h : t.isThemed = true) :
    t.resolve .light ≠ t.resolve .dark := by
  rw [resolve, resolve, if_pos h, if_pos h]
  intro heq
  have hfill := String.ofList_injective (Option.some.inj heq)
  have hlength := measure_fill_light addsUp_length rfl t.source.toList
  have hpos := (occurs_iff_holes_pos t.source.toList).mp h
  rw [hfill] at hlength
  omega

/-- **The variants of a themed template differ.** -/
theorem resolve_ne_resolve {t : Template} (h : t.isThemed = true) {m m' : Mode}
    (hm : m ≠ m') : t.resolve m ≠ t.resolve m' := by
  cases m with
  | light =>
      cases m' with
      | light => exact absurd rfl hm
      | dark => exact resolve_light_ne_resolve_dark h
  | dark =>
      cases m' with
      | light => exact (resolve_light_ne_resolve_dark h).symm
      | dark => exact absurd rfl hm

end ThemedPage.Template
