import Mathlib.Data.List.Basic
import ThemedPage.Template

/-!
# Placeholders and the Pieces Between Them

Filling a template is defined from left to right: the first placeholder is replaced, and the
search goes on behind it. This module says what comes of it without a direction. A text is
**cut** at its placeholders into pieces, and there is only one way to do so, as occurrences of
the placeholder do not overlap: `$` stands nowhere in it but at its beginning. Filling joins the
pieces again, with the word in place of every placeholder.

What was filled holds no placeholder any more, even where the text on both sides of a replaced
one would make up another. An occurrence would have to begin before a word and reach into it, and
so hold the word's first letter, which is none of the placeholder's.

All laws go by induction over a text from placeholder to placeholder, `hole_induction`, in which
a letter is passed only if no placeholder begins with it.

## Main results

* `Template.occurs_iff` — a text in which the placeholder is found holds it;
* `Template.pieces_append_placeholder` — every placeholder cuts;
* `Template.isCut_iff` — a text is cut in one way;
* `Template.fill_eq_intercalate` — filling joins the pieces;
* `Template.not_infix_fill` — no placeholder is left;
* `Template.resolve_fills_placeholders` — all of it, for templates.
-/

namespace ThemedPage.Template

variable {c : Char} {cs before behind : List Char}

/-! ### From placeholder to placeholder -/

/-- The **pieces** of a text: what stands before, between and behind its placeholders. -/
def pieces : List Char → List (List Char)
  | '$' :: 't' :: 'h' :: 'e' :: 'm' :: 'e' :: cs => [] :: pieces cs
  | c :: cs => (pieces cs).modifyHead (c :: ·)
  | [] => [[]]

/-- Induction over a text that begins with a placeholder, or with a letter that begins none, or
is empty. -/
theorem hole_induction {P : List Char → Prop} (hole : ∀ cs, P cs → P (placeholder ++ cs))
    (letter : ∀ c cs, ¬placeholder <+: c :: cs → P cs → P (c :: cs)) (nil : P [])
    (cs : List Char) : P cs := by
  fun_induction pieces cs with
  | case1 cs ih => exact hole cs ih
  | case2 c cs h ih =>
      refine letter c cs ?_ ih
      rintro ⟨ds, hds⟩
      obtain ⟨rfl, rfl⟩ := List.cons.inj hds
      exact h ds rfl rfl
  | case3 => exact nil

/-- What the definitions by recursion ask of a letter that begins no placeholder. -/
theorem not_hole (h : ¬placeholder <+: c :: cs) (ds : List Char) :
    c = '$' → cs = 't' :: 'h' :: 'e' :: 'm' :: 'e' :: ds → False := by
  rintro rfl rfl
  exact h ⟨ds, rfl⟩

/-- Filling puts the word in the place of a placeholder and goes on behind it. -/
theorem fill_hole (word cs : List Char) : fill word (placeholder ++ cs) = word ++ fill word cs :=
  rfl

/-- Filling keeps a letter at which no placeholder begins. -/
theorem fill_letter (word : List Char) (h : ¬placeholder <+: c :: cs) :
    fill word (c :: cs) = c :: fill word cs := by
  rw [fill]
  exact not_hole h

/-- A placeholder at the beginning of a text has an empty piece before it. -/
theorem pieces_hole (cs : List Char) : pieces (placeholder ++ cs) = [] :: pieces cs := rfl

/-- A letter at which no placeholder begins belongs to the first piece. -/
theorem pieces_letter (h : ¬placeholder <+: c :: cs) :
    pieces (c :: cs) = (pieces cs).modifyHead (c :: ·) := by
  rw [pieces]
  exact not_hole h

/-- A letter at which no placeholder begins adds no occurrence. -/
theorem occurs_letter (h : ¬placeholder <+: c :: cs) : occurs (c :: cs) = occurs cs := by
  rw [occurs]
  exact not_hole h

/-- A text in which the placeholder is found holds it. -/
theorem occurs_iff (cs : List Char) : occurs cs = true ↔ placeholder <:+: cs := by
  induction cs using hole_induction with
  | hole cs _ => exact iff_of_true rfl (List.prefix_append placeholder cs).isInfix
  | letter c cs h ih => rw [occurs_letter h, ih, List.infix_cons_iff, or_iff_right h]
  | nil => decide

/-! ### Cutting a text -/

/-- **Occurrences do not overlap**: one that begins before another ends before it. -/
theorem prefix_of_prefix_append_placeholder
    (h : placeholder <+: c :: cs ++ placeholder ++ behind) : placeholder <+: c :: cs := by
  rw [List.append_assoc] at h
  rcases List.prefix_or_prefix_of_prefix h (List.prefix_append _ _) with hle | ⟨rest, hrest⟩
  · exact hle
  · rw [← hrest] at h ⊢
    have hrest' := (List.prefix_append_right_inj (c :: cs)).mp h
    cases rest with
    | nil => exact ⟨[], by rw [List.append_nil, List.append_nil]⟩
    | cons d rest =>
        -- The other occurrence begins with `d`, which is a later letter of this one.
        obtain ⟨hc, htail⟩ : c = '$' ∧ cs ++ d :: rest = ['t', 'h', 'e', 'm', 'e'] :=
          List.cons.inj hrest
        obtain ⟨rfl, -⟩ : d = c ∧ _ := List.cons_prefix_cons.mp hrest'
        have hmem : d ∈ ['t', 'h', 'e', 'm', 'e'] := by
          rw [← htail]
          exact List.mem_append_right cs List.mem_cons_self
        rw [hc] at hmem
        exact absurd hmem (by decide)

/-- A text has a piece, be it an empty one. -/
theorem pieces_ne_nil (cs : List Char) : pieces cs ≠ [] := by
  induction cs using hole_induction with
  | hole cs _ => exact List.cons_ne_nil _ _
  | letter c cs h ih => rwa [pieces_letter h, ne_eq, List.modifyHead_eq_nil_iff]
  | nil => exact List.cons_ne_nil _ _

/-- **Every placeholder cuts**, wherever it stands. -/
theorem pieces_append_placeholder (before behind : List Char) :
    pieces (before ++ placeholder ++ behind) = pieces before ++ pieces behind := by
  induction before using hole_induction with
  | hole cs ih => rw [List.append_assoc, List.append_assoc, pieces_hole, ← List.append_assoc, ih,
      pieces_hole, List.cons_append]
  | letter c cs h ih =>
      have h' : ¬placeholder <+: c :: (cs ++ placeholder ++ behind) := fun hp =>
        h (prefix_of_prefix_append_placeholder hp)
      obtain ⟨p, ps, hp⟩ := List.exists_cons_of_ne_nil (pieces_ne_nil cs)
      rw [List.cons_append, List.cons_append, pieces_letter h', ih, pieces_letter h, hp,
        List.cons_append, List.modifyHead_cons, List.modifyHead_cons, List.cons_append]
  | nil => exact pieces_hole behind

/-- A text without placeholders is in one piece. -/
theorem pieces_of_solid (h : ¬placeholder <:+: cs) : pieces cs = [cs] := by
  induction cs using hole_induction with
  | hole cs _ => exact absurd (List.prefix_append placeholder cs).isInfix h
  | letter c cs hc ih =>
      rw [pieces_letter hc, ih fun hi => h (List.infix_cons hi), List.modifyHead_cons]
  | nil => rfl

/-- The pieces of a text that is joined from pieces without placeholders. -/
theorem pieces_intercalate {ps : List (List Char)} (hne : ps ≠ [])
    (hps : ∀ p ∈ ps, ¬placeholder <:+: p) : pieces (placeholder.intercalate ps) = ps := by
  induction ps with
  | nil => exact absurd rfl hne
  | cons p ps ih =>
      have hp := pieces_of_solid (hps p List.mem_cons_self)
      cases ps with
      | nil => rw [List.intercalate_singleton, hp]
      | cons q qs =>
          rw [List.intercalate_cons_cons, pieces_append_placeholder, hp,
            ih (List.cons_ne_nil q qs) fun r hr => hps r (List.mem_cons_of_mem p hr),
            List.singleton_append]

/-! ### Joining the pieces -/

/-- A letter in front of the first part is in front of the parts put together. -/
theorem intercalate_modifyHead (sep : List Char) (c : Char) {ps : List (List Char)}
    (hne : ps ≠ []) : sep.intercalate (ps.modifyHead (c :: ·)) = c :: sep.intercalate ps := by
  obtain ⟨p, ps, rfl⟩ := List.exists_cons_of_ne_nil hne
  cases ps with
  | nil => simp
  | cons q qs => simp [List.intercalate_cons_cons]

/-- Parts and then others are put together with a separator between the two. -/
theorem intercalate_append (sep : List Char) {ps qs : List (List Char)} (hps : ps ≠ [])
    (hqs : qs ≠ []) :
    sep.intercalate (ps ++ qs) = sep.intercalate ps ++ sep ++ sep.intercalate qs := by
  obtain ⟨q, qs, rfl⟩ := List.exists_cons_of_ne_nil hqs
  induction ps with
  | nil => exact absurd rfl hps
  | cons p ps ih =>
      cases ps with
      | nil => simp [List.intercalate_cons_cons]
      | cons p' ps =>
          rw [List.cons_append, List.cons_append, List.intercalate_cons_cons,
            List.intercalate_cons_cons, ← List.cons_append, ih (List.cons_ne_nil p' ps)]
          simp only [List.append_assoc]

/-- **Filling joins the pieces** with the word. -/
theorem fill_eq_intercalate (word cs : List Char) :
    fill word cs = word.intercalate (pieces cs) := by
  induction cs using hole_induction with
  | hole cs ih =>
      obtain ⟨p, ps, hp⟩ := List.exists_cons_of_ne_nil (pieces_ne_nil cs)
      rw [fill_hole, pieces_hole, ih, hp, List.intercalate_cons_cons, List.nil_append]
  | letter c cs h ih =>
      rw [fill_letter word h, ih, pieces_letter h, intercalate_modifyHead word c (pieces_ne_nil cs)]
  | nil => rfl

/-- Filling with the placeholder itself changes nothing. -/
theorem fill_placeholder (cs : List Char) : fill placeholder cs = cs := by
  induction cs using hole_induction with
  | hole cs ih => rw [fill_hole, ih]
  | letter c cs h ih => rw [fill_letter placeholder h, ih]
  | nil => rfl

/-- Joined with the placeholder, the pieces are the text again. -/
theorem intercalate_pieces (cs : List Char) : placeholder.intercalate (pieces cs) = cs := by
  rw [← fill_eq_intercalate, fill_placeholder]

/-- A text begins with its first piece. -/
theorem prefix_of_pieces_eq_cons {p : List Char} {ps : List (List Char)}
    (h : pieces cs = p :: ps) : p <+: cs := by
  rw [← intercalate_pieces cs, h]
  cases ps with
  | nil => exact ⟨[], by rw [List.intercalate_singleton, List.append_nil]⟩
  | cons q qs => exact ⟨_, by rw [List.intercalate_cons_cons, List.append_assoc]⟩

/-- No piece holds a placeholder. -/
theorem not_infix_of_mem_pieces {p : List Char} (hp : p ∈ pieces cs) : ¬placeholder <:+: p := by
  induction cs using hole_induction generalizing p with
  | hole cs ih =>
      rw [pieces_hole] at hp
      rcases List.mem_cons.mp hp with rfl | hp
      · decide
      · exact ih hp
  | letter c cs h ih =>
      obtain ⟨q, qs, hq⟩ := List.exists_cons_of_ne_nil (pieces_ne_nil cs)
      rw [hq] at ih
      rw [pieces_letter h, hq, List.modifyHead_cons] at hp
      rcases List.mem_cons.mp hp with rfl | hp
      · rw [List.infix_cons_iff]
        rintro (hbegins | hlater)
        · have hq' := (prefix_of_pieces_eq_cons hq)
          exact h (hbegins.trans (List.cons_prefix_cons.mpr ⟨rfl, hq'⟩))
        · exact ih List.mem_cons_self hlater
      · exact ih (List.mem_cons_of_mem q hp)
  | nil =>
      rw [List.mem_singleton.mp hp]
      decide

/-- Pieces without placeholders, at least one, that make up a text when placeholders are put
between them, **cut** the text. -/
structure IsCut (ps : List (List Char)) (cs : List Char) : Prop where
  /-- There is a piece, maybe an empty one. -/
  ne_nil : ps ≠ []
  /-- No piece holds a placeholder. -/
  solid : ∀ p ∈ ps, ¬placeholder <:+: p
  /-- With placeholders between them they are the text. -/
  joined : placeholder.intercalate ps = cs

/-- **A text is cut in one way**, into its pieces. -/
theorem isCut_iff {ps : List (List Char)} : IsCut ps cs ↔ ps = pieces cs := by
  constructor
  · intro h
    rw [← h.joined, pieces_intercalate h.ne_nil h.solid]
  · rintro rfl
    exact ⟨pieces_ne_nil cs, fun _ hp => not_infix_of_mem_pieces hp, intercalate_pieces cs⟩

/-- The pieces before a placeholder are those of what stands before it. -/
theorem pieces_intercalate_take {i : Nat} (hpos : 0 < i) (hlt : i < (pieces cs).length) :
    pieces (placeholder.intercalate ((pieces cs).take i)) = (pieces cs).take i := by
  refine pieces_intercalate ?_ fun p hp => not_infix_of_mem_pieces (List.mem_of_mem_take hp)
  rw [← List.length_pos_iff, List.length_take]
  omega

/-- **The placeholders of a text are those between its pieces**, each of them once. -/
theorem eq_append_placeholder_iff :
    cs = before ++ placeholder ++ behind ↔
      ∃! i, (0 < i ∧ i < (pieces cs).length) ∧
        before = placeholder.intercalate ((pieces cs).take i) ∧
        behind = placeholder.intercalate ((pieces cs).drop i) := by
  constructor
  · intro h
    have hpieces : pieces cs = pieces before ++ pieces behind := by
      rw [h, pieces_append_placeholder]
    have hbefore := List.length_pos_iff.mpr (pieces_ne_nil before)
    have hbehind := List.length_pos_iff.mpr (pieces_ne_nil behind)
    refine ⟨(pieces before).length, ⟨⟨hbefore, ?_⟩, ?_, ?_⟩, ?_⟩
    · rw [hpieces, List.length_append]
      omega
    · rw [hpieces, List.take_left, intercalate_pieces]
    · rw [hpieces, List.drop_left, intercalate_pieces]
    · rintro i ⟨⟨hpos, hlt⟩, htake, -⟩
      have hlength := congrArg List.length (pieces_intercalate_take hpos hlt)
      rw [← htake, List.length_take] at hlength
      omega
  · rintro ⟨i, ⟨⟨hpos, hlt⟩, rfl, rfl⟩, -⟩
    have htake : (pieces cs).take i ≠ [] := by
      rw [← List.length_pos_iff, List.length_take]
      omega
    have hdrop : (pieces cs).drop i ≠ [] := by
      rw [← List.length_pos_iff, List.length_drop]
      omega
    rw [← intercalate_append placeholder htake hdrop, List.take_append_drop, intercalate_pieces]

/-! ### No placeholder is left -/

/-- A word is **foreign** to the placeholder if it begins with a letter that is none of the
placeholder's, and the placeholder begins with one that is none of its own. -/
structure Foreign (word : List Char) : Prop where
  /-- There is a first letter, and the placeholder does not have it. -/
  head : ∃ a ∈ word.head?, a ∉ placeholder
  /-- The placeholder's first letter is not in the word. -/
  dollar : '$' ∉ word

/-- The words for both modes are foreign to the placeholder. -/
theorem foreign_word (m : Mode) : Foreign m.word.toList := by
  cases m with
  | light => exact ⟨⟨'l', rfl, by decide⟩, by decide⟩
  | dark => exact ⟨⟨'d', rfl, by decide⟩, by decide⟩

/-- No occurrence of the placeholder reaches into a foreign word, from either side. -/
theorem not_infix_append_foreign {word : List Char} (hword : Foreign word)
    (hbefore : ¬placeholder <:+: before) (hbehind : ¬placeholder <:+: behind) :
    ¬placeholder <:+: before ++ (word ++ behind) := by
  obtain ⟨⟨a, hhead, ha⟩, hdollar⟩ := hword
  rw [List.infix_append_iff, List.infix_append_iff]
  rintro (hin | (hin | hin | ⟨front, rear, hsplit, hfront, hrear⟩) |
    ⟨front, rear, hsplit, hfront, hrear⟩)
  · exact hbefore hin
  · exact hdollar (hin.subset List.mem_cons_self)
  · exact hbehind hin
  · -- It would begin in the word.
    cases front with
    | nil =>
        rw [List.nil_append] at hsplit
        exact hbehind (hsplit ▸ hrear.isInfix)
    | cons d front =>
        obtain ⟨rfl, -⟩ : '$' = d ∧ _ := List.cons.inj hsplit
        exact hdollar (hfront.subset List.mem_cons_self)
  · -- It would begin before the word and hold the word's first letter.
    cases rear with
    | nil =>
        rw [List.append_nil] at hsplit
        exact hbefore (hsplit ▸ hfront.isInfix)
    | cons d rear =>
        obtain ⟨word, rfl⟩ : ∃ rest, word = a :: rest := List.head?_eq_some_iff.mp hhead
        obtain ⟨rfl, -⟩ := List.cons_prefix_cons.mp hrear
        rw [hsplit] at ha
        exact ha (List.mem_append_right front List.mem_cons_self)

/-- Pieces without placeholders make up a text without placeholders if they are joined by a
foreign word. -/
theorem not_infix_intercalate {word : List Char} (hword : Foreign word) {ps : List (List Char)}
    (hps : ∀ p ∈ ps, ¬placeholder <:+: p) : ¬placeholder <:+: word.intercalate ps := by
  induction ps with
  | nil =>
      rw [List.intercalate_nil]
      decide
  | cons p ps ih =>
      have hp := hps p List.mem_cons_self
      cases ps with
      | nil => rwa [List.intercalate_singleton]
      | cons q qs =>
          rw [List.intercalate_cons_cons, List.append_assoc]
          exact not_infix_append_foreign hword hp
            (ih fun r hr => hps r (List.mem_cons_of_mem p hr))

/-- **No placeholder is left** in what was filled. -/
theorem not_infix_fill {word : List Char} (hword : Foreign word) (cs : List Char) :
    ¬placeholder <:+: fill word cs := by
  rw [fill_eq_intercalate]
  exact not_infix_intercalate hword fun _ hp => not_infix_of_mem_pieces hp

/-! ### Templates -/

/-- A template is themed if it holds the placeholder. -/
theorem isThemed_iff (t : Template) : t.isThemed = true ↔ placeholder <:+: t.source.toList :=
  occurs_iff t.source.toList

/-- A source that holds the placeholder resolves to the source filled with the mode's word. -/
theorem resolve_eq_some_fill {t : Template} (h : placeholder <:+: t.source.toList) (m : Mode) :
    t.resolve m = some (String.ofList (fill m.word.toList t.source.toList)) := by
  rw [resolve, if_pos ((isThemed_iff t).mpr h)]

/-- A template has no variants if and only if its source does not hold the placeholder. -/
theorem resolve_eq_none_iff_solid (t : Template) (m : Mode) :
    t.resolve m = none ↔ ¬placeholder <:+: t.source.toList := by
  constructor
  · intro hnone h
    rw [resolve_eq_some_fill h] at hnone
    cases hnone
  · intro h
    rw [resolve, if_neg (mt (isThemed_iff t).mp h)]

/-- **What is shown for a template is no template itself.** -/
theorem not_infix_of_resolve {t : Template} {m : Mode} {shown : String}
    (h : t.resolve m = some shown) : ¬placeholder <:+: shown.toList := by
  rw [resolve] at h
  split at h
  · rw [← Option.some.inj h, String.toList_ofList]
    exact not_infix_fill (foreign_word m) _
  · cases h

/-- **Resolving fills every placeholder and leaves none.** A template is declined exactly if it
holds no placeholder. It can be cut into pieces without placeholders in one way, and the
placeholders it holds are those between the pieces. If there are any, what is shown in a mode is
the pieces with the mode's word between them; it holds no placeholder, so that it is declined
when it is taken for a template again. -/
theorem resolve_fills_placeholders (t : Template) (m : Mode) :
    (t.resolve m = none ↔ ¬placeholder <:+: t.source.toList) ∧
    ∃ ps, (∀ qs, IsCut qs t.source.toList ↔ qs = ps) ∧
      (∀ before behind, t.source.toList = before ++ placeholder ++ behind ↔
        ∃! i, (0 < i ∧ i < ps.length) ∧
          before = placeholder.intercalate (ps.take i) ∧
          behind = placeholder.intercalate (ps.drop i)) ∧
      (placeholder <:+: t.source.toList → ∃ shown, t.resolve m = some shown ∧
        shown.toList = m.word.toList.intercalate ps ∧
        ¬placeholder <:+: shown.toList ∧ ∀ m', resolve ⟨shown⟩ m' = none) := by
  refine ⟨resolve_eq_none_iff_solid t m, pieces t.source.toList, fun _ => isCut_iff,
    fun _ _ => eq_append_placeholder_iff, fun h => ?_⟩
  have hshown := resolve_eq_some_fill h m
  have hnone := not_infix_of_resolve hshown
  refine ⟨_, hshown, ?_, hnone, fun m' => (resolve_eq_none_iff_solid _ m').mpr hnone⟩
  rw [String.toList_ofList, fill_eq_intercalate]

/-- The text on both sides of a replaced placeholder does not make up another. -/
example : resolve ⟨"$th$themeeme"⟩ .light = some "$thlighteme" := by decide

end ThemedPage.Template
