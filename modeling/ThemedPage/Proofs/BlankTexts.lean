import ThemedPage.Text.Blank
import ThemedPage.Yaml.Node.Grammar

/-!
# Blank Texts

Of the characters that are blank, YAML takes only some for gaps between tokens. The others are
text like any other, so that the document of a blank text can have a root. That is a scalar all
the same: every indicator is a character that is not blank, and so no collection can begin.
-/

namespace ThemedPage.Yaml

/-- Glyphs are **blank** if all their characters are. -/
def AllBlank (gs : List Glyph) : Prop := ∀ g ∈ gs, Text.isBlank g.char

/-! ### Glyphs -/

/-- What is behind a gap was there before. -/
theorem mem_of_mem_skipGaps {flow comment keyAllowed : Bool} {gs : List Glyph} {g : Glyph}
    (h : g ∈ (Lexer.skipGaps flow comment keyAllowed gs).2) : g ∈ gs := by
  induction gs generalizing comment keyAllowed with
  | nil => exact h
  | cons g' gs ih =>
      rw [Lexer.skipGaps] at h
      split at h
      · exact List.mem_cons_of_mem g' (ih h)
      split at h
      · exact List.mem_cons_of_mem g' (ih h)
      split at h
      · exact List.mem_cons_of_mem g' (ih h)
      split at h
      · exact List.mem_cons_of_mem g' (ih h)
      · exact h

/-- What is behind a plain scalar was there before. -/
theorem mem_of_plainText {flow : Bool} {column : Nat} {text : List Char} {gap : Gap}
    {gs rest : List Glyph} {read : List Char} {broken : Bool} {g : Glyph}
    (h : plainText flow column text gap gs = some (read, broken, rest)) (hg : g ∈ rest) :
    g ∈ gs := by
  induction gs generalizing text gap with
  | nil =>
      cases h
      cases hg
  | cons g' gs ih =>
      rw [plainText] at h
      split at h
      · split at h
        · cases h
        · exact List.mem_cons_of_mem g' (ih h)
      split at h
      · cases h
        exact hg
      split at h
      · cases h
      split at h
      · cases h
        exact hg
      · exact List.mem_cons_of_mem g' (ih h)

/-! ### Tokens -/

namespace Lexer

/-- A lexer in a **blank** text: nothing but blank glyphs to come, and nothing but plain scalars
so far. -/
structure InBlank (s : Lexer) : Prop where
  /-- The glyphs to come. -/
  rest : AllBlank s.rest
  /-- The tokens so far. -/
  emitted : ∀ p ∈ s.emitted, ∃ text, p.token = .scalar text true
  /-- No bracket or brace is open. -/
  levels : s.levels = []
  /-- No block collection is open. -/
  outer : s.outer = []

variable {s s' : Lexer}

/-- In a blank text no block collection is open that could be closed. -/
theorem InBlank.closeBlocks (h : s.InBlank) (column : Option Nat) : s.closeBlocks column = s := by
  rw [Lexer.closeBlocks, h.outer]
  split <;> rfl

/-- Giving up a possible key keeps a lexer in a blank text. -/
theorem InBlank.dropKey (h : s.InBlank) (hs : s.dropKey = some s') : s'.InBlank := by
  rw [Lexer.dropKey] at hs
  split at hs
  · cases hs
  · cases hs
    exact ⟨h.rest, h.emitted, h.levels, h.outer⟩

/-- Noting that a key may begin keeps a lexer in a blank text. -/
theorem InBlank.noteKey (h : s.InBlank) (hs : s.noteKey = some s') : s'.InBlank := by
  rw [Lexer.noteKey] at hs
  split at hs
  · obtain ⟨t, ht, hs⟩ := Option.bind_eq_some_iff.mp hs
    cases hs
    have ht' := h.dropKey ht
    exact ⟨ht'.rest, ht'.emitted, ht'.levels, ht'.outer⟩
  · cases hs
    exact h

/-- Giving up what has lapsed keeps a lexer in a blank text. -/
theorem InBlank.dropLapsed (h : s.InBlank) (hs : s.dropLapsed = some s') : s'.InBlank := by
  rw [Lexer.dropLapsed] at hs
  split at hs
  · cases hs
  · cases hs
    exact ⟨h.rest, h.emitted, by simp [h.levels], h.outer⟩

/-- Going on to the next token keeps a lexer in a blank text. -/
theorem InBlank.advance (h : s.InBlank) (hs : s.advance = some s') : s'.InBlank := by
  obtain ⟨t, ht, hs⟩ := Option.bind_eq_some_iff.mp hs
  cases hs
  have hskipped : InBlank { s with
      keyAllowed := (skipGaps s.inFlow false s.keyAllowed s.rest).1
      rest := (skipGaps s.inFlow false s.keyAllowed s.rest).2 } :=
    ⟨fun g hg => h.rest g (mem_of_mem_skipGaps hg), h.emitted, h.levels, h.outer⟩
  have ht' : t.InBlank := hskipped.dropLapsed ht
  rw [ht'.closeBlocks]
  exact ht'

/-- Reading a plain scalar keeps a lexer in a blank text. -/
theorem InBlank.plain (h : s.InBlank) (hs : s.plain = some s') : s'.InBlank := by
  obtain ⟨t, ht, hs⟩ := Option.bind_eq_some_iff.mp hs
  obtain ⟨⟨text, broken, rest⟩, hread, hs⟩ := Option.bind_eq_some_iff.mp hs
  cases hs
  have ht' : t.InBlank := h.noteKey ht
  refine ⟨fun g hg => ht'.rest g (mem_of_plainText hread hg), fun p hp => ?_, ht'.levels,
    ht'.outer⟩
  rcases List.mem_cons.mp hp with rfl | hp
  · exact ⟨text, rfl⟩
  · exact ht'.emitted p hp

/-- A token that begins with a blank is a plain scalar. -/
theorem plain_of_token {g : Glyph} {gs : List Glyph} (hg : Text.isBlank g.char)
    (hs : s.token g gs = some s') : s.plain = some s' := by
  have hne : ∀ c, Text.isBlank c = false → g.char ≠ c := by
    rintro c hc rfl
    rw [hc] at hg
    cases hg
  have hmarker : ∀ c, Text.isBlank c = false → markerNext c (g :: gs) = false := fun c hc => by
    simp [markerNext, hne c hc]
  have hindicators : ∀ c ∈ ['%', '[', '{', ']', '}', ',', '-', '?', ':', '*', '&', '!', '|', '>',
      '\x27', '\x22'], g.char ≠ c := fun c hc => hne c <| by
    simpa using (List.all_eq_true (p := fun c => !Text.isBlank c)).mp (by decide) c hc
  have hplain : beginsPlain s.inFlow g.char gs ∧ s.plain = some s' := by
    simpa [token, hmarker '-' rfl, hmarker '.' rfl, hindicators] using hs
  exact hplain.2

/-- At the end of a blank text the tokens are plain scalars and the end of the stream. -/
theorem InBlank.finish {tokens : List Placed} (h : s.InBlank) (hs : s.finish = some tokens) :
    ∃ scalars stop, tokens = scalars ++ [stop] ∧ stop.token = .streamEnd ∧
      ∀ p ∈ scalars, ∃ text, p.token = .scalar text true := by
  obtain ⟨t, ht, hs⟩ := Option.bind_eq_some_iff.mp hs
  cases hs
  have hended : InBlank { s with
      rest := []
      stop := if s.stop.column = 0 then s.stop else s.stop.nextLine 0 } :=
    ⟨nofun, h.emitted, h.levels, h.outer⟩
  rw [hended.closeBlocks] at ht
  have ht' : t.InBlank := hended.dropKey ht
  refine ⟨t.emitted.reverse, ⟨.streamEnd, t.mark⟩, List.reverse_cons, rfl, fun p hp => ?_⟩
  exact ht'.emitted p (List.mem_reverse.mp hp)

/-- What the tokens of a blank text are: plain scalars, and the end behind them. -/
theorem InBlank.run {rounds : Nat} {tokens : List Placed} (h : s.InBlank)
    (hs : run rounds s = some tokens) :
    ∃ scalars stop, tokens = scalars ++ [stop] ∧ stop.token = .streamEnd ∧
      ∀ p ∈ scalars, ∃ text, p.token = .scalar text true := by
  induction rounds generalizing s with
  | zero => cases hs
  | succ rounds ih =>
      obtain ⟨t, ht, hs⟩ := Option.bind_eq_some_iff.mp hs
      have ht' : t.InBlank := h.advance ht
      split at hs
      · exact ht'.finish hs
      · rename_i g gs hrest
        obtain ⟨u, hu, hs⟩ := Option.bind_eq_some_iff.mp hs
        have hg : Text.isBlank g.char := ht'.rest g (hrest ▸ List.mem_cons_self)
        exact ih (ht'.plain (plain_of_token hg hu)) hs

end Lexer

end ThemedPage.Yaml
