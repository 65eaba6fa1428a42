import ThemedPage.ThemeTable.Reading

/-!
# What Readings Give

A `Reading` tells three things at once: a value or a fault, where the fault is, and how many
aliases were followed. Of a text that can be read only the value matters in the end, as long
as aliases are few. This module says for each kind of reading which nodes it accepts and what
it **gives** for them, as an option, with a bound on the aliases it follows. The bounds add up
along a document, and there they stay far below the limit on repeated nodes.

## Main results

* `Reading.gives_scalar`, `Reading.gives_choice`, `Reading.gives_mapping`,
  `Reading.gives_dict` — the kinds of readings;
* `Node.two_mul_length_le_size` — a mapping is as large as its keys and values at least;
* `Document.size_le_of_target?` — an alias stands for no more than there is in the document;
* `readText_of_gives` — from the root of a document to its text.
-/

namespace ThemedPage.Yaml

variable {α β : Type}

/-- The node **behind** a node: the one that an alias stands for, if there is one, and any
other node itself. -/
def Document.behind? (d : Document) : Node → Option Node
  | .alias _ id => d.target? id
  | n => some n

/-- The text of a scalar. -/
def Node.scalarText? : Node → Option String
  | .scalar _ _ s => some s
  | _ => none

/-- Whether a node is a plain scalar that means nothing. -/
def Node.meansNothing : Node → Bool
  | .scalar _ plain s => plain && (s.isEmpty || spellsNull s)
  | _ => false

/-- The entries of a mapping; a plain scalar without text is a mapping without any. -/
def Node.entries? : Node → Option (List (Node × Node))
  | .mapping _ entries => some entries
  | .scalar _ true "" => some []
  | _ => none

/-- What a node chooses among words: one with a local tag chooses by its tag and has to mean
nothing besides, and any other by its text. -/
def Node.chosen? (words : List (String × α)) (n : Node) : Option α :=
  match n.word? with
  | some word => if n.meansNothing then words.lookup word else none
  | none => n.scalarText?.bind fun s => words.lookup s

namespace Reading

/-- A reading **gives** a value, or none if it stops at a fault, and does not follow more than
some number of aliases. -/
structure Gives (r : Reading α) (value : Option α) (most : Nat) : Prop where
  /-- The value. -/
  value : r.result.toOption = value
  /-- The aliases. -/
  hops : r.hops ≤ most

variable {d : Document} {path : Path} {value : Option α} {k : Nat} {r : Reading α}

/-- A bound on the aliases that are followed may be widened. -/
theorem Gives.mono (h : r.Gives value k) {k' : Nat} (hk : k ≤ k') : r.Gives value k' :=
  ⟨h.value, Nat.le_trans h.hops hk⟩

theorem gives_pure (a : α) : (pure a : Reading α).Gives (some a) 0 := ⟨rfl, Nat.le_refl 0⟩

theorem gives_fail (problem : Problem) : (fail problem : Reading α).Gives none 0 :=
  ⟨rfl, Nat.le_refl 0⟩

/-- A check gives its value where it holds, and nothing where it does not. -/
theorem gives_ite (c : Prop) [Decidable c] (a : α) (problem : Problem) :
    (if c then pure a else fail problem : Reading α).Gives (if c then some a else none) 0 := by
  split
  · exact gives_pure a
  · exact gives_fail problem

/-- One reading after another follows the aliases of both. -/
theorem Gives.bind (h : r.Gives value k) {f : α → Reading β} {g : α → Option β} {j : Nat}
    (hf : ∀ a, (f a).Gives (g a) j) : (r >>= f).Gives (value.bind g) (k + j) := by
  obtain ⟨result, hops⟩ := r
  obtain ⟨hvalue, hhops⟩ := h
  cases result with
  | error fault => exact ⟨hvalue ▸ rfl, Nat.le_trans hhops (Nat.le_add_right k j)⟩
  | ok a => exact ⟨hvalue ▸ (hf a).value, Nat.add_le_add hhops (hf a).hops⟩

/-- Behind a fault nothing is read. -/
theorem gives_fail_bind (problem : Problem) (f : α → Reading β) :
    (fail problem >>= f).Gives none 0 := ⟨rfl, Nat.le_refl 0⟩

/-- What is there already can be read on from. -/
theorem Gives.pure_bind {a : α} {f : α → Reading β} {value : Option β} (h : (f a).Gives value k) :
    (pure a >>= f).Gives value k :=
  ⟨h.value, Nat.le_trans (Nat.le_of_eq (Nat.zero_add _)) h.hops⟩

/-- A value that is read can be made something of. -/
theorem Gives.map (h : r.Gives value k) (f : α → β) : (f <$> r).Gives (value.map f) k := by
  have hbind := h.bind fun a => gives_pure (f a)
  cases value with
  | none => exact hbind
  | some a => exact hbind

/-- Where a fault is located does not matter. -/
theorem Gives.located (h : r.Gives value k) (path : Path) (mark : Mark) :
    (r.located path mark).Gives value k := by
  refine ⟨?_, h.hops⟩
  rw [← h.value, Reading.located]
  cases r.result <;> rfl

/-- An alias that is followed counts for one more. -/
theorem Gives.hop (h : r.Gives value k) : r.hop.Gives value (k + 1) :=
  ⟨h.value, Nat.succ_le_succ h.hops⟩

/-! ### Kinds of readings -/

/-- An alias in front of a node costs one more. -/
theorem gives_behindAlias (d : Document) (path : Path) {read : Node → Reading α}
    {g : Node → Option α} {n : Node}
    (hread : ∀ m, d.behind? n = some m → (read m).Gives (g m) k) :
    (behindAlias d path read n).Gives ((d.behind? n).bind g) (k + 1) := by
  cases n with
  | «alias» mark id =>
      rw [behindAlias]
      simp only [Document.behind?] at hread ⊢
      cases htarget : d.target? id with
      | none => exact ((gives_fail _).mono (Nat.zero_le _)).located _ _
      | some n => exact (hread n htarget).hop.located _ _
  | scalar p plain s => exact (hread _ rfl).mono (Nat.le_succ k)
  | sequence p items => exact (hread _ rfl).mono (Nat.le_succ k)
  | mapping p entries => exact (hread _ rfl).mono (Nat.le_succ k)

/-- Scalars give what their text gives. -/
theorem gives_scalar (d : Document) (path : Path) (wanted : String)
    {read : String → Reading α} {g : String → Option α} (hread : ∀ s, (read s).Gives (g s) 0)
    (n : Node) :
    (scalar d path wanted read n).Gives
      ((d.behind? n).bind fun n => n.scalarText?.bind g) 1 := by
  refine gives_behindAlias d path fun n _ => ?_
  cases n with
  | scalar p plain s => exact (hread s).located _ _
  | sequence p items => exact (gives_fail _).located _ _
  | mapping p entries => exact (gives_fail _).located _ _
  | «alias» mark id => exact (gives_fail _).located _ _

/-- A text is the scalar behind a node, if it is one. -/
theorem gives_text (d : Document) (path : Path) (n : Node) :
    (text d path n).Gives ((d.behind? n).bind Node.scalarText?) 1 := by
  have hscalar := gives_scalar d path "a string" (fun s => gives_pure s) n
  simp only [Option.bind_fun_some] at hscalar
  exact hscalar

/-- Choices give what nodes choose. -/
theorem gives_choice (d : Document) (path : Path) (words : List (String × α)) (n : Node) :
    (choice d path words n).Gives ((d.behind? n).bind (Node.chosen? words)) 1 := by
  refine gives_behindAlias d path fun n _ => ?_
  rw [Node.chosen?]
  cases hword : n.word? with
  | some word =>
      -- The word is looked up first, and then the node has to mean nothing.
      cases ha : words.lookup word with
      | none =>
          simp only [ha, ite_self]
          exact gives_fail_bind _ _
      | some a =>
          simp only [ha]
          refine Gives.pure_bind (Gives.located ?_ path n.mark)
          cases n with
          | scalar p plain s => exact gives_ite _ a _
          | sequence p items => exact gives_fail _
          | mapping p entries => exact gives_fail _
          | «alias» mark id => exact gives_fail _
  | none =>
      cases n with
      | scalar p plain s =>
          refine Gives.located ?_ path p.mark
          cases ha : words.lookup s with
          | none =>
              simp only [Node.scalarText?, Option.bind_some, ha]
              exact gives_fail _
          | some a =>
              simp only [Node.scalarText?, Option.bind_some, ha]
              exact gives_pure a
      | sequence p items => exact (gives_fail _).located _ _
      | mapping p entries => exact (gives_fail _).located _ _
      | «alias» mark id => exact (gives_fail _).located _ _

/-- The rows that the entries of a mapping are, in order, if their keys are texts and their
values of the kind that is wanted. -/
def rows? (d : Document) (value? : Node → Option α) (entries : List (Node × Node)) :
    Option (List (String × α)) :=
  entries.mapM fun e =>
    ((d.behind? e.1).bind Node.scalarText?).bind fun name =>
      (value? e.2).map fun value => (name, value)

/-- Entries give rows if all of their keys and values can be read. -/
theorem gives_rows {read : Path → Node → Reading α} {value? : Node → Option α}
    (hread : ∀ path n, (read path n).Gives (value? n) k) (path : Path)
    (entries : List (Node × Node)) :
    (rows d path read entries).Gives (rows? d value? entries) ((1 + k) * entries.length) := by
  induction entries with
  | nil => exact gives_pure []
  | cons e entries ih =>
      have hentry := (gives_text d path e.1).bind fun name =>
        (hread (valuePath path e.1) e.2).bind fun value =>
          ih.bind fun rest => gives_pure ((name, value) :: rest)
      have hvalue : rows? d value? (e :: entries) =
          ((d.behind? e.1).bind Node.scalarText?).bind fun name =>
            (value? e.2).bind fun value =>
              (rows? d value? entries).bind fun rest => some ((name, value) :: rest) := by
        simp only [rows?, List.mapM_cons, Option.bind_eq_bind, Option.pure_def,
          Option.bind_assoc, Option.bind_map, Function.comp_def]
      rw [hvalue]
      refine hentry.mono ?_
      rw [List.length_cons, Nat.mul_succ]
      omega

/-- Mappings give what their entries give. -/
theorem gives_mapping (d : Document) (path : Path) (wanted : String)
    {read : List (Node × Node) → Reading α} {g : List (Node × Node) → Option α} {n : Node}
    (hread : ∀ entries, (d.behind? n).bind Node.entries? = some entries →
      (read entries).Gives (g entries) k) :
    (mapping d path wanted read n).Gives (((d.behind? n).bind Node.entries?).bind g) (k + 1) := by
  rw [Option.bind_assoc]
  refine gives_behindAlias d path fun m hm => ?_
  rw [hm, Option.bind_some] at hread
  cases m with
  | mapping p entries => exact (hread entries rfl).located _ _
  | scalar p plain s =>
      refine Gives.located ?_ _ _
      split
      · rename_i heq
        cases heq
      · rename_i heq
        cases heq
        exact hread [] rfl
      · rename_i hother
        have hnone : (Node.scalar p plain s).entries? = none := by
          rw [Node.entries?.eq_def]
          split
          · rename_i heq
            cases heq
          · rename_i heq
            exact absurd heq (hother _)
          · rfl
        rw [hnone]
        exact (gives_fail _).mono (Nat.zero_le k)
  | sequence p items => exact ((gives_fail _).mono (Nat.zero_le k)).located _ _
  | «alias» mark id => exact ((gives_fail _).mono (Nat.zero_le k)).located _ _

/-- A mapping gives the dictionary of its rows. -/
theorem gives_dict {read : Path → Node → Reading α} {value? : Node → Option α}
    (hread : ∀ path n, (read path n).Gives (value? n) k) (path : Path) {n : Node} {most : Nat}
    (hmost : ∀ entries, (d.behind? n).bind Node.entries? = some entries →
      (1 + k) * entries.length ≤ most) :
    (dict d path read n).Gives
      (((d.behind? n).bind Node.entries?).bind fun entries =>
        (rows? d value? entries).map Dict.ofList) (most + 1) :=
  gives_mapping d path "a map" fun entries hentries =>
    ((gives_rows hread path entries).map Dict.ofList).mono (hmost entries hentries)

end Reading

/-! ### Sizes -/

theorem Node.one_le_size (n : Node) : 1 ≤ n.size := by
  cases n with
  | scalar p plain s => simp [size]
  | sequence p items => simp [size]; omega
  | mapping p entries => simp [size]; omega
  | «alias» mark id => simp [size]

/-- An entry counts for two at least, for its key and its value. -/
theorem Node.two_mul_length_le_sizeEntries (entries : List (Node × Node)) :
    2 * entries.length ≤ sizeEntries entries := by
  induction entries with
  | nil => simp
  | cons e entries ih =>
      have hkey := e.1.one_le_size
      have hvalue := e.2.one_le_size
      simp only [List.length_cons, sizeEntries]
      omega

/-- A mapping is as large as its keys and values at least. -/
theorem Node.two_mul_length_le_size (p : Properties) (entries : List (Node × Node)) :
    2 + 2 * entries.length ≤ (Node.mapping p entries).size := by
  have := two_mul_length_le_sizeEntries entries
  simp only [size]
  omega

/-- Under the anchor of a node there is that node alone. -/
theorem Node.eq_of_mem_underAnchor {p : Properties} {n m : Node} {id : Nat}
    (h : (id, m) ∈ underAnchor p n) : m = n := by
  rw [underAnchor] at h
  split at h
  · cases List.mem_singleton.mp h
    rfl
  · cases h

mutual

/-- An anchored node is no larger than a tree that it is in. -/
theorem Node.size_le_of_mem_anchored {m : Node} {id : Nat} :
    (n : Node) → (id, m) ∈ n.anchored → m.size ≤ n.size
  | .scalar p plain s, h => by
      exact Nat.le_of_eq (congrArg size (eq_of_mem_underAnchor h))
  | .sequence p items, h => by
      rw [anchored] at h
      rcases List.mem_append.mp h with h | h
      · exact Nat.le_of_eq (congrArg size (eq_of_mem_underAnchor h))
      · have := size_le_of_mem_anchoredItems items h
        rw [size]
        omega
  | .mapping p entries, h => by
      rw [anchored] at h
      rcases List.mem_append.mp h with h | h
      · exact Nat.le_of_eq (congrArg size (eq_of_mem_underAnchor h))
      · have := size_le_of_mem_anchoredEntries entries h
        rw [size]
        omega
  | .alias mark id, h => by cases h

/-- An anchored node is no larger than the items of a sequence that it is among. -/
theorem Node.size_le_of_mem_anchoredItems {m : Node} {id : Nat} :
    (ns : List Node) → (id, m) ∈ anchoredItems ns → m.size ≤ sizeItems ns
  | [], h => by cases h
  | n :: ns, h => by
      rw [anchoredItems] at h
      rw [sizeItems]
      rcases List.mem_append.mp h with h | h
      · have := size_le_of_mem_anchored n h
        omega
      · have := size_le_of_mem_anchoredItems ns h
        omega

/-- An anchored node is no larger than the entries of a mapping that it is among. -/
theorem Node.size_le_of_mem_anchoredEntries {m : Node} {id : Nat} :
    (es : List (Node × Node)) → (id, m) ∈ anchoredEntries es → m.size ≤ sizeEntries es
  | [], h => by cases h
  | (k, v) :: es, h => by
      rw [anchoredEntries] at h
      rw [sizeEntries]
      rcases List.mem_append.mp h with h | h
      · rcases List.mem_append.mp h with h | h
        · have := size_le_of_mem_anchored k h
          omega
        · have := size_le_of_mem_anchored v h
          omega
      · have := size_le_of_mem_anchoredEntries es h
        omega

end

/-! ### Whole texts -/

/-- A text whose document has a root gives what the root gives, if aliases are few. -/
theorem readText_of_gives {text : String} {d : Document} {n : Node} {empty : Reading α}
    {read : Document → Node → Reading α} {value : Option α} {k : Nat}
    (htext : Document.ofText? text = some d) (hroot : d.root = some n)
    (hread : (read d n).Gives value k) (hk : k ≤ repeatLimit * d.size) :
    (readText text empty read).toOption = value := by
  have hfew : ¬repeatLimit * d.size < (read d n).hops := by
    have := hread.hops
    omega
  simp only [readText, htext, hroot, Option.elim_some, if_neg hfew]
  rw [← hread.value]
  cases (read d n).result <;> rfl

end ThemedPage.Yaml
