/-!
# Dictionaries in Order of Name

The attributes of an element and the rows of a theme table are dictionaries: finite maps
from names to values, listed by name in code point order. A **dictionary** is the list of
its entries with strictly increasing names, so two dictionaries that answer every look-up
alike are equal (`Dict.ext_get?`).

## Main results

* `Dict.get?_insert`, `Dict.get?_erase` — what each operation does to look-ups;
* `Dict.mem_entries_iff` — the entries are exactly the look-ups that succeed;
* `Dict.ext_get?` — a dictionary is determined by its look-ups.
-/

namespace ThemedPage

variable {α : Type}

/-! ### Entry lists -/

/-- Puts an entry in its place among entries in order of name, over one of the same
name. -/
def insertEntry (name : String) (value : α) : List (String × α) → List (String × α)
  | [] => [(name, value)]
  | e :: es =>
    if name < e.1 then (name, value) :: e :: es
    else if name = e.1 then (name, value) :: es
    else e :: insertEntry name value es

/-- Nothing comes in with an entry but the entry itself. -/
theorem mem_insertEntry {name : String} {value : α} {e : String × α}
    {es : List (String × α)} (h : e ∈ insertEntry name value es) :
    e = (name, value) ∨ e ∈ es := by
  induction es with
  | nil => simpa [insertEntry] using h
  | cons d es ih => grind [insertEntry]

/-- A name that is neither smaller than another nor equal to it is greater. -/
theorem lt_of_not_lt_of_ne {a b : String} (h : ¬a < b) (hne : a ≠ b) : b < a :=
  Std.lt_of_le_of_ne (Std.not_lt.mp h) (Ne.symm hne)

/-- The order in which entries are kept: strictly increasing names. -/
abbrev Ordered (es : List (String × α)) : Prop := es.Pairwise (fun d e => d.1 < e.1)

/-- An entry that is put in its place leaves the names in strict order. -/
theorem Ordered.insertEntry {es : List (String × α)} (h : Ordered es) (name : String)
    (value : α) : Ordered (insertEntry name value es) := by
  induction es with
  | nil => simp [ThemedPage.insertEntry]
  | cons d es ih =>
    obtain ⟨hd, hes⟩ := List.pairwise_cons.mp h
    unfold ThemedPage.insertEntry
    split
    · rename_i hlt
      refine List.pairwise_cons.mpr ⟨fun e he => ?_, h⟩
      rcases List.mem_cons.mp he with rfl | he
      · exact hlt
      · exact String.lt_trans hlt (hd e he)
    · split
      · rename_i hlt heq
        subst heq
        exact List.pairwise_cons.mpr ⟨hd, hes⟩
      · rename_i hlt hne
        refine List.pairwise_cons.mpr ⟨fun e he => ?_, ih hes⟩
        rcases mem_insertEntry he with rfl | he
        · exact lt_of_not_lt_of_ne hlt hne
        · exact hd e he

/-! ### Dictionaries -/

/-- A **dictionary**: entries with strictly increasing names. -/
structure Dict (α : Type) where
  /-- The entries, in order of name. -/
  entries : List (String × α)
  /-- Names increase strictly, so none occurs twice. -/
  ordered : Ordered entries
  deriving DecidableEq

namespace Dict

/-- The dictionary without entries. -/
def empty : Dict α := ⟨[], List.Pairwise.nil⟩

instance : Inhabited (Dict α) := ⟨empty⟩

/-- The value under a name, if there is one. -/
def get? (d : Dict α) (name : String) : Option α :=
  (d.entries.find? (·.1 = name)).map (·.2)

/-- Whether a name has a value. -/
def contains (d : Dict α) (name : String) : Bool := (d.get? name).isSome

/-- Gives a name a value, over the one it may have had. -/
def insert (d : Dict α) (name : String) (value : α) : Dict α :=
  ⟨insertEntry name value d.entries, d.ordered.insertEntry name value⟩

/-- Takes a name and its value out. -/
def erase (d : Dict α) (name : String) : Dict α :=
  ⟨d.entries.filter (·.1 ≠ name), d.ordered.filter _⟩

/-- The number of entries. -/
def size (d : Dict α) : Nat := d.entries.length

/-- Adds rows one after the other; the last row of a name counts. -/
def insertAll (d : Dict α) (rows : List (String × α)) : Dict α :=
  rows.foldl (fun d row => d.insert row.1 row.2) d

/-- The dictionary of some rows; the last row of a name counts. -/
def ofList (rows : List (String × α)) : Dict α := empty.insertAll rows

/-! ### Look-ups -/

@[simp] theorem get?_empty (name : String) : (empty : Dict α).get? name = none := rfl

@[simp] theorem ofList_nil : (ofList [] : Dict α) = empty := rfl

@[simp] theorem insertAll_nil (d : Dict α) : d.insertAll [] = d := rfl

@[simp] theorem insertAll_cons (d : Dict α) (row : String × α) (rows : List (String × α)) :
    d.insertAll (row :: rows) = (d.insert row.1 row.2).insertAll rows := rfl

/-- Of an entry that was put in, a look-up sees its name alone. -/
theorem find?_insertEntry (name other : String) (value : α) (es : List (String × α)) :
    ((insertEntry name value es).find? (·.1 = other)).map (·.2) =
      if name = other then some value else (es.find? (·.1 = other)).map (·.2) := by
  induction es with
  | nil => by_cases h : name = other <;> simp [insertEntry, h]
  | cons e es ih => grind [insertEntry]

/-- After an insertion the name has its new value and all others are as before. -/
theorem get?_insert (d : Dict α) (name other : String) (value : α) :
    (d.insert name value).get? other =
      if name = other then some value else d.get? other :=
  find?_insertEntry name other value d.entries

/-- A name has the value that it was given. -/
@[simp] theorem get?_insert_self (d : Dict α) (name : String) (value : α) :
    (d.insert name value).get? name = some value := by
  simp [get?_insert]

/-- The other names keep their values when one is given a value. -/
theorem get?_insert_of_ne (d : Dict α) {name other : String} (h : name ≠ other) (value : α) :
    (d.insert name value).get? other = d.get? other := by
  simp [get?_insert, h]

/-- After an erasure the name has no value and all others are as before. -/
theorem get?_erase (d : Dict α) (name other : String) :
    (d.erase name).get? other = if name = other then none else d.get? other := by
  unfold get? erase
  simp only [List.find?_filter]
  by_cases h : name = other
  · subst h
    simp
  · have : (fun e : String × α => !decide (e.1 = name) && decide (e.1 = other)) =
        fun e => decide (e.1 = other) := by
      funext e
      by_cases he : e.1 = other <;> simp [he, Ne.symm h]
    simp [this, h]

theorem contains_eq (d : Dict α) (name : String) : d.contains name = (d.get? name).isSome :=
  rfl

/-! ### Entries and extensionality -/

/-- Among ordered entries a look-up finds every entry under its name. -/
theorem find?_eq_some_of_mem {es : List (String × α)} (h : Ordered es) {e : String × α}
    (he : e ∈ es) : es.find? (·.1 = e.1) = some e := by
  induction es with
  | nil => simp at he
  | cons d es ih =>
    obtain ⟨hd, hes⟩ := List.pairwise_cons.mp h
    rcases List.mem_cons.mp he with rfl | he
    · simp
    · have : d.1 ≠ e.1 := by
        intro heq
        exact String.lt_irrefl _ (heq ▸ hd e he)
      simp [this, ih hes he]

/-- The entries of a dictionary are the look-ups that succeed. -/
theorem mem_entries_iff (d : Dict α) (name : String) (value : α) :
    (name, value) ∈ d.entries ↔ d.get? name = some value := by
  constructor
  · intro h
    simp [get?, find?_eq_some_of_mem d.ordered h]
  · intro h
    obtain ⟨e, he, rfl⟩ := Option.map_eq_some_iff.mp h
    have hn := List.find?_some he
    simp only [decide_eq_true_eq] at hn
    exact hn ▸ List.mem_of_find?_eq_some he

/-- Ordered entries are told by which entries they are. -/
theorem ordered_eq_of_mem_iff {es fs : List (String × α)} (he : Ordered es)
    (hf : Ordered fs) (h : ∀ e, e ∈ es ↔ e ∈ fs) : es = fs := by
  induction es generalizing fs with
  | nil =>
    cases fs with
    | nil => rfl
    | cons f fs => exact absurd ((h f).mpr List.mem_cons_self) List.not_mem_nil
  | cons e es ih =>
    cases fs with
    | nil => exact absurd ((h e).mp List.mem_cons_self) List.not_mem_nil
    | cons f fs =>
      obtain ⟨he', hes⟩ := List.pairwise_cons.mp he
      obtain ⟨hf', hfs⟩ := List.pairwise_cons.mp hf
      have hef : e = f := by
        rcases List.mem_cons.mp ((h e).mp List.mem_cons_self) with heq | hm
        · exact heq
        · rcases List.mem_cons.mp ((h f).mpr List.mem_cons_self) with heq | hm'
          · exact heq.symm
          · exact absurd (String.lt_trans (hf' e hm) (he' f hm')) (String.lt_irrefl _)
      subst hef
      congr 1
      refine ih hes hfs fun x => ?_
      constructor
      · intro hx
        rcases List.mem_cons.mp ((h x).mp (List.mem_cons_of_mem _ hx)) with rfl | hm
        · exact absurd (he' x hx) (String.lt_irrefl _)
        · exact hm
      · intro hx
        rcases List.mem_cons.mp ((h x).mpr (List.mem_cons_of_mem _ hx)) with rfl | hm
        · exact absurd (hf' x hx) (String.lt_irrefl _)
        · exact hm

/-- A dictionary is determined by its look-ups. -/
theorem ext_get? {d e : Dict α} (h : ∀ name, d.get? name = e.get? name) : d = e := by
  obtain ⟨ds, hd⟩ := d
  obtain ⟨es, he⟩ := e
  congr
  refine ordered_eq_of_mem_iff hd he fun ⟨n, v⟩ => ?_
  rw [mem_entries_iff ⟨ds, hd⟩ n v, mem_entries_iff ⟨es, he⟩ n v, h n]

/-- Taking out a name that is not there changes nothing. -/
theorem erase_of_get?_eq_none {d : Dict α} {name : String} (h : d.get? name = none) :
    d.erase name = d := by
  refine ext_get? fun other => ?_
  rw [get?_erase]
  split
  · rename_i heq
    rw [← heq, h]
  · rfl

/-- Storing the value a name already has changes nothing. -/
theorem insert_of_get? {d : Dict α} {name : String} {value : α}
    (h : d.get? name = some value) : d.insert name value = d := by
  refine ext_get? fun other => ?_
  by_cases hn : name = other
  · subst hn
    simp [h]
  · simp [get?_insert, hn]

end Dict

end ThemedPage
