import ThemedPage.Page

/-!
# Passes, Image by Image

A pass over a page is computed as a list of writes from the images as they are at its beginning.
Told as it happens, a pass goes from image to image, reads the attributes of each as they are by
then, and writes to it before it goes on. This module proves the two equal: an image is read
before it is written and never afterwards.

A pass that writes no value that is there already is **sparing**. What it writes can then be told
from the pages before and after it: there is one write for every image that changed, in document
order. Both passes of a synchronizer are sparing.

## Main results

* `Page.sweep_eq` — a pass told image by image;
* `Page.changed_writeAll_updates` — the images that a sparing pass writes to are those that
  change;
* `Page.imageAttribute?_of_mem_updates` — what was written is there afterwards.
-/

namespace ThemedPage.Page

variable {name : String} {wanted : Attributes → Option String}

/-! ### From image to image -/

/-- Goes over the images at some positions, reads each as it is by then, and gives it the value
that is wanted for it, if one is: the page at the end, and the writes that were made. -/
def sweep (name : String) (wanted : Attributes → Option String) :
    List Nat → Page → Page × List ImageWrite
  | [], p => (p, [])
  | i :: is, p =>
    match p.images[i]?.bind wanted with
    | some value =>
      let w : ImageWrite := ⟨i, name, value⟩
      let (q, ws) := sweep name wanted is (p.write w)
      (q, w :: ws)
    | none => sweep name wanted is p

/-- A sweep over the rest of the images makes the writes that were worked out beforehand:
no write is to an image that is still to be read. -/
theorem sweep_append (name : String) (wanted : Attributes → Option String) (root : Attributes)
    (done rest : List Attributes) :
    sweep name wanted (List.range' done.length rest.length) ⟨root, done ++ rest⟩ =
      ((Page.mk root (done ++ rest)).writeAll (updates name wanted done.length rest),
        updates name wanted done.length rest) := by
  induction rest generalizing done with
  | nil => rfl
  | cons a rest ih =>
      have hread : (done ++ a :: rest)[done.length]? = some a := by simp
      -- What is left is swept over like a whole page, behind one more image.
      have hrest (b : Attributes) := ih (done ++ [b])
      simp only [List.length_append, List.length_singleton, List.append_assoc,
        List.singleton_append] at hrest
      rw [List.length_cons, List.range'_succ, sweep, updates, hread, Option.bind_some]
      cases wanted a with
      | none => exact hrest a
      | some value =>
          simp only [write_append_cons, hrest, writeAll_cons]

/-- **A pass told image by image** writes the same, and makes the same page of it. -/
theorem sweep_eq (name : String) (wanted : Attributes → Option String) (p : Page) :
    sweep name wanted (List.range p.images.length) p =
      (p.writeAll (updates name wanted 0 p.images), updates name wanted 0 p.images) := by
  rw [List.range_eq_range']
  exact sweep_append name wanted p.root [] p.images

/-! ### The writes of a pass -/

/-- The writes of a pass are one for each image for which a value is wanted, in document
order. -/
theorem updates_eq_filterMap (name : String) (wanted : Attributes → Option String) (i : Nat)
    (images : List Attributes) :
    updates name wanted i images = (images.zipIdx i).filterMap fun entry =>
      (wanted entry.1).map fun value => ⟨entry.2, name, value⟩ := by
  induction images generalizing i with
  | nil => rfl
  | cons a images ih =>
      rw [updates, List.zipIdx_cons, List.filterMap_cons, ih]
      cases wanted a with
      | none => rfl
      | some value => rfl

/-- There is a write for every image for which a value is wanted. -/
theorem length_updates (name : String) (wanted : Attributes → Option String) (i : Nat)
    (images : List Attributes) :
    (updates name wanted i images).length = images.countP fun a => (wanted a).isSome := by
  induction images generalizing i with
  | nil => rfl
  | cons a images ih =>
      rw [updates]
      cases h : wanted a with
      | none => simp [h, ih]
      | some value => simp [h, ih]

/-- There are no writes exactly where no image wants one. -/
theorem updates_eq_nil_iff (name : String) (wanted : Attributes → Option String) (i : Nat)
    (images : List Attributes) :
    updates name wanted i images = [] ↔ ∀ a ∈ images, wanted a = none := by
  rw [← List.length_eq_zero_iff, length_updates, List.countP_eq_zero]
  simp

/-- All writes of a pass are of its attribute. -/
theorem name_of_mem_updates {i : Nat} {images : List Attributes} {w : ImageWrite}
    (hw : w ∈ updates name wanted i images) : w.name = name := by
  rw [updates_eq_filterMap, List.mem_filterMap] at hw
  obtain ⟨_, -, hvalue⟩ := hw
  obtain ⟨_, -, rfl⟩ := Option.map_eq_some_iff.mp hvalue
  rfl

/-- A write of a pass is to an image for which its value is wanted. -/
theorem exists_of_mem_updates {images : List Attributes} {w : ImageWrite}
    (hw : w ∈ updates name wanted 0 images) :
    ∃ a, images[w.image]? = some a ∧ wanted a = some w.value := by
  rw [updates_eq_filterMap, List.mem_filterMap] at hw
  obtain ⟨⟨a, i⟩, hmem, hvalue⟩ := hw
  obtain ⟨value, hwanted, rfl⟩ := Option.map_eq_some_iff.mp hvalue
  exact ⟨a, List.mem_zipIdx_iff_getElem?.mp hmem, hwanted⟩

/-- What becomes of images does not matter to a pass if it wants the same of them. -/
theorem updates_map {f : Attributes → Attributes} (h : ∀ a, wanted (f a) = wanted a) (i : Nat)
    (images : List Attributes) :
    updates name wanted i (images.map f) = updates name wanted i images := by
  induction images generalizing i with
  | nil => rfl
  | cons a images ih => rw [List.map_cons, updates, updates, h, ih]

/-! ### What a pass changes -/

/-- An image has the value that is wanted for it, or else the one it had, and everything else is
as it was. -/
theorem get?_update (name : String) (wanted : Attributes → Option String) (a : Attributes)
    (other : String) :
    (update name wanted a).get? other =
      if other = name then (wanted a).or (a.get? name) else a.get? other := by
  rw [update]
  cases wanted a with
  | none =>
      by_cases hn : other = name
      · rw [if_pos hn, hn, Option.none_or]
      · rw [if_neg hn]
  | some value =>
      by_cases hn : other = name
      · rw [if_pos hn, hn, Dict.get?_insert_self, Option.some_or]
      · rw [if_neg hn, Dict.get?_insert_of_ne _ (Ne.symm hn)]

/-- A pass is **sparing** if no value is wanted that is there already. -/
def Sparing (name : String) (wanted : Attributes → Option String) : Prop :=
  ∀ a value, wanted a = some value → a.get? name ≠ some value

/-- The positions of the images that are not the same on another page, in document order. -/
def changed (p q : Page) : List Nat :=
  (List.range p.images.length).filter fun i => p.images[i]? ≠ q.images[i]?

/-- A sparing pass leaves alone just the images for which nothing is wanted. -/
theorem update_eq_self_iff (h : Sparing name wanted) (a : Attributes) :
    update name wanted a = a ↔ wanted a = none := by
  rw [update]
  cases hwanted : wanted a with
  | none => simp
  | some value =>
      refine iff_of_false (fun heq => h a value hwanted ?_) (Option.some_ne_none value)
      rw [← heq]
      exact Dict.get?_insert_self a name value

/-- The image at a position after a pass is the one before, updated. -/
theorem getElem?_writeAll_updates (p : Page) (name : String)
    (wanted : Attributes → Option String) (i : Nat) :
    (p.writeAll (updates name wanted 0 p.images)).images[i]? =
      p.images[i]?.map (update name wanted) := by
  rw [images_writeAll_updates, List.getElem?_map]

/-- What was written is there afterwards. -/
theorem imageAttribute?_of_mem_updates {p : Page} {w : ImageWrite}
    (hw : w ∈ updates name wanted 0 p.images) :
    (p.writeAll (updates name wanted 0 p.images)).imageAttribute? w.image name =
      some w.value := by
  obtain ⟨a, hread, hwanted⟩ := exists_of_mem_updates hw
  rw [imageAttribute?, getElem?_writeAll_updates, hread, Option.map_some, Option.bind_some,
    get?_update, if_pos rfl, hwanted, Option.some_or]

/-- The images that a pass writes to are those for which a value is wanted, in order. -/
theorem map_image_updates (name : String) (wanted : Attributes → Option String)
    (images : List Attributes) :
    (updates name wanted 0 images).map ImageWrite.image =
      (List.range images.length).filter fun i => (images[i]?.bind wanted).isSome := by
  have hentries : ∀ entries : List (Attributes × Nat),
      (∀ entry ∈ entries, images[entry.2]? = some entry.1) →
      (entries.filterMap fun entry => (wanted entry.1).map fun value =>
        ImageWrite.mk entry.2 name value).map ImageWrite.image =
        (entries.map Prod.snd).filter fun i => (images[i]?.bind wanted).isSome := by
    intro entries hmem
    induction entries with
    | nil => rfl
    | cons entry entries ih =>
        have hrest := ih fun e he => hmem e (List.mem_cons_of_mem entry he)
        rw [List.filterMap_cons, List.map_cons, List.filter_cons,
          hmem entry List.mem_cons_self, Option.bind_some]
        cases wanted entry.1 with
        | none => exact hrest
        | some value => exact congrArg (entry.2 :: ·) hrest
  rw [updates_eq_filterMap, hentries _ fun _ => List.mem_zipIdx_iff_getElem?.mp,
    List.zipIdx_map_snd, ← List.range_eq_range']

/-- **The images that a sparing pass writes to are those that change.** -/
theorem changed_writeAll_updates (h : Sparing name wanted) (p : Page) :
    changed p (p.writeAll (updates name wanted 0 p.images)) =
      (updates name wanted 0 p.images).map ImageWrite.image := by
  rw [map_image_updates, changed]
  refine List.filter_congr fun i hi => ?_
  rw [getElem?_writeAll_updates, List.getElem?_eq_getElem (List.mem_range.mp hi),
    Option.map_some, Option.bind_some]
  rw [Bool.eq_iff_iff, decide_eq_true_iff, Option.isSome_iff_ne_none, ne_eq, ne_eq,
    Option.some_inj, eq_comm, update_eq_self_iff h]

/-- There are as many writes of a sparing pass as images that change. -/
theorem length_updates_eq_changed (h : Sparing name wanted) (p : Page) :
    (updates name wanted 0 p.images).length =
      (changed p (p.writeAll (updates name wanted 0 p.images))).length := by
  rw [changed_writeAll_updates h, List.length_map]

end ThemedPage.Page
