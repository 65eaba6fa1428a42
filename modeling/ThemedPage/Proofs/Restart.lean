import ThemedPage.Proofs.Reactivity

/-!
# Starting Again

A synchronizer may be started on a page where it was started before, and leaves a further
watcher every time. The watchers know nothing of one another: in one delivery some see a
change of the theme and others none, since they came after it. This module shows that
nothing of this is ever seen on the page. The start that comes later shows the images in
the mode of the theme by then, which is what attending asks for, so the synchronizer
attends all along; and where it attends, a delivery leaves a page that depends on the
authored images and the root alone.

## Main results

* `LivePage.root_calls_filter` — the root does not know of starts;
* `Synchronizer.AttendsAll.images_of_quiet` — all images, where none were added;
* `Synchronizer.page_starting_again` — a run with and without further starts.
-/

namespace ThemedPage

open LivePage

variable {ω : Type} {guests : Reaction ω} {s : Synchronizer}

/-- The calls of a run in which a synchronizer is started **again**: further starts, changes
of the root, and deliveries. -/
inductive Call.Again (s : Synchronizer) : Call ω → Prop
  | start : Again s (.start s)
  | setRoot (name value : String) : Again s (.page (.setRoot name value))
  | removeRoot (name : String) : Again s (.page (.removeRoot name))
  | deliver : Again s (.page .deliver)

/-! ### The root -/

namespace LivePage

/-- A delivery leaves the root alone. -/
theorem root_deliver (react : Reaction ω) (l : LivePage ω) :
    (l.deliver react).1.page.root = l.page.root :=
  page_deliver_invariant (P := fun p => p.root = l.page.root)
    (fun p ws h => (Page.root_writeAll p ws).trans h) rfl

theorem root_setRoot (l : LivePage ω) (name value : String) :
    (l.setRoot name value).page.root = l.page.root.insert name value := rfl

theorem root_removeRoot (l : LivePage ω) (name : String) :
    (l.removeRoot name).page.root = l.page.root.erase name := by
  rcases l.removeRoot_cases name with ⟨hget, h⟩ | ⟨old, -, h⟩
  · rw [h, Dict.erase_of_get?_eq_none hget]
  · rw [h, page_queue]

/-- The root does not know of starts. -/
theorem root_calls_filter {cs : List (Call ω)} (hcs : ∀ c ∈ cs, Call.Again s c)
    {l l' : LivePage (Observer ω)} (h : l.page.root = l'.page.root) :
    (l.calls guests cs).page.root =
      (l'.calls guests (cs.filter fun c => !c.isStart)).page.root := by
  induction cs generalizing l l' with
  | nil => exact h
  | cons c cs ih =>
      have ihcs := fun (l₁ l₂ : LivePage (Observer ω)) (h' : l₁.page.root = l₂.page.root) =>
        ih (fun d hd => hcs d (List.mem_cons_of_mem c hd)) h'
      cases hcs c List.mem_cons_self with
      | start => exact ihcs _ _ ((Page.root_writeAll _ _).trans h)
      | setRoot name value =>
          refine ihcs _ _ ?_
          simp only [call, step, root_setRoot, h]
      | removeRoot name =>
          refine ihcs _ _ ?_
          simp only [call, step, root_removeRoot, h]
      | deliver =>
          refine ihcs _ _ ?_
          simp only [call, step, root_deliver, h]

end LivePage

/-! ### The images -/

namespace Synchronizer

variable {authored : List Attributes}

/-- A synchronizer attends to a live page with **all** images among those that were there in
the beginning. -/
structure AttendsAll (s : Synchronizer) (authored : List Attributes)
    (l : LivePage (Observer ω)) : Prop extends s.Attends authored l where
  /-- No images came or went. -/
  length : l.page.images.length = authored.length

/-- All images are shown in one mode. -/
theorem AttendsAll.images_eq {l : LivePage (Observer ω)} (h : s.AttendsAll authored l) :
    ∃ m, l.page.images = authored.map (s.shown m) := by
  obtain ⟨o, -, w, -, himages⟩ := h.images
  exact ⟨_, (himages.eq_of_length (by rw [List.length_map, h.length])).symm⟩

/-- On a quiet page that mode is the one of the page's theme. -/
theorem AttendsAll.images_of_quiet {l : LivePage (Observer ω)} (h : s.AttendsAll authored l)
    (hl : l.Quiet) :
    l.page.images = authored.map (s.shown (s.resolve (s.token l.page))) := by
  have hshown := h.images_of_settled fun o ho _ => hl o ho
  exact (hshown.eq_of_length (by rw [List.length_map, h.length])).symm

/-- A synchronizer attends to all images of the page of guests on which it is started. -/
theorem attendsAll_start (s : Synchronizer) {l : LivePage (Observer ω)}
    (h : l.HasOnlyGuests) : s.AttendsAll l.page.images (s.start .watcher l) :=
  { attends_start_of_hasOnlyGuests s h with length := Page.length_images_writeAll _ _ }

/-- A delivery neither adds images nor takes any away. -/
theorem length_images_deliver (react : Reaction ω) (l : LivePage ω) :
    (l.deliver react).1.page.images.length = l.page.images.length :=
  page_deliver_invariant (P := fun p => p.images.length = l.page.images.length)
    (fun p ws h => (Page.length_images_writeAll p ws).trans h) rfl

/-- **A call keeps all images attended to**, a further start among them. -/
theorem AttendsAll.call (hs : s.Separate) (hg : guests.ReadsOnly) {l : LivePage (Observer ω)}
    {c : Call ω} (hc : Call.Again s c) (h : s.AttendsAll authored l) :
    s.AttendsAll authored (l.call guests c) := by
  cases hc with
  | start =>
      exact { h.start hs with length := (Page.length_images_writeAll _ _).trans h.length }
  | setRoot name value => exact { h.setRoot name value with length := h.length }
  | removeRoot name =>
      refine { h.removeRoot name with length := ?_ }
      exact (congrArg List.length (images_removeRoot l name)).trans h.length
  | deliver =>
      refine { h.step hs hg .deliver with length := ?_ }
      exact (length_images_deliver _ _).trans h.length

/-- Where a synchronizer attends to all images, the page after a delivery is told by the
root alone. -/
theorem AttendsAll.page_deliver (hs : s.Separate) (hg : guests.ReadsOnly)
    {l l' : LivePage (Observer ω)} (h : s.AttendsAll authored l)
    (h' : s.AttendsAll authored l') (hroot : l.page.root = l'.page.root) :
    (l.call guests (.page .deliver)).page = (l'.call guests (.page .deliver)).page := by
  let p := (l.call guests (.page .deliver)).page
  let p' := (l'.call guests (.page .deliver)).page
  have hr : p.root = p'.root := by
    simp only [p, p', LivePage.call, LivePage.step, root_deliver, hroot]
  have himages : p.images = authored.map (s.shown (s.resolve (s.token p))) :=
    (h.call hs hg .deliver).images_of_quiet (quiet_deliver _ _)
  have himages' : p'.images = authored.map (s.shown (s.resolve (s.token p'))) :=
    (h'.call hs hg .deliver).images_of_quiet (quiet_deliver _ _)
  -- The theme is told by the root, and with the theme and what was authored all images are.
  have htoken : s.token p = s.token p' := token_congr (by rw [hr])
  calc p = ⟨p.root, p.images⟩ := rfl
    _ = ⟨p'.root, p'.images⟩ := by rw [hr, himages, himages', htoken]
    _ = p' := rfl

/-- **Starting again is harmless.** In a run that starts a synchronizer, possibly many
times, the page after a delivery is the one of the same run with the first start alone; and
no start but the first finds an image in need of a template. -/
theorem page_starting_again (hs : s.Separate) (hg : guests.ReadsOnly)
    {l : LivePage (Observer ω)} (hl : l.HasOnlyGuests) {cs : List (Call ω)}
    (hcs : ∀ c ∈ cs, Call.Again s c) :
    (l.calls guests (.start s :: cs ++ [.page .deliver])).page =
      (l.calls guests
        (.start s :: cs.filter (fun c => !c.isStart) ++ [.page .deliver])).page ∧
    s.captures (l.calls guests (.start s :: cs)).page = [] := by
  have hcalls : ∀ ds : List (Call ω), (∀ d ∈ ds, Call.Again s d) →
      s.AttendsAll l.page.images (l.calls guests (.start s :: ds)) := fun ds hds =>
    calls_invariant (fun _ _ hc h => AttendsAll.call hs hg hc h) hds (attendsAll_start s hl)
  have hfilter : ∀ c ∈ cs.filter (fun c => !c.isStart), Call.Again s c := fun c hc =>
    hcs c (List.mem_filter.mp hc).1
  refine ⟨?_, ?_⟩
  · rw [calls_append, calls_append]
    exact AttendsAll.page_deliver hs hg (hcalls cs hcs) (hcalls _ hfilter)
      (root_calls_filter hcs rfl)
  · obtain ⟨m, himages⟩ := (hcalls cs hcs).images_eq
    exact captures_eq_nil_of_shown hs himages

/-- A page that turns dark and light again before a delivery, with a second start in the
dark. -/
theorem standard_starting_again :
    let guests : Reaction Unit := fun _ _ _ => { state := () }
    let l : LivePage (Observer Unit) := ofPage
      { root := Dict.ofList [("class", "light")]
        images := [Dict.ofList [("src", "hero-$theme.png")]] }
    let dark : Call Unit := .page (.setRoot "class" "coal")
    let light : Call Unit := .page (.setRoot "class" "light")
    (l.calls guests [.start standard, dark, .start standard, light, .page .deliver]).page =
      (l.calls guests [.start standard, dark, light, .page .deliver]).page ∧
    standard.captures (l.calls guests [.start standard, dark]).page = [] := by
  intro guests l dark light
  have hs : standard.Separate := by decide
  have hg : guests.ReadsOnly := fun _ _ _ => rfl
  have hl : l.HasOnlyGuests := hasOnlyGuests_ofPage _
  have hdark : Call.Again standard dark := .setRoot _ _
  have hlight : Call.Again standard light := .setRoot _ _
  have hcs : ∀ c ∈ [dark, .start standard, light], Call.Again standard c := by
    simp [hdark, hlight, Call.Again.start]
  have hdarks : ∀ c ∈ [dark], Call.Again standard c := by simp [hdark]
  exact ⟨(page_starting_again hs hg hl hcs).1, (page_starting_again hs hg hl hdarks).2⟩

end Synchronizer

end ThemedPage
