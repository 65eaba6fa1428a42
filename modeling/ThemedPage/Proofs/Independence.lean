import ThemedPage.Proofs.Crew
import ThemedPage.Proofs.Freshness

/-!
# Independent Synchronizers

Several synchronizers can be started on one page. If no two of them have an attribute of
images in common, each works as if it were alone: it sees nothing of what the others write,
and they see nothing of what it writes. This module makes it precise by taking one away. A
live page **without** a synchronizer has none of its watchers, and images **stripped** of
its templates and sources; and whatever happens to the page happens in the same way to the
page without it, where the rounds of its watchers are no steps at all.

Different orders of starting come down to this. A page is told by what is left of it without
one of two independent synchronizers and what is left without the other, and neither of the
two knows of the order.

## Main results

* `Synchronizer.Independent.strippedPage_respond` — a watcher and a synchronizer that it is
  independent of;
* `Synchronizer.without_deliver` — a delivery without a synchronizer;
* `Synchronizer.without_run` — a run without it;
* `Synchronizer.Independent.eq_of_stripped` — a page is told by what is left of it;
* `Synchronizer.order_of_starts` — two synchronizers started in either order, and one of
  them alone.
-/

namespace ThemedPage

open LivePage

namespace Synchronizer

variable {s t : Synchronizer}

/-- Synchronizers are **independent** if the templates and sources of one are in attributes
that the other leaves free. -/
def Independent (s t : Synchronizer) : Prop :=
  t.Free s.settings.templateAttribute ∧ t.Free s.settings.sourceAttribute

instance (s : Synchronizer) (name : String) : Decidable (s.Free name) :=
  inferInstanceAs (Decidable (_ ∧ _))

instance (s t : Synchronizer) : Decidable (s.Independent t) :=
  inferInstanceAs (Decidable (_ ∧ _))

/-- Independence does not depend on the order of the two. -/
theorem Independent.symm (h : s.Independent t) : t.Independent s := by
  obtain ⟨⟨htt, hts⟩, hst, hss⟩ := h
  exact ⟨⟨htt.symm, hst.symm⟩, hts.symm, hss.symm⟩

/-- No synchronizer is independent of itself. -/
theorem Independent.ne (h : s.Independent t) : s ≠ t := by
  rintro rfl
  exact h.1.1 rfl

/-- One of two independent synchronizers leaves an attribute free. -/
theorem Independent.free_or_free (h : s.Independent t) (name : String) :
    s.Free name ∨ t.Free name := by
  by_cases ht : name = s.settings.templateAttribute
  · exact Or.inr (ht ▸ h.1)
  · by_cases hs : name = s.settings.sourceAttribute
    · exact Or.inr (hs ▸ h.2)
    · exact Or.inl ⟨ht, hs⟩

/-! ### Stripped images -/

/-- An image **stripped** of the template and the source of a synchronizer. -/
def stripped (s : Synchronizer) (a : Attributes) : Attributes :=
  (a.erase s.settings.templateAttribute).erase s.settings.sourceAttribute

/-- A stripped image has the attributes that are free for others, and no more. -/
theorem get?_stripped (s : Synchronizer) (a : Attributes) (name : String) :
    (s.stripped a).get? name = if s.Free name then a.get? name else none := by
  rw [stripped, Dict.get?_erase, Dict.get?_erase]
  by_cases hs : s.settings.sourceAttribute = name
  · rw [if_pos hs, if_neg fun h : s.Free name => h.2 hs.symm]
  · by_cases ht : s.settings.templateAttribute = name
    · rw [if_neg hs, if_pos ht, if_neg fun h : s.Free name => h.1 ht.symm]
    · have hfree : s.Free name := ⟨Ne.symm ht, Ne.symm hs⟩
      rw [if_neg hs, if_neg ht, if_pos hfree]

/-- Images that agree on what is free for others are the same when stripped. -/
theorem stripped_congr {a b : Attributes} (h : ∀ name, s.Free name → a.get? name = b.get? name) :
    s.stripped a = s.stripped b := by
  refine Dict.ext_get? fun name => ?_
  rw [get?_stripped, get?_stripped]
  by_cases hname : s.Free name
  · rw [if_pos hname, if_pos hname, h name hname]
  · rw [if_neg hname, if_neg hname]

/-- The passes of a synchronizer write nothing but what is stripped. -/
theorem stripped_captured (s : Synchronizer) (a : Attributes) :
    s.stripped (s.captured a) = s.stripped a :=
  stripped_congr fun name hname => by rw [get?_captured, if_neg hname.1]

/-- What the restyling pass writes is stripped off. -/
theorem stripped_restyled (s : Synchronizer) (m : Mode) (a : Attributes) :
    s.stripped (s.restyled m a) = s.stripped a :=
  stripped_congr fun name hname => by rw [get?_restyled, if_neg hname.2]

/-- What the passes of a start write is stripped off. -/
theorem stripped_shown (s : Synchronizer) (m : Mode) (a : Attributes) :
    s.stripped (s.shown m a) = s.stripped a := by
  rw [shown, stripped_restyled, stripped_captured]

/-- The passes of an independent synchronizer read nothing of what is stripped. -/
theorem Independent.captured_stripped (h : t.Independent s) (a : Attributes) :
    t.captured (s.stripped a) = s.stripped (t.captured a) := by
  refine Dict.ext_get? fun name => ?_
  rw [get?_captured, get?_stripped, get?_stripped, get?_stripped, if_pos h.1, if_pos h.2,
    get?_stripped, get?_captured]
  by_cases hname : name = t.settings.templateAttribute
  · rw [if_pos hname, hname, if_pos h.1, if_pos rfl]
  · rw [if_neg hname, if_neg hname]

/-- Restyling and stripping for an independent synchronizer can trade places. -/
theorem Independent.restyled_stripped (h : t.Independent s) (m : Mode) (a : Attributes) :
    t.restyled m (s.stripped a) = s.stripped (t.restyled m a) := by
  have hresolved : t.resolved m (s.stripped a) = t.resolved m a := by
    rw [resolved, get?_stripped, if_pos h.1, resolved]
  refine Dict.ext_get? fun name => ?_
  rw [get?_restyled, hresolved, get?_stripped, get?_stripped, if_pos h.2, get?_stripped,
    get?_restyled]
  by_cases hname : name = t.settings.sourceAttribute
  · rw [if_pos hname, hname, if_pos h.2, if_pos rfl]
  · rw [if_neg hname, if_neg hname]

/-- The passes of a start and stripping for an independent synchronizer can trade places. -/
theorem Independent.shown_stripped (h : t.Independent s) (m : Mode) (a : Attributes) :
    t.shown m (s.stripped a) = s.stripped (t.shown m a) := by
  rw [shown, h.captured_stripped, h.restyled_stripped, shown]

/-- A page with all its images stripped. -/
def strippedPage (s : Synchronizer) (p : Page) : Page :=
  { p with images := p.images.map s.stripped }

/-- The theme is not stripped. -/
theorem token_strippedPage (s t : Synchronizer) (p : Page) :
    t.token (s.strippedPage p) = t.token p := rfl

/-- Writes leave the root alone, so it is the images that count. -/
theorem strippedPage_writeAll_eq {p : Page} {ws : List ImageWrite} {images : List Attributes}
    (h : (p.writeAll ws).images.map s.stripped = images) :
    s.strippedPage (p.writeAll ws) = ⟨p.root, images⟩ := by
  rw [strippedPage, Page.root_writeAll, h]

/-- A page with the images that writes lead to is the page after the writes: they leave the
root alone. -/
theorem eq_writeAll {p : Page} {ws : List ImageWrite} {images : List Attributes}
    (h : images = (p.writeAll ws).images) : ⟨p.root, images⟩ = p.writeAll ws := by
  calc (⟨p.root, images⟩ : Page) = ⟨(p.writeAll ws).root, (p.writeAll ws).images⟩ := by
        rw [h, Page.root_writeAll]
    _ = p.writeAll ws := rfl

/-- An attribute that is free for others is the same on a stripped page. -/
theorem imageAttribute?_strippedPage {name : String} (h : s.Free name) (p : Page) (i : Nat) :
    (s.strippedPage p).imageAttribute? i name = p.imageAttribute? i name := by
  rw [Page.imageAttribute?, Page.imageAttribute?, strippedPage, List.getElem?_map]
  cases p.images[i]? with
  | none => rfl
  | some a => rw [Option.map_some, Option.bind_some, Option.bind_some, get?_stripped, if_pos h]

/-- **A page is told by what two independent synchronizers leave of it.** -/
theorem Independent.eq_of_stripped (h : s.Independent t) {p q : Page}
    (hs : s.strippedPage p = s.strippedPage q) (ht : t.strippedPage p = t.strippedPage q) :
    p = q := by
  have hlength : p.images.length = q.images.length := by
    have := congrArg (fun r => r.images.length) hs
    simpa [strippedPage] using this
  have himages : p.images = q.images := by
    refine List.ext_getElem hlength fun i hp hq => Dict.ext_get? fun name => ?_
    have key : p.imageAttribute? i name = q.imageAttribute? i name := by
      rcases h.free_or_free name with hname | hname
      · rw [← imageAttribute?_strippedPage hname p, hs, imageAttribute?_strippedPage hname]
      · rw [← imageAttribute?_strippedPage hname p, ht, imageAttribute?_strippedPage hname]
    simpa [Page.imageAttribute?, hp, hq] using key
  calc p = ⟨(s.strippedPage p).root, p.images⟩ := rfl
    _ = ⟨(s.strippedPage q).root, q.images⟩ := by rw [hs, himages]
    _ = q := rfl

/-! ### Live pages without a synchronizer -/

/-- A live page **without** a synchronizer: its watchers are not there, and the images are
stripped. -/
def without (s : Synchronizer) (l : LivePage Watcher) : LivePage Watcher :=
  ⟨s.strippedPage l.page, l.observers.filter fun o => o.state.synchronizer ≠ s⟩

/-- A synchronizer is **at ease** on a live page if all watchers there are its own or those of
independent synchronizers. -/
def AtEase (s : Synchronizer) (l : LivePage Watcher) : Prop :=
  ∀ t ∈ crew l, t = s ∨ t.Independent s

/-- What queueing a change does is the same without a synchronizer. -/
theorem without_queue (s : Synchronizer) (l : LivePage Watcher) (root : Attributes)
    (name : String) (old : Option String) :
    s.without (LivePage.queue { l with page := { l.page with root := root } } name old) =
      LivePage.queue { s.without l with page := { (s.without l).page with root := root } }
        name old := by
  simp only [without, strippedPage, LivePage.queue, List.filter_map]
  rfl

/-! ### Starting -/

/-- The start of a synchronizer is not seen without it. -/
theorem without_start_self (s : Synchronizer) (l : LivePage Watcher) :
    s.without (s.start id l) = s.without l := by
  have hpage : s.strippedPage (l.page.writeAll (s.activate l.page).writes) =
      s.strippedPage l.page := by
    refine strippedPage_writeAll_eq ?_
    rw [images_activate, List.map_map]
    exact List.map_congr_left fun a _ => s.stripped_shown _ a
  have hwatcher : (s.activate l.page).watcher.synchronizer = s := rfl
  simp [without, start, observe, LivePage.writeAll, hpage, hwatcher]

/-- An independent synchronizer starts in the same way without it. -/
theorem Independent.without_start (h : t.Independent s) (l : LivePage Watcher) :
    s.without (t.start id l) = t.start id (s.without l) := by
  have hpage : s.strippedPage (l.page.writeAll (t.activate l.page).writes) =
      (s.strippedPage l.page).writeAll (t.activate (s.strippedPage l.page)).writes := by
    refine (strippedPage_writeAll_eq ?_).trans (eq_writeAll (p := s.strippedPage l.page) rfl)
    rw [images_activate, images_activate, token_strippedPage, strippedPage, List.map_map,
      List.map_map]
    exact List.map_congr_left fun a _ => (h.shown_stripped _ a).symm
  have hkept : decide ((t.activate l.page).watcher.synchronizer ≠ s) = true := decide_eq_true h.ne
  simp only [without, start, observe, LivePage.writeAll, hpage, List.filter_append,
    List.filter_singleton, id_eq, hkept, cond_true]
  -- The watcher and what it listens to are read off the root alone.
  rfl

/-! ### Rounds -/

/-- A response of the synchronizer's own watcher is not seen without it. -/
theorem strippedPage_respond_self (w : Watcher) (changes : List Change) (p : Page) :
    w.synchronizer.strippedPage (p.writeAll (w.respond changes p).writes) =
      w.synchronizer.strippedPage p := by
  refine strippedPage_writeAll_eq ?_
  rcases w.images_respond changes p with himages | ⟨m, himages⟩
  · rw [himages]
  · rw [himages, List.map_map]
    exact List.map_congr_left fun a _ => stripped_restyled _ m a

/-- **A watcher of an independent synchronizer responds in the same way without it.** -/
theorem Independent.strippedPage_respond {w : Watcher} (h : w.synchronizer.Independent s)
    (changes : List Change) (p : Page) :
    s.strippedPage (p.writeAll (w.respond changes p).writes) =
        (s.strippedPage p).writeAll (w.respond changes (s.strippedPage p)).writes ∧
      (w.respond changes (s.strippedPage p)).state = (w.respond changes p).state := by
  refine ⟨?_, by rw [Watcher.state_respond, Watcher.state_respond, token_strippedPage]⟩
  refine (strippedPage_writeAll_eq ?_).trans (eq_writeAll (p := s.strippedPage p) rfl)
  by_cases htoken : w.synchronizer.token p = w.last
  · rw [Watcher.respond_of_token_eq htoken,
      Watcher.respond_of_token_eq (p := s.strippedPage p) htoken]
    rfl
  · rw [Watcher.respond_of_token_ne htoken,
      Watcher.respond_of_token_ne (p := s.strippedPage p) htoken]
    simp only [images_restyles, token_strippedPage]
    rw [strippedPage, List.map_map, List.map_map]
    exact List.map_congr_left fun a _ => (h.restyled_stripped _ a).symm

/-- A round is a round without the synchronizer, or nothing if it is one of its watchers'. -/
theorem without_of_round {l l' : LivePage Watcher} {d : Delivery Watcher}
    (hr : Round Watcher.respond l l' d) (h : s.AtEase l) :
    s.without l' = s.without l ∨
      ∃ d', Round Watcher.respond (s.without l) (s.without l') d' := by
  cases hr with
  | @intro page quiet o rest hq ho =>
      by_cases hs : o.state.synchronizer = s
      · left
        subst hs
        simp [without, strippedPage_respond_self, Watcher.state_respond]
      · right
        have hcrew : o.state.synchronizer ∈ crew ⟨page, quiet ++ o :: rest⟩ := by
          simp [crew]
        obtain ⟨hpage, hstate⟩ :=
          ((h _ hcrew).resolve_left hs).strippedPage_respond o.pending page
        have hq' : ∀ q ∈ quiet.filter fun q => q.state.synchronizer ≠ s, q.pending = [] :=
          fun q hmem => hq q (List.mem_filter.mp hmem).1
        have hround : Round Watcher.respond _ _ _ := .intro (s.strippedPage page)
          (rest.filter fun q => q.state.synchronizer ≠ s) hq' ho
        rw [← hpage, hstate] at hround
        simpa [without, Watcher.state_respond, hs] using (⟨_, hround⟩ : ∃ d', _)

/-- **A delivery is the same without a synchronizer that is at ease.** -/
theorem without_deliver {l : LivePage Watcher} (h : s.AtEase l) :
    s.without (l.deliver Watcher.respond).1 = ((s.without l).deliver Watcher.respond).1 := by
  induction l using deliver_induction Watcher.respond with
  | quiet l hl =>
      have hquiet : (s.without l).Quiet := fun o ho => hl o (List.mem_filter.mp ho).1
      rw [deliver_of_quiet Watcher.respond hquiet]
  | round l l' d hr ih =>
      have hease : s.AtEase l' := by rwa [AtEase, crew_of_round hr]
      rcases without_of_round hr h with hsame | ⟨d', hr'⟩
      · rw [ih hease, hsame]
      · rw [ih hease, deliver_of_round hr']

/-! ### Runs -/

/-- A step without a synchronizer: an image that is added is stripped. -/
def strippedStep (s : Synchronizer) : Step Watcher → Step Watcher
  | .addImage a => .addImage (s.stripped a)
  | a => a

/-- What an ordinary step does is the same without a synchronizer that is at ease. -/
theorem without_step {l : LivePage Watcher} {a : Step Watcher} (ha : Ordinary a)
    (h : s.AtEase l) :
    s.without (l.step Watcher.respond a).1 =
      ((s.without l).step Watcher.respond (s.strippedStep a)).1 := by
  cases ha with
  | setRoot name value => exact without_queue s l _ name _
  | removeRoot name =>
      have hroot : (s.without l).page.root = l.page.root := rfl
      simp only [step, strippedStep, removeRoot, hroot]
      cases l.page.root.get? name with
      | none => rfl
      | some old => exact without_queue s l _ name (some old)
  | addImage a =>
      simp only [step, strippedStep, LivePage.addImage, Page.addImage, without, strippedPage,
        List.map_append, List.map_cons, List.map_nil]
  | deliver => exact without_deliver h

/-- **A run is the same without a synchronizer that is at ease.** -/
theorem without_run {l : LivePage Watcher} {steps : List (Step Watcher)}
    (hsteps : ∀ a ∈ steps, Ordinary a) (h : s.AtEase l) :
    s.without (l.run Watcher.respond steps).1 =
      ((s.without l).run Watcher.respond (steps.map s.strippedStep)).1 := by
  induction steps generalizing l with
  | nil => rfl
  | cons a as ih =>
      have ha : Ordinary a := hsteps a List.mem_cons_self
      have hease : s.AtEase (l.step Watcher.respond a).1 := by rwa [AtEase, crew_step ha]
      rw [run_cons, ih (fun b hb => hsteps b (List.mem_cons_of_mem a hb)) hease,
        without_step ha h, List.map_cons, run_cons]

/-- If all watchers are those of two synchronizers, everybody who waits is there without the
one or without the other. -/
theorem waiting_eq_add {l : LivePage Watcher} (h : s.Independent t)
    (hcrew : ∀ r ∈ crew l, r = s ∨ r = t) :
    l.waiting = (s.without l).waiting + (t.without l).waiting := by
  have hothers : l.observers.filter (fun o => !decide (o.state.synchronizer ≠ s)) =
      l.observers.filter fun o => o.state.synchronizer ≠ t := by
    refine List.filter_congr fun o ho => ?_
    rcases hcrew _ (List.mem_map_of_mem ho) with hs | ht
    · simp [hs, h.ne]
    · simp [ht, h.ne.symm]
  rw [waiting, List.countP_eq_countP_filter_add _ _ fun o => o.state.synchronizer ≠ s, hothers]
  rfl

/-- A run with two independent synchronizers, seen without one of them, is a run with the
other alone, whichever was started first. -/
theorem Independent.without_run_start (h : s.Independent t) (p : Page)
    {steps : List (Step Watcher)} (hsteps : ∀ a ∈ steps, Ordinary a) :
    t.without ((t.start id (s.start id (ofPage p))).run Watcher.respond steps).1 =
        t.without ((s.start id (ofPage p)).run Watcher.respond steps).1 ∧
      t.without ((s.start id (t.start id (ofPage p))).run Watcher.respond steps).1 =
        t.without ((s.start id (ofPage p)).run Watcher.respond steps).1 := by
  have halone : t.AtEase (s.start id (ofPage p)) := by simp [AtEase, h]
  have hsecond : t.AtEase (t.start id (s.start id (ofPage p))) := by simp [AtEase, h]
  have hfirst : t.AtEase (s.start id (t.start id (ofPage p))) := by simp [AtEase, h]
  rw [without_run hsteps halone, without_run hsteps hsecond, without_run hsteps hfirst]
  refine ⟨by rw [without_start_self], ?_⟩
  rw [h.without_start, without_start_self, h.without_start]

/-- **The order of starts does not matter.** Start two independent synchronizers on a page in
either order, and take any ordinary steps. Both times the page is the same, and the next
delivery reaches as many watchers; and the templates and sources of the first are what they
are if the second is never started. -/
theorem order_of_starts (h : s.Independent t) (p : Page) {steps : List (Step Watcher)}
    (hsteps : ∀ a ∈ steps, Ordinary a) :
    let l := ((t.start id (s.start id (ofPage p))).run Watcher.respond steps).1
    let l' := ((s.start id (t.start id (ofPage p))).run Watcher.respond steps).1
    let alone := ((s.start id (ofPage p)).run Watcher.respond steps).1
    l.page = l'.page ∧
      (l.deliver Watcher.respond).2.length = (l'.deliver Watcher.respond).2.length ∧
      ∀ (i : Nat) (name : String),
        name = s.settings.templateAttribute ∨ name = s.settings.sourceAttribute →
        l.page.imageAttribute? i name = alone.page.imageAttribute? i name := by
  intro l l' alone
  obtain ⟨hl, hl'⟩ := h.without_run_start p hsteps
  obtain ⟨kl', kl⟩ := h.symm.without_run_start p hsteps
  have ht : t.without l = t.without l' := hl.trans hl'.symm
  have hs : s.without l = s.without l' := kl.trans kl'.symm
  refine ⟨?_, ?_, fun i name hname => ?_⟩
  · exact h.eq_of_stripped (congrArg LivePage.page hs) (congrArg LivePage.page ht)
  · have hcrew : ∀ r ∈ crew l, r = s ∨ r = t := by
      simp [l, crew_run hsteps]
    have hcrew' : ∀ r ∈ crew l', r = s ∨ r = t := by
      simp [l', crew_run hsteps]
    rw [length_deliver, length_deliver, waiting_eq_add h hcrew, waiting_eq_add h hcrew', hs, ht]
  · have hfree : t.Free name := by
      rcases hname with rfl | rfl
      · exact h.1
      · exact h.2
    have hpage : t.strippedPage l.page = t.strippedPage alone.page :=
      congrArg LivePage.page hl
    rw [← imageAttribute?_strippedPage hfree, hpage, imageAttribute?_strippedPage hfree]

/-- Sources and posters on one page, and a further image that comes with a template for its
poster: whoever starts first, and whether posters are cared for or not, the sources are
light. -/
theorem standard_order_of_starts :
    let posters : Synchronizer := ⟨ThemeTable.common,
      { templateAttribute := "data-poster", sourceAttribute := "poster" }⟩
    let p : Page := { images := [Dict.ofList
      [("poster", "film-$theme.jpg"), ("src", "film-$theme.mp4")]] }
    let steps : List (Step Watcher) :=
      [.setRoot "class" "coal", .addImage (Dict.ofList [("data-poster", "late-$theme.jpg")]),
        .setRoot "class" "rust", .deliver]
    let l := ((posters.start id (standard.start id (ofPage p))).run Watcher.respond steps).1
    let l' := ((standard.start id (posters.start id (ofPage p))).run Watcher.respond steps).1
    let alone := ((standard.start id (ofPage p)).run Watcher.respond steps).1
    standard.Independent posters ∧ l.page = l'.page ∧
      l.page.imageAttribute? 0 "src" = alone.page.imageAttribute? 0 "src" ∧
      alone.page.imageAttribute? 0 "src" = some "film-light.mp4" := by
  intro posters p steps l l' alone
  have h : standard.Independent posters := by decide
  have hsteps : ∀ a ∈ steps, Ordinary a := by
    simp [steps, Ordinary.setRoot, Ordinary.addImage, Ordinary.deliver]
  obtain ⟨hpage, -, hown⟩ := order_of_starts h p hsteps
  exact ⟨h, hpage, hown 0 "src" (Or.inr rfl), by decide⟩

end Synchronizer

end ThemedPage
