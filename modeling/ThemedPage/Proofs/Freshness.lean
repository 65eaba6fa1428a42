import ThemedPage.Proofs.Reactivity

/-!
# Fresh Sources for Later Observers

An observer that came to a page after a synchronizer was started stands behind the watcher.
When it is given its changes, the watcher has been given all of its own: otherwise the
round would have been the watcher's. So the watcher has acted on the theme that the page
has at that moment, and whatever the observers in between wrote, the themed images display
that theme, as long as nobody but the synchronizer writes templates and sources.

This is a fact about moments inside a delivery, in front of every single callback. Such a
moment is reached by a run that ends with rounds.

## Main results

* `Synchronizer.Displays.restyled`, `Synchronizer.Displays.insert` — what passes and the
  writes of others leave of an image that displays a mode;
* `Synchronizer.Tends.step` — what may happen beside a single watcher keeps the images
  displaying the theme it acted on last;
* `Synchronizer.later_observer_finds_fresh` — what later observers find.
-/

namespace ThemedPage

open LivePage

variable {ω : Type} {guests : Reaction ω}

/-! ### Images that display a mode -/

namespace Synchronizer

variable {s : Synchronizer} {authored : List Attributes}

/-- An attribute that is **free** for others: neither that of templates nor that of
sources. -/
def Free (s : Synchronizer) (name : String) : Prop :=
  name ≠ s.settings.templateAttribute ∧ name ≠ s.settings.sourceAttribute

/-- Brought in step with another mode, an image displays that. -/
theorem Displays.restyled (hs : s.Separate) {m : Mode} {a b : Attributes}
    (h : s.Displays m a b) (m' : Mode) : s.Displays m' a (s.restyled m' b) := by
  have htemplate := get?_template_restyled hs m' b
  refine ⟨htemplate.trans h.template, fun t ht hthemed => ?_⟩
  rw [htemplate] at ht
  obtain ⟨source, hresolve, hvariant⟩ := Template.exists_variant hthemed m'
  have hsource := get?_source_restyled_of_themed m' ht ((Template.isThemed_iff ⟨t⟩).mpr hthemed)
  exact ⟨source, hsource.trans hresolve, hvariant⟩

/-- Writes of free attributes are not seen. -/
theorem Displays.insert {m : Mode} {a b : Attributes} (h : s.Displays m a b) {name : String}
    (hname : s.Free name) (value : String) : s.Displays m a (b.insert name value) := by
  obtain ⟨ht, hn⟩ := hname
  refine ⟨?_, ?_⟩
  · rw [Dict.get?_insert_of_ne _ ht]
    exact h.template
  · rw [Dict.get?_insert_of_ne _ ht, Dict.get?_insert_of_ne _ hn]
    exact h.themed

/-- The first images of a page **display** a mode, as they were authored. -/
def DisplayedOn (s : Synchronizer) (m : Mode) (authored images : List Attributes) : Prop :=
  ∀ (i : Nat) (a : Attributes), authored[i]? = some a →
    ∃ b, images[i]? = some b ∧ s.Displays m a b

/-- Starting displays the mode of the theme on every image. -/
theorem displayedOn_activate (hs : s.Separate) (p : Page) :
    s.DisplayedOn (s.resolve (s.token p)) p.images
      (p.writeAll (s.activate p).writes).images := by
  intro i a hi
  refine ⟨s.shown (s.resolve (s.token p)) a, ?_, (shows_shown hs _ a).toDisplays⟩
  rw [images_activate, List.getElem?_map, hi, Option.map_some]

/-- Images that display one mode display another after the pass in that mode. -/
theorem DisplayedOn.restyled (hs : s.Separate) {m : Mode} {images : List Attributes}
    (h : s.DisplayedOn m authored images) (m' : Mode) :
    s.DisplayedOn m' authored (images.map (s.restyled m')) := by
  intro i a hi
  obtain ⟨b, hb, hab⟩ := h i a hi
  refine ⟨s.restyled m' b, ?_, hab.restyled hs m'⟩
  rw [List.getElem?_map, hb, Option.map_some]

/-- A write to an attribute that is free leaves what images display. -/
theorem DisplayedOn.write {m : Mode} {p : Page} (h : s.DisplayedOn m authored p.images)
    {w : ImageWrite} (hw : s.Free w.name) : s.DisplayedOn m authored (p.write w).images := by
  intro i a hi
  obtain ⟨b, hb, hab⟩ := h i a hi
  rw [Page.write, List.getElem?_modify, hb, Option.map_eq_map, Option.map_some]
  split
  · exact ⟨_, rfl, hab.insert hw w.value⟩
  · exact ⟨b, rfl, hab⟩

/-- Writes to attributes that are free leave what images display. -/
theorem DisplayedOn.writeAll {m : Mode} {p : Page} (h : s.DisplayedOn m authored p.images)
    {ws : List ImageWrite} (hws : ∀ w ∈ ws, s.Free w.name) :
    s.DisplayedOn m authored (p.writeAll ws).images := by
  induction ws generalizing p with
  | nil => exact h
  | cons w ws ih =>
      exact ih (h.write (hws w List.mem_cons_self))
        (fun v hv => hws v (List.mem_cons_of_mem w hv))

/-- Images that are added behind others leave what those display. -/
theorem DisplayedOn.append {m : Mode} {images : List Attributes}
    (h : s.DisplayedOn m authored images) (added : List Attributes) :
    s.DisplayedOn m authored (images ++ added) := by
  intro i a hi
  obtain ⟨b, hb, hab⟩ := h i a hi
  have hlt : i < images.length := (List.getElem?_eq_some_iff.mp hb).1
  exact ⟨b, by rw [List.getElem?_append_left hlt, hb], hab⟩

/-! ### A single watcher -/

/-- An attentive watcher is one of the synchronizer, and has acted on the theme of the page
if no changes are queued for it. -/
theorem Attentive.of_stateAt? {n : Nat} {l : LivePage (Observer ω)} (h : s.Attentive l)
    {w : Watcher} (hw : l.stateAt? n = some (.watcher w)) :
    w.synchronizer = s ∧ (l.pendingAt n = [] → w.last = s.token l.page) := by
  obtain ⟨o, ho, hstate⟩ := Option.map_eq_some_iff.mp hw
  obtain ⟨hws, -, hlast⟩ := h o (List.mem_of_getElem? ho) w hstate
  refine ⟨hws, fun hp => hlast ?_⟩
  rwa [pendingAt, ho] at hp

/-- A synchronizer **tends** to a live page from a position: its only watcher is there and
is attentive, and the first images display the mode of the theme that the watcher acted on
last. -/
structure Tends (s : Synchronizer) (n : Nat) (authored : List Attributes)
    (l : LivePage (Observer ω)) : Prop where
  /-- The watchers are attentive. -/
  attentive : s.Attentive l
  /-- There is no other watcher. -/
  only : l.OnlyWatcherAt n
  /-- The watcher and the images. -/
  images : ∃ w, l.stateAt? n = some (.watcher w) ∧
    s.DisplayedOn (s.resolve w.last) authored l.page.images

/-- A synchronizer tends to the page of guests on which it is started, from the position
behind them. -/
theorem tends_start (hs : s.Separate) {l : LivePage (Observer ω)} (h : l.HasOnlyGuests) :
    s.Tends l.nextObserver l.page.images (s.start .watcher l) := by
  refine ⟨(attends_start_of_hasOnlyGuests s h).attentive, h.onlyWatcherAt_observe _ _, ?_⟩
  refine ⟨⟨s, s.token l.page⟩, ?_, displayedOn_activate hs l.page⟩
  simp [start, stateAt?, LivePage.observe, LivePage.writeAll, nextObserver, activate]

/-- A change of the root is queued for the watcher or is none of the theme's attribute; in
either case the page is tended to as before. -/
theorem Tends.queue {n : Nat} {l : LivePage (Observer ω)} (h : s.Tends n authored l)
    {name : String} {root : Attributes}
    (hroot : ∀ other, name ≠ other → root.get? other = l.page.root.get? other)
    (old : Option String) :
    s.Tends n authored
      (LivePage.queue { l with page := { l.page with root := root } } name old) := by
  refine ⟨h.attentive.queue hroot old, ?_, ?_⟩
  · rw [OnlyWatcherAt, watchers_queue]
    exact h.only
  · obtain ⟨w, hw, himages⟩ := h.images
    exact ⟨w, by rwa [stateAt?_queue], himages⟩

/-- A round for a guest writes free attributes, and a round for the watcher brings the
images in step with the theme that it has acted on then. -/
theorem Tends.round (hs : s.Separate) (hg : guests.WritesOnly s.Free) {n : Nat}
    {l l' : LivePage (Observer ω)} {d : Delivery (Observer ω)}
    (hr : Round (Observer.react guests) l l' d) (h : s.Tends n authored l) :
    s.Tends n authored l' := by
  obtain ⟨-, hpage, state, hstate, hresponse⟩ := response_of_round hr
  obtain ⟨w, hw, himages⟩ := h.images
  refine ⟨h.attentive.round hr, ?_, ?_⟩
  · rw [OnlyWatcherAt, watchers_of_round hr]
    exact h.only
  · rw [hpage, stateAt?_round hr]
    by_cases hn : d.observer = n
    · subst hn
      obtain rfl : state = .watcher w := Option.some.inj (hstate.symm.trans hw)
      obtain ⟨hws, -⟩ := h.attentive.of_stateAt? hw
      subst hws
      rw [if_pos rfl, hresponse]
      refine ⟨⟨w.synchronizer, w.synchronizer.token l.page⟩, ?_, ?_⟩
      · rw [Observer.react, Watcher.state_respond]
      · exact Watcher.images_respond_of_last (P := (w.synchronizer.DisplayedOn · authored ·))
          himages (fun _ m' hm => hm.restyled hs m') d.changes
    · rw [if_neg hn]
      refine ⟨w, hw, himages.writeAll ?_⟩
      cases state with
      | watcher v =>
          refine absurd (h.only d.observer ?_) hn
          rw [getElem?_watchers, hstate]
          rfl
      | guest g =>
          rw [hresponse]
          exact hg g d.changes l.page

/-- **What happens beside a synchronizer leaves it tending to the page**, whatever free
attributes guests write. -/
theorem Tends.step (hs : s.Separate) (hg : guests.WritesOnly s.Free) {n : Nat}
    {l : LivePage (Observer ω)} {a : Step (Observer ω)} (ha : Beside a)
    (h : s.Tends n authored l) : s.Tends n authored (l.step (Observer.react guests) a).1 := by
  have hdelivers := step_invariant_of_round (Observer.react guests)
    (fun _ _ _ hr hl => Tends.round hs hg hr hl) h
  have hroot := fun name => root_invariant_of_queue h name fun _ old hroot => h.queue hroot old
  cases ha with
  | setRoot name value => exact (hroot name).1 value
  | removeRoot name => exact (hroot name).2
  | addImage attributes =>
      obtain ⟨w, hw, himages⟩ := h.images
      exact ⟨h.attentive, h.only, w, hw, himages.append [attributes]⟩
  | observe interest g =>
      obtain ⟨w, hw, himages⟩ := h.images
      exact ⟨h.attentive.observe interest g, h.only.observe interest g, w,
        stateAt?_observe hw interest _, himages⟩
  | round => exact hdelivers.1
  | deliver => exact hdelivers.2

/-- Where no changes are queued for the watcher, the images display the theme of the
page. -/
theorem Tends.displayed_of_settled {n : Nat} {l : LivePage (Observer ω)}
    (h : s.Tends n authored l) (hn : l.pendingAt n = []) :
    s.DisplayedOn (s.resolve (s.token l.page)) authored l.page.images := by
  obtain ⟨w, hw, himages⟩ := h.images
  obtain ⟨-, hlast⟩ := h.attentive.of_stateAt? hw
  rwa [hlast hn] at himages

/-! ### Runs -/

/-- **Observers that come later find fresh sources.** Start a synchronizer on a page of
guests, and let anything happen beside it while nobody else writes templates and sources.
At the moment of a delivery when an observer that came after the watcher is given its
changes, no changes are queued for the watcher, and every image that was there at the start
has its template and, if that holds the placeholder, displays it in the mode that the root is in
at that moment. -/
theorem later_observer_finds_fresh (hs : s.Separate) (hg : guests.WritesOnly s.Free)
    {l₀ : LivePage (Observer ω)} (h₀ : l₀.HasOnlyGuests)
    {steps : List (Step (Observer ω))} (hsteps : ∀ a ∈ steps, Beside a) :
    let react := Observer.react guests
    let n := l₀.nextObserver
    let l := ((s.start .watcher l₀).run react steps).1
    ∀ (k : Nat) (d : Delivery (Observer ω)), (l.deliver react).2[k]? = some d →
      n < d.observer →
      let moment := (l.run react (List.replicate k .round)).1
      (∃ next, moment.round? react = some (next, d)) ∧ d.found = moment.page ∧
      moment.pendingAt n = [] ∧
      ∃ m, (∀ m', s.InMode d.found.root m' ↔ m' = m) ∧
        ∀ (i : Nat) (authored : Attributes), l₀.page.images[i]? = some authored →
          ∃ image, d.found.images[i]? = some image ∧ s.Displays m authored image := by
  intro react n l k d hd hlater moment
  have htends : s.Tends n l₀.page.images moment := by
    have hl : s.Tends n l₀.page.images l :=
      run_invariant (fun _ _ ha h => Tends.step hs hg ha h) hsteps (tends_start hs h₀)
    refine run_invariant (fun _ _ ha h => Tends.step hs hg ha h) (fun a ha => ?_) hl
    rw [List.eq_of_mem_replicate ha]
    exact Beside.round
  rw [getElem?_deliver] at hd
  obtain ⟨⟨next, d'⟩, hround, rfl⟩ := Option.map_eq_some_iff.mp hd
  have hr := round_of_round? hround
  have hfound : d'.found = moment.page := (response_of_round hr).1
  have hsettled : moment.pendingAt n = [] := pendingAt_of_round hr hlater
  refine ⟨⟨next, hround⟩, hfound, hsettled, s.resolve (s.token d'.found),
    fun _ => inMode_iff, ?_⟩
  rw [hfound]
  exact htends.displayed_of_settled hsettled

/-- A page with a themed image, a watcher that reads classes, and an observer behind it that marks
the image as seen. Of the two themes among the classes the first counts, and the observer finds the
light image. -/
theorem standard_later_observer_finds_fresh :
    let s : Synchronizer := ⟨ThemeTable.common, { matching := .classList }⟩
    let guests : Reaction Unit := fun _ _ _ => { state := (), writes := [⟨0, "alt", "seen"⟩] }
    let react := Observer.react guests
    let authored : Attributes := Dict.ofList [("src", "hero-$theme.png")]
    let l₀ : LivePage (Observer Unit) :=
      (ofPage { images := [authored] }).observe Interest.all (.guest ())
    let l := ((s.start .watcher l₀).run react
      [.observe Interest.all (.guest ()), .setRoot "class" "coal", .deliver,
        .setRoot "class" "js rust navy"]).1
    ∃ d, (l.deliver react).2[2]? = some d ∧ d.observer = 2 ∧
      d.found.imageAttribute? 0 "src" = some "hero-light.png" ∧
      s.InMode d.found.root .light ∧
      ∃ image, d.found.images[0]? = some image ∧ s.Displays .light authored image := by
  intro s guests react authored l₀ l
  have hs : s.Separate := by decide
  have hg : guests.WritesOnly s.Free := by
    intro g changes page w hw
    obtain rfl : w = ⟨0, "alt", "seen"⟩ := List.mem_singleton.mp hw
    exact ⟨by decide, by decide⟩
  have h₀ : l₀.HasOnlyGuests := (hasOnlyGuests_ofPage _).observe Interest.all ()
  have hsteps : ∀ a ∈ [Step.observe Interest.all (.guest ()), .setRoot "class" "coal",
      .deliver, .setRoot "class" "js rust navy"], Beside (ω := Unit) a := by
    simp [Beside.setRoot, Beside.deliver, Beside.observe]
  have hthird : ((l.deliver react).2[2]?).map
      (fun d => (d.observer, d.found.root.get? "class", d.found.imageAttribute? 0 "src")) =
        some (2, some "js rust navy", some "hero-light.png") := by
    decide
  obtain ⟨d, hd, hfound⟩ := Option.map_eq_some_iff.mp hthird
  simp only [Prod.mk.injEq] at hfound
  obtain ⟨hobserver, hroot, hsource⟩ := hfound
  have hlight : s.InMode d.found.root .light :=
    ⟨"rust", .present hroot (ThemeTable.names_iff.mpr (by decide)), .listed (by decide)⟩
  obtain ⟨-, -, -, m, hmode, himages⟩ := later_observer_finds_fresh hs hg h₀ hsteps 2 d hd
    (by rw [hobserver]; decide)
  obtain rfl : Mode.light = m := (hmode .light).mp hlight
  exact ⟨d, hd, hobserver, hsource, hlight, himages 0 authored rfl⟩

end Synchronizer

end ThemedPage
