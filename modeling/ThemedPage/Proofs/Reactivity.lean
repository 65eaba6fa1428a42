import ThemedPage.Proofs.Observers
import ThemedPage.Proofs.PageModes

/-!
# Images in Step with the Theme

A synchronizer **attends** to a live page if two things hold. Every watcher it left behind
has acted last on the theme that the page has now, unless changes are queued for it. And
the images that were there in the beginning are shown in the mode of a theme that one of
the watchers acted on last. No watcher needs to know of any other: whichever acts goes over
all images, and becomes the one whose theme they show.

Once no changes are queued for the watchers, the two together say that the images are
shown in the mode of the page's theme. Attending is preserved by changes of the root, by
added images, by guests that only read, by every round of a delivery, and by starting the
synchronizer again.

## Main results

* `Synchronizer.Attends.step` — what may happen beside the synchronizer preserves it;
* `Synchronizer.Attends.images_of_settled` — what it says where no changes are queued;
* `Synchronizer.images_in_step` — the images of a page on which a synchronizer was started.
-/

namespace ThemedPage

open LivePage

variable {ω : Type} {guests : Reaction ω}

namespace Synchronizer

variable {s : Synchronizer} {authored : List Attributes}

/-- The token depends on the attribute of the theme alone. -/
theorem token_congr {p q : Page}
    (h : p.root.get? s.settings.themeAttribute = q.root.get? s.settings.themeAttribute) :
    s.token p = s.token q := by
  rw [token, token, h]

/-- A pass over a list goes over what the list begins with. -/
theorem map_prefix_map {α β γ : Type} {f : α → β} {g : β → γ} {h : α → γ}
    (hgf : ∀ a, g (f a) = h a) {as : List α} {bs : List β} (hfirst : as.map f <+: bs) :
    as.map h <+: bs.map g := by
  have hmap := hfirst.map g
  rw [List.map_map] at hmap
  have hfun : g ∘ f = h := funext hgf
  rwa [hfun] at hmap

/-! ### Attending -/

/-- The watchers on a live page are **attentive** watchers of a synchronizer: they wait for
changes of the theme's attribute, and the theme they acted on last is the one of the page
unless changes are queued for them. -/
def Attentive (s : Synchronizer) (l : LivePage (Observer ω)) : Prop :=
  ∀ o ∈ l.observers, ∀ w, o.state = .watcher w →
    w.synchronizer = s ∧ o.interest = Interest.only s.settings.themeAttribute ∧
      (o.pending = [] → w.last = s.token l.page)

/-- A synchronizer **attends** to a live page whose first images were authored with given
attributes: its watchers are attentive, and those images are shown in the mode of the theme
that one of them acted on last. -/
structure Attends (s : Synchronizer) (authored : List Attributes) (l : LivePage (Observer ω)) :
    Prop where
  /-- The watchers are attentive. -/
  attentive : s.Attentive l
  /-- Some watcher has the theme that the images show. -/
  images : ∃ o ∈ l.observers, ∃ w, o.state = .watcher w ∧
    authored.map (s.shown (s.resolve w.last)) <+: l.page.images

/-- On a page of guests there is no watcher to be inattentive. -/
theorem attentive_of_hasOnlyGuests {l : LivePage (Observer ω)} (h : l.HasOnlyGuests) :
    s.Attentive l := by
  intro o ho w hw
  obtain ⟨g, hg⟩ := h o ho
  rw [hg] at hw
  cases hw

/-- A change of the root that watchers are told of is either none of the theme's attribute,
or leaves changes queued for every watcher. -/
theorem Attentive.queue {l : LivePage (Observer ω)} (h : s.Attentive l) {name : String}
    {root : Attributes}
    (hroot : ∀ other, name ≠ other → root.get? other = l.page.root.get? other)
    (old : Option String) :
    s.Attentive (LivePage.queue { l with page := { l.page with root := root } } name old) := by
  intro o ho w hw
  obtain ⟨q, hq, rfl⟩ := List.mem_map.mp ho
  obtain ⟨hws, hi, hlast⟩ := h q hq w hw
  refine ⟨hws, hi, fun hp => ?_⟩
  -- No changes are queued afterwards, so the change is one of another attribute.
  obtain ⟨hqp, hc⟩ := List.append_eq_nil_iff.mp hp
  have hne : name ≠ s.settings.themeAttribute := by
    intro heq
    simp [hi, Interest.changes, heq] at hc
  rw [hlast hqp]
  exact token_congr (hroot _ hne).symm

/-- A change of the root is queued for every watcher or is none of the theme's attribute; in
either case the page is attended to as before. -/
theorem Attends.queue {l : LivePage (Observer ω)} (h : s.Attends authored l) {name : String}
    {root : Attributes}
    (hroot : ∀ other, name ≠ other → root.get? other = l.page.root.get? other)
    (old : Option String) :
    s.Attends authored
      (LivePage.queue { l with page := { l.page with root := root } } name old) := by
  refine ⟨h.attentive.queue hroot old, ?_⟩
  obtain ⟨o, ho, w, hw, himages⟩ := h.images
  exact ⟨_, List.mem_map_of_mem ho, w, hw, himages⟩

/-- A synchronizer still attends to the page after an attribute of the root is set. -/
theorem Attends.setRoot {l : LivePage (Observer ω)} (h : s.Attends authored l)
    (name value : String) : s.Attends authored (l.setRoot name value) :=
  (root_invariant_of_queue h name fun _ old hroot => h.queue hroot old).1 value

/-- A synchronizer still attends to the page after an attribute of the root is removed. -/
theorem Attends.removeRoot {l : LivePage (Observer ω)} (h : s.Attends authored l)
    (name : String) : s.Attends authored (l.removeRoot name) :=
  (root_invariant_of_queue h name fun _ old hroot => h.queue hroot old).2

/-- A further image comes behind those that are attended to. -/
theorem Attends.addImage {l : LivePage (Observer ω)} (h : s.Attends authored l)
    (attributes : Attributes) : s.Attends authored (l.addImage attributes) := by
  refine ⟨h.attentive, ?_⟩
  obtain ⟨o, ho, w, hw, himages⟩ := h.images
  exact ⟨o, ho, w, hw, himages.trans (List.prefix_append _ _)⟩

/-- A further observer that is a guest is no watcher. -/
theorem Attentive.observe {l : LivePage (Observer ω)} (h : s.Attentive l)
    (interest : Interest) (g : ω) : s.Attentive (l.observe interest (.guest g)) := by
  intro o ho w hw
  rcases List.mem_append.mp ho with ho | ho
  · exact h o ho w hw
  · rw [List.mem_singleton.mp ho] at hw
    cases hw

/-- A guest who comes does not disturb a synchronizer that attends. -/
theorem Attends.observe {l : LivePage (Observer ω)} (h : s.Attends authored l)
    (interest : Interest) (g : ω) : s.Attends authored (l.observe interest (.guest g)) := by
  refine ⟨h.attentive.observe interest g, ?_⟩
  obtain ⟨o, ho, w, hw, himages⟩ := h.images
  exact ⟨o, List.mem_append_left _ ho, w, hw, himages⟩

/-! ### Rounds -/

/-- Whatever is written to images, the theme stays. -/
theorem token_writeAll (s : Synchronizer) (p : Page) (ws : List ImageWrite) :
    s.token (p.writeAll ws) = s.token p :=
  token_congr (by rw [Page.root_writeAll])

/-- A watcher has acted on the page's theme after its round, and no other round changes
what it acted on or the theme. -/
theorem Attentive.round {l l' : LivePage (Observer ω)} {d : Delivery (Observer ω)}
    (hr : Round (Observer.react guests) l l' d) (h : s.Attentive l) : s.Attentive l' := by
  cases hr with
  | @intro page quiet o rest _ _ =>
      intro q hq v hv
      rw [token_writeAll]
      rcases mem_of_mem_middle hq with rfl | hmem
      · cases ho : o.state with
        | guest g =>
            simp only [ho] at hv
            cases hv
        | watcher w =>
            obtain ⟨hws, hinterest, -⟩ := h o (by simp) w ho
            simp only [ho] at hv
            obtain rfl : (w.respond o.pending page).state = v := Observer.watcher.inj hv
            rw [Watcher.state_respond, hws]
            exact ⟨rfl, hinterest, fun _ => rfl⟩
      · exact h q hmem v hv

/-- A round for a guest leaves the watcher whose theme the images show alone. -/
theorem Attends.images_round_guest {page : Page}
    {quiet rest : List (Subscription (Observer ω))} {o o' : Subscription (Observer ω)} {g : ω}
    (ho : o.state = .guest g) (h : s.Attends authored ⟨page, quiet ++ o :: rest⟩) :
    ∃ q ∈ quiet ++ o' :: rest, ∃ w, q.state = .watcher w ∧
      authored.map (s.shown (s.resolve w.last)) <+: page.images := by
  obtain ⟨q, hq, w, hw, himages⟩ := h.images
  refine ⟨q, ?_, w, hw, himages⟩
  have hne : q ≠ o := by
    rintro rfl
    rw [ho] at hw
    cases hw
  exact mem_middle_of_ne hq hne

/-- After a round for a watcher, either the images were left alone or it is the watcher
whose theme they show. -/
theorem Attends.images_round_watcher (hs : s.Separate) {page : Page}
    {quiet rest : List (Subscription (Observer ω))} {o o' : Subscription (Observer ω)}
    {w : Watcher} (ho : o.state = .watcher w)
    (ho' : o'.state = .watcher (w.respond o.pending page).state)
    (h : s.Attends authored ⟨page, quiet ++ o :: rest⟩) :
    ∃ q ∈ quiet ++ o' :: rest, ∃ v, q.state = .watcher v ∧
      authored.map (s.shown (s.resolve v.last)) <+:
        (page.writeAll (w.respond o.pending page).writes).images := by
  obtain ⟨hws, -, -⟩ := h.attentive o (by simp) w ho
  have hstate : o'.state = .watcher ⟨s, s.token page⟩ := by
    rw [ho', Watcher.state_respond, hws]
  obtain ⟨q, hq, v, hv, himages⟩ := h.images
  by_cases heq : w.synchronizer.token page = w.last
  · -- The watcher does nothing, so whoever has the shown theme still has it.
    rw [Watcher.respond_of_token_eq heq]
    by_cases hqo : q = o
    · subst hqo
      obtain rfl : v = w := Observer.watcher.inj (hv.symm.trans ho)
      have hlast : v.last = s.token page := by rw [← heq, hws]
      rw [hlast] at himages
      exact ⟨o', by simp, _, hstate, himages⟩
    · exact ⟨q, mem_middle_of_ne hq hqo, v, hv, himages⟩
  · -- The watcher restyles all images, so they show its theme whatever they showed before.
    refine ⟨o', by simp, _, hstate, ?_⟩
    rw [Watcher.respond_of_token_ne heq, hws]
    simp only [images_restyles]
    exact map_prefix_map (fun a => restyled_shown hs _ _ a) himages

/-- **A round keeps the synchronizer attending**: one for a watcher ends with the theme of
the page acted on, and one for a guest leaves images and watchers alone. -/
theorem Attends.round (hs : s.Separate) (hg : guests.ReadsOnly) {l l' : LivePage (Observer ω)}
    {d : Delivery (Observer ω)} (hr : Round (Observer.react guests) l l' d)
    (h : s.Attends authored l) : s.Attends authored l' := by
  refine ⟨h.attentive.round hr, ?_⟩
  cases hr with
  | @intro page quiet o rest _ _ =>
      cases ho : o.state with
      | guest g =>
          have hwrites : (Observer.react guests (.guest g) o.pending page).writes = [] :=
            hg g o.pending page
          rw [hwrites, Page.writeAll_nil]
          exact h.images_round_guest ho
      | watcher w => exact h.images_round_watcher hs ho rfl

/-! ### Starting -/

/-- The page after a start is the page after its writes. -/
@[simp] theorem page_start (s : Synchronizer) (l : LivePage (Observer ω)) :
    (s.start .watcher l).page = l.page.writeAll (s.activate l.page).writes := rfl

/-- Starting leaves the theme alone. -/
@[simp] theorem token_start (s : Synchronizer) (l : LivePage (Observer ω)) :
    s.token (s.start .watcher l).page = s.token l.page :=
  token_writeAll s _ _

/-- Whoever is started among attentive watchers attends, if the pass of starting shows the
images in the mode of the theme. -/
theorem attends_start {l : LivePage (Observer ω)} (h : s.Attentive l)
    (himages : authored.map (s.shown (s.resolve (s.token l.page))) <+:
      l.page.images.map (s.shown (s.resolve (s.token l.page)))) :
    s.Attends authored (s.start .watcher l) := by
  have hmem : (⟨Interest.only s.settings.themeAttribute, .watcher ⟨s, s.token l.page⟩, []⟩ :
      Subscription (Observer ω)) ∈ (s.start .watcher l).observers :=
    List.mem_append_right _ (List.mem_singleton_self _)
  refine ⟨?_, ⟨_, hmem, _, rfl, ?_⟩⟩
  · intro o ho w hw
    rw [token_start]
    rcases List.mem_append.mp ho with ho | ho
    · exact h o ho w hw
    · rw [List.mem_singleton.mp ho] at hw ⊢
      obtain rfl : w = ⟨s, s.token l.page⟩ := (Observer.watcher.inj hw).symm
      exact ⟨rfl, rfl, fun _ => rfl⟩
  · rw [page_start, images_activate]
    exact himages

/-- A synchronizer attends to a page of guests on which it is started. -/
theorem attends_start_of_hasOnlyGuests (s : Synchronizer) {l : LivePage (Observer ω)}
    (h : l.HasOnlyGuests) : s.Attends l.page.images (s.start .watcher l) :=
  attends_start (attentive_of_hasOnlyGuests h) (List.prefix_refl _)

/-- Started again, it attends as before. -/
theorem Attends.start (hs : s.Separate) {l : LivePage (Observer ω)}
    (h : s.Attends authored l) : s.Attends authored (s.start .watcher l) := by
  obtain ⟨o, -, w, -, himages⟩ := h.images
  exact attends_start h.attentive (map_prefix_map (fun a => shown_shown hs _ _ a) himages)

/-- **Where no changes are queued for watchers, the images show the theme of the page.** -/
theorem Attends.images_of_settled {l : LivePage (Observer ω)} (h : s.Attends authored l)
    (hsettled : ∀ o ∈ l.observers, o.state.isWatcher = true → o.pending = []) :
    authored.map (s.shown (s.resolve (s.token l.page))) <+: l.page.images := by
  obtain ⟨o, ho, w, hw, himages⟩ := h.images
  obtain ⟨-, -, hlast⟩ := h.attentive o ho w hw
  have hp : o.pending = [] := hsettled o ho (by rw [hw]; rfl)
  rwa [hlast hp] at himages

/-! ### Runs -/

/-- What may happen to a page **beside** a synchronizer: the root changes, images are
added, guests come, and changes are delivered. -/
inductive Beside : Step (Observer ω) → Prop
  | setRoot (name value : String) : Beside (.setRoot name value)
  | removeRoot (name : String) : Beside (.removeRoot name)
  | addImage (attributes : Attributes) : Beside (.addImage attributes)
  | observe (interest : Interest) (g : ω) : Beside (.observe interest (.guest g))
  | round : Beside .round
  | deliver : Beside .deliver

/-- **What happens beside a synchronizer leaves it attending**: the step lemma of every run. -/
theorem Attends.step (hs : s.Separate) (hg : guests.ReadsOnly) {l : LivePage (Observer ω)}
    {a : Step (Observer ω)} (ha : Beside a) (h : s.Attends authored l) :
    s.Attends authored (l.step (Observer.react guests) a).1 := by
  have hdelivers := step_invariant_of_round (Observer.react guests)
    (fun _ _ _ hr hl => Attends.round hs hg hr hl) h
  cases ha with
  | setRoot name value => exact h.setRoot name value
  | removeRoot name => exact h.removeRoot name
  | addImage attributes => exact h.addImage attributes
  | observe interest g => exact h.observe interest g
  | round => exact hdelivers.1
  | deliver => exact hdelivers.2

/-- Beside a synchronizer no watchers come. -/
theorem onlyWatcherAt_step {n : Nat} {l : LivePage (Observer ω)} {a : Step (Observer ω)}
    (ha : Beside a) (h : l.OnlyWatcherAt n) :
    (l.step (Observer.react guests) a).1.OnlyWatcherAt n := by
  have hdelivers := step_invariant_of_round (Observer.react guests)
    (P := OnlyWatcherAt n)
    (fun l l' d hr hl => by rwa [OnlyWatcherAt, watchers_of_round hr]) h
  have hroot := fun name => root_invariant_of_queue (P := OnlyWatcherAt n) h name
    fun root old _ => by rwa [OnlyWatcherAt, watchers_queue]
  cases ha with
  | setRoot name value => exact (hroot name).1 value
  | removeRoot name => exact (hroot name).2
  | addImage attributes => exact h
  | observe interest g => exact h.observe interest g
  | round => exact hdelivers.1
  | deliver => exact hdelivers.2

/-- What both passes make of an image as it was authored shows the mode. -/
theorem shows_shown (hs : s.Separate) (m : Mode) (a : Attributes) :
    s.Shows m a (s.shown m a) := by
  have htemplate := get?_template_shown hs m a
  have hsource := get?_source_shown hs m a
  rw [← htemplate] at hsource
  refine ⟨⟨htemplate, ?_⟩, ?_, fun name ht hn => get?_other_shown hs m a ht hn⟩
  · intro t ht hthemed
    obtain ⟨source, hresolve, hvariant⟩ := Template.exists_variant hthemed m
    refine ⟨source, ?_, hvariant⟩
    rw [hsource, ht, Option.bind_some, hresolve, Option.some_or]
  · intro hplain
    rw [hsource]
    cases ht : (s.shown m a).get? s.settings.templateAttribute with
    | none => rfl
    | some t =>
        have hnone : Template.resolve ⟨t⟩ m = none :=
          (Template.resolve_eq_none_iff_solid ⟨t⟩ m).mpr (hplain t ht)
        rw [Option.bind_some, hnone, Option.none_or]

/-- **Images in step.** Start a synchronizer on a page of guests that only read, and let
anything happen beside it: whenever no changes are queued for the watcher, which is so
after the start and after every delivery, each image that was there shows the mode that the
root is in; and changes of the root by themselves change no image. -/
theorem images_in_step (hs : s.Separate) (hg : guests.ReadsOnly)
    {l₀ : LivePage (Observer ω)} (h₀ : l₀.HasOnlyGuests)
    {steps : List (Step (Observer ω))} (hsteps : ∀ a ∈ steps, Beside a) :
    let n := l₀.nextObserver
    let l := ((s.start .watcher l₀).run (Observer.react guests) steps).1
    (l.pendingAt n = [] → ∃ m, (∀ m', s.InMode l.page.root m' ↔ m' = m) ∧
      ∀ (i : Nat) (authored : Attributes), l₀.page.images[i]? = some authored →
        ∃ image, l.page.images[i]? = some image ∧ s.Shows m authored image) ∧
    (s.start .watcher l₀).pendingAt n = [] ∧
    (l.deliver (Observer.react guests)).1.pendingAt n = [] ∧
    (∀ name value, (l.setRoot name value).page.images = l.page.images) ∧
    ∀ name, (l.removeRoot name).page.images = l.page.images := by
  intro n l
  have hattends : s.Attends l₀.page.images l :=
    run_invariant (fun _ _ ha h => Attends.step hs hg ha h) hsteps
      (attends_start_of_hasOnlyGuests s h₀)
  have honly : l.OnlyWatcherAt n :=
    run_invariant (fun _ _ ha h => onlyWatcherAt_step ha h) hsteps
      (h₀.onlyWatcherAt_observe _ _)
  refine ⟨?_, ?_, ?_, ?_, ?_⟩
  · intro hn
    refine ⟨s.resolve (s.token l.page), fun _ => inMode_iff, fun i authored hi => ?_⟩
    -- Images added in between stand behind those that were there.
    obtain ⟨added, hadded⟩ :=
      hattends.images_of_settled fun o ho hw => honly.pending_eq_nil hn ho hw
    have hlt : i < l₀.page.images.length := (List.getElem?_eq_some_iff.mp hi).1
    refine ⟨s.shown (s.resolve (s.token l.page)) authored, ?_, shows_shown hs _ _⟩
    rw [← hadded, List.getElem?_append_left (by simpa using hlt), List.getElem?_map, hi,
      Option.map_some]
  · simp [start, observe, writeAll, pendingAt, n, nextObserver]
  · exact pendingAt_of_quiet (quiet_deliver _ _) n
  · exact images_setRoot l
  · exact images_removeRoot l

/-- On a page with a guest, the standard synchronizer first shows the dark image, as the page has
no theme, and shows the light one once a light theme is delivered after a dark one. -/
theorem standard_in_step :
    let guests : Reaction Unit := fun _ _ _ => { state := () }
    let authored : Attributes := Dict.ofList [("src", "hero-$theme.png")]
    let l₀ : LivePage (Observer Unit) :=
      (ofPage { images := [authored] }).observe Interest.all (.guest ())
    let started := standard.start .watcher l₀
    let l := (started.run (Observer.react guests)
      [.setRoot "class" "coal", .setRoot "class" "rust", .deliver]).1
    started.page.imageAttribute? 0 "src" = some "hero-dark.png" ∧
      l.page.imageAttribute? 0 "src" = some "hero-light.png" ∧
      standard.InMode l.page.root .light ∧
      ∃ image, l.page.images[0]? = some image ∧ standard.Shows .light authored image := by
  intro guests authored l₀ started l
  have hs : standard.Separate :=
    separate_of_ofSettings (show ofSettings Settings.standard = .ok standard from rfl)
  have hg : guests.ReadsOnly := fun _ _ _ => rfl
  have h₀ : l₀.HasOnlyGuests := (hasOnlyGuests_ofPage _).observe Interest.all ()
  have hsteps : ∀ a ∈ [Step.setRoot "class" "coal", .setRoot "class" "rust", .deliver],
      Beside (ω := Unit) a := by
    simp [Beside.setRoot, Beside.deliver]
  have hroot : l.page.root.get? "class" = some "rust" := by decide
  have hlight : standard.InMode l.page.root .light :=
    ⟨"rust", .present hroot .whole, .listed (by decide)⟩
  obtain ⟨himages, -⟩ := images_in_step hs hg h₀ hsteps
  obtain ⟨m, hmode, hshows⟩ := himages (by decide)
  obtain rfl : Mode.light = m := (hmode .light).mp hlight
  exact ⟨by decide, by decide, hlight, hshows 0 authored rfl⟩

end Synchronizer

end ThemedPage
