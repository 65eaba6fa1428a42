import ThemedPage.Proofs.ModeChanges

/-!
# Keeping Sources as Templates

The pass that keeps the sources of images as their templates, and how it goes together with the
pass that brings sources in step with a mode. It gives a template to the images that have a
source and none yet, so a second one finds nothing to do. An image that a change of the mode
rewrites has a template already: the two passes are never after the same image, and a page that
is shown in a mode may have been brought in step with any other before its sources were kept.

## Main results

* `Synchronizer.capturesTo_captured` — what the pass makes of an image;
* `Synchronizer.captures_restyle` — sources that were brought in step are not kept;
* `Synchronizer.captures_exactly` — the pass, a second one, and passes around it.
-/

namespace ThemedPage

/-- The positions of the images that do not have an attribute on this page and have it on
another, in document order. -/
def Page.gained (name : String) (p q : Page) : List Nat :=
  (List.range p.images.length).filter fun i =>
    p.imageAttribute? i name = none ∧ q.imageAttribute? i name ≠ none

namespace Synchronizer

variable {ω : Type} (s : Synchronizer)

/-- The page after the sources of its images are kept as templates. -/
def capture (p : Page) : Page := p.writeAll (s.captures p)

/-! ### One image -/

/-- What the pass is to make of an image: it has a template if it has one or a source, and
everything else is as it was. -/
structure CapturesTo (a b : Attributes) : Prop where
  /-- An image that has a template is as it was. -/
  kept : ∀ t, a.get? s.settings.templateAttribute = some t → b = a
  /-- The source of an image without a template becomes its template. -/
  gained : ∀ source, a.get? s.settings.templateAttribute = none →
    a.get? s.settings.sourceAttribute = some source →
    b.get? s.settings.templateAttribute = some source
  /-- An image with neither is as it was. -/
  bare : a.get? s.settings.templateAttribute = none →
    a.get? s.settings.sourceAttribute = none → b = a
  /-- Only the template is another. -/
  others : ∀ name, name ≠ s.settings.templateAttribute → b.get? name = a.get? name

/-- What the pass makes of an image is what it is to make of it. -/
theorem capturesTo_captured (a : Attributes) : s.CapturesTo a (s.captured a) where
  kept _ ht := s.captured_of_missingTemplate_eq_none (s.missingTemplate_of_template ht)
  gained source ht hsource := by rw [get?_captured, if_pos rfl, ht, hsource, Option.none_or]
  bare ht hsource := s.captured_of_missingTemplate_eq_none
    ((s.missingTemplate_of_no_template ht).trans hsource)
  others name hname := by rw [get?_captured, if_neg hname]

/-- The pass is sparing: a template is wanted only where there is none. -/
theorem sparing_missingTemplate :
    Page.Sparing s.settings.templateAttribute s.missingTemplate := by
  intro a value h ht
  rw [s.missingTemplate_of_template ht] at h
  cases h

/-- The pass changes an image exactly if the image gains a template. -/
theorem captured_ne_self_iff (a : Attributes) :
    s.captured a ≠ a ↔ a.get? s.settings.templateAttribute = none ∧
      (s.captured a).get? s.settings.templateAttribute ≠ none := by
  have hcaptures := s.capturesTo_captured a
  constructor
  · intro hne
    cases ht : a.get? s.settings.templateAttribute with
    | some t => exact absurd (hcaptures.kept t ht) hne
    | none =>
        cases hsource : a.get? s.settings.sourceAttribute with
        | none => exact absurd (hcaptures.bare ht hsource) hne
        | some source =>
            rw [hcaptures.gained source ht hsource]
            exact ⟨rfl, Option.some_ne_none source⟩
  · rintro ⟨hnone, hsome⟩ heq
    rw [heq] at hsome
    exact hsome hnone

variable {s}

/-- Bringing an image in step with a mode, keeping its source, and bringing it in step with
another mode is the same without the first. -/
theorem restyled_captured_restyled (hs : s.Separate) (m m' : Mode) (a : Attributes) :
    s.restyled m' (s.captured (s.restyled m a)) = s.restyled m' (s.captured a) := by
  cases ht : a.get? s.settings.templateAttribute with
  | none => rw [restyled_of_no_template ht]
  | some t =>
      have ht' := (get?_template_restyled hs m a).trans ht
      rw [(s.capturesTo_captured a).kept t ht, (s.capturesTo_captured _).kept t ht',
        restyled_restyled hs]

/-! ### Pages -/

variable (s)

/-- The pass makes of every image what it makes of it alone, and leaves the root alone. -/
theorem capture_eq (p : Page) : s.capture p = ⟨p.root, p.images.map s.captured⟩ := by
  calc s.capture p
    _ = ⟨(s.capture p).root, (s.capture p).images⟩ := rfl
    _ = ⟨p.root, p.images.map s.captured⟩ := by
      rw [capture, Page.root_writeAll, images_captures]

/-- The images that the pass changes are those that gain a template. -/
theorem changed_capture (p : Page) :
    Page.changed p (s.capture p) =
      Page.gained s.settings.templateAttribute p (s.capture p) := by
  refine List.filter_congr fun i hi => decide_eq_decide.mpr ?_
  rw [Page.imageAttribute?, Page.imageAttribute?, capture_eq, List.getElem?_map,
    List.getElem?_eq_getElem (List.mem_range.mp hi), Option.map_some, Option.bind_some,
    Option.bind_some, ← captured_ne_self_iff, ne_eq, ne_eq, Option.some_inj, eq_comm]

/-- A second pass finds nothing to keep. -/
theorem captures_capture (p : Page) : s.captures (s.capture p) = [] := by
  rw [captures, Page.updates_eq_nil_iff, capture_eq]
  intro a ha
  obtain ⟨b, -, rfl⟩ := List.mem_map.mp ha
  exact s.missingTemplate_captured b

variable {s}

/-- Where templates and sources share an attribute, an image with a source has a template,
and the pass writes nothing. -/
theorem captures_of_shared (hs : ¬s.Separate) (p : Page) : s.captures p = [] := by
  have hshared : s.settings.templateAttribute = s.settings.sourceAttribute := not_not.mp hs
  rw [captures, Page.updates_eq_nil_iff]
  intro a _
  cases ht : a.get? s.settings.templateAttribute with
  | some t => exact s.missingTemplate_of_template ht
  | none => rw [s.missingTemplate_of_no_template ht, ← hshared, ht]

/-- **Sources that were brought in step are not kept**: a change of the mode before the pass
does not change its writes. -/
theorem captures_restyle (hs : s.Separate) (m : Mode) (p : Page) :
    s.captures (s.restyle m p) = s.captures p := by
  rw [captures, restyle_eq]
  exact Page.updates_map (missingTemplate_restyled hs m) 0 p.images

/-- A pass in one mode before sources are kept makes no difference to one in another mode
afterwards: images without a template are not restyled, and their sources are kept as they
were. -/
theorem restyle_capture_restyle (hs : s.Separate) (m m' : Mode) (p : Page) :
    s.restyle m' (s.capture (s.restyle m p)) = s.restyle m' (s.capture p) := by
  rw [restyle_eq, restyle_eq, restyle_eq, capture_eq, capture_eq, List.map_map, List.map_map,
    List.map_map]
  congr 1
  exact List.map_congr_left fun a _ => restyled_captured_restyled hs m m' a

/-- **Keeping sources as templates records exactly the templates that are missing.** Take any
live page. Told image by image, each read as it is by then, the pass makes the same writes and
the same page. The images that have a source and no template have that source as their template
behind it; every other image, every other attribute, the root, and what is queued for observers
are as they were. There are as many writes as images that gain a template, and none if templates
and sources share an attribute. A second pass writes nothing. If templates and sources are
separate, bringing sources in step with any mode before the pass changes neither its writes nor
the page that is brought in step with a mode behind it. -/
theorem captures_exactly (s : Synchronizer) (l : LivePage ω) :
    let ws := s.captures l.page
    let l' := l.writeAll ws
    Page.sweep s.settings.templateAttribute s.missingTemplate
        (List.range l.page.images.length) l.page = (l'.page, ws) ∧
      List.Forall₂ s.CapturesTo l.page.images l'.page.images ∧
      l'.page.root = l.page.root ∧ l'.observers = l.observers ∧
      ws.length = (Page.gained s.settings.templateAttribute l.page l'.page).length ∧
      (¬s.Separate → ws = []) ∧
      s.captures l'.page = [] ∧ l'.writeAll (s.captures l'.page) = l' ∧
      (s.Separate → ∀ m m',
        (s.captures (s.restyle m l.page)).length = ws.length ∧
        s.restyle m' (s.capture (s.restyle m l.page)) = s.restyle m' (s.capture l.page)) := by
  intro ws l'
  have hagain : s.captures l'.page = [] := s.captures_capture l.page
  refine ⟨Page.sweep_eq _ _ l.page, ?_, Page.root_writeAll l.page ws, rfl, ?_,
    fun hs => captures_of_shared hs l.page, hagain, ?_, fun hs m m' => ⟨?_, ?_⟩⟩
  · have himages : l'.page.images = l.page.images.map s.captured := s.images_captures l.page
    rw [himages, List.forall₂_map_right_iff, List.forall₂_same]
    exact fun a _ => s.capturesTo_captured a
  · have hlength := Page.length_updates_eq_changed s.sparing_missingTemplate l.page
    rwa [← captures, ← capture, changed_capture] at hlength
  · rw [hagain]
    rfl
  · rw [captures_restyle hs]
  · exact restyle_capture_restyle hs m m' l.page

end Synchronizer

end ThemedPage
