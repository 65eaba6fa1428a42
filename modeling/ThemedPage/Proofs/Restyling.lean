import ThemedPage.Proofs.Passes
import ThemedPage.Synchronizer

/-!
# What Passes Do to Images

A synchronizer goes over the images of a page in passes: one keeps sources as templates,
one brings sources in step with a mode, and starting does both. Each is a pass over the
images one by one, so all that there is to know of it is what it makes of the attributes
of one image. This module says it through look-ups, `Synchronizer.get?_captured` and
`Synchronizer.get?_restyled`, and what a pass makes of an image is opened nowhere else.

An image over which both passes have gone is **shown** in a mode. If templates have an
attribute of their own, an image that is shown in some mode can be brought in step with any
other, and nothing of the former mode is left.

## Main results

* `Synchronizer.images_captures`, `Synchronizer.images_restyles`,
  `Synchronizer.images_activate` — the passes over a page;
* `Synchronizer.get?_shown` — the attributes of an image that is shown in a mode;
* `Synchronizer.restyled_shown`, `Synchronizer.shown_shown` — the last mode counts;
* `Synchronizer.captures_eq_nil_of_shown` — an image that is shown needs no template.
-/

namespace ThemedPage

/-- A template is declined in every mode or in none. -/
theorem Template.resolve_eq_none_iff (t : Template) (m : Mode) :
    t.resolve m = none ↔ t.isThemed = false := by
  rw [Template.resolve]
  cases t.isThemed <;> simp

namespace Synchronizer

variable (s : Synchronizer)

/-! ### One image -/

/-- An image after the pass that keeps sources as templates. -/
def captured (a : Attributes) : Attributes :=
  Page.update s.settings.templateAttribute s.missingTemplate a

/-- An image after the pass that brings sources in step with a mode. -/
def restyled (m : Mode) (a : Attributes) : Attributes :=
  Page.update s.settings.sourceAttribute (s.staleSource m) a

/-- An image **shown** in a mode: after both passes. -/
def shown (m : Mode) (a : Attributes) : Attributes := s.restyled m (s.captured a)

/-- The source that the template of an image has in a mode, if the template is there and
themed. -/
def resolved (m : Mode) (a : Attributes) : Option String :=
  (a.get? s.settings.templateAttribute).bind fun template => Template.resolve ⟨template⟩ m

/-- An image that has a template is missing none. -/
theorem missingTemplate_of_template {a : Attributes} {t : String}
    (h : a.get? s.settings.templateAttribute = some t) : s.missingTemplate a = none := by
  rw [missingTemplate, Dict.contains_eq, h, Option.isSome_some, if_pos rfl]

/-- An image without a template is to have its source as one. -/
theorem missingTemplate_of_no_template {a : Attributes}
    (h : a.get? s.settings.templateAttribute = none) :
    s.missingTemplate a = a.get? s.settings.sourceAttribute := by
  rw [missingTemplate, Dict.contains_eq, h, Option.isSome_none, if_neg Bool.false_ne_true]

/-- An image that is missing no template is left alone. -/
theorem captured_of_missingTemplate_eq_none {a : Attributes} (h : s.missingTemplate a = none) :
    s.captured a = a := by
  rw [captured, Page.update, h]

/-- Keeping the source as the template gives an image the template that it has or else its
source, and changes nothing else. -/
theorem get?_captured (a : Attributes) (name : String) :
    (s.captured a).get? name =
      if name = s.settings.templateAttribute then
        (a.get? s.settings.templateAttribute).or (a.get? s.settings.sourceAttribute)
      else a.get? name := by
  rw [captured, Page.get?_update]
  cases ht : a.get? s.settings.templateAttribute with
  | some template => rw [s.missingTemplate_of_template ht, Option.none_or, Option.some_or]
  | none => rw [s.missingTemplate_of_no_template ht, Option.or_none, Option.none_or]

/-- An image whose source was kept needs no template. -/
theorem missingTemplate_captured (a : Attributes) :
    s.missingTemplate (s.captured a) = none := by
  cases h : s.missingTemplate a with
  | none => rw [s.captured_of_missingTemplate_eq_none h, h]
  | some source =>
      refine s.missingTemplate_of_template (t := source) ?_
      rw [captured, Page.get?_update, if_pos rfl, h, Option.some_or]

/-- The source that an image is to be given is its template resolved, unless it is there. -/
theorem staleSource_eq (m : Mode) (a : Attributes) :
    s.staleSource m a = (s.resolved m a).bind fun source =>
      if a.get? s.settings.sourceAttribute = some source then none else some source := by
  simp [staleSource, resolved, bind, Option.bind_assoc]

/-- An image without a source in a mode is left alone. -/
theorem restyled_of_resolved_eq_none {m : Mode} {a : Attributes} (h : s.resolved m a = none) :
    s.restyled m a = a := by
  rw [restyled, Page.update, staleSource_eq, h, Option.bind_none]

/-- Bringing the source in step gives an image the source of its template if that is
themed, and changes nothing else. -/
theorem get?_restyled (m : Mode) (a : Attributes) (name : String) :
    (s.restyled m a).get? name =
      if name = s.settings.sourceAttribute then
        (s.resolved m a).or (a.get? s.settings.sourceAttribute)
      else a.get? name := by
  rw [restyled, Page.get?_update, staleSource_eq]
  cases s.resolved m a with
  | none => rw [Option.bind_none]
  | some source =>
      rw [Option.bind_some, Option.some_or]
      by_cases hs : a.get? s.settings.sourceAttribute = some source
      · rw [if_pos hs, hs, Option.none_or]
      · rw [if_neg hs, Option.some_or]

/-! ### Shown images -/

/-- Templates and sources are **separate** if they have different attributes. -/
def Separate : Prop := s.settings.templateAttribute ≠ s.settings.sourceAttribute

instance : Decidable s.Separate := inferInstanceAs (Decidable (_ ≠ _))

variable {s}

/-- Usable settings keep templates and sources separate. -/
theorem separate_of_ofSettings {settings : Settings} (h : ofSettings settings = .ok s) :
    s.Separate := by
  rw [ofSettings, Settings.checkNames] at h
  split at h
  · cases h
  · split at h
    · cases h
    · rename_i hne
      cases ht : settings.table with
      | error e =>
          rw [ht] at h
          cases h
      | ok table =>
          rw [ht] at h
          cases h
          exact hne

/-- The attributes of an image that is shown in a mode: the template is the authored one or
else the authored source, the source is that of the template if it is themed and the
authored one if not, and all others are as authored. -/
theorem get?_shown (hs : s.Separate) (m : Mode) (a : Attributes) (name : String) :
    (s.shown m a).get? name =
      if name = s.settings.sourceAttribute then
        (s.resolved m (s.captured a)).or (a.get? s.settings.sourceAttribute)
      else if name = s.settings.templateAttribute then
        (a.get? s.settings.templateAttribute).or (a.get? s.settings.sourceAttribute)
      else a.get? name := by
  rw [shown, get?_restyled]
  split
  · rw [get?_captured, if_neg (Ne.symm hs)]
  · rw [get?_captured]

/-- After its source is kept, an image has the source in a mode that its template has, or
else the one that its source has as a template. -/
theorem resolved_captured (m : Mode) (a : Attributes) :
    s.resolved m (s.captured a) =
      ((a.get? s.settings.templateAttribute).or (a.get? s.settings.sourceAttribute)).bind
        fun template => Template.resolve ⟨template⟩ m := by
  rw [resolved, get?_captured, if_pos rfl]

/-- The template of an image that is shown is its own or else its source. -/
theorem get?_template_shown (hs : s.Separate) (m : Mode) (a : Attributes) :
    (s.shown m a).get? s.settings.templateAttribute =
      (a.get? s.settings.templateAttribute).or (a.get? s.settings.sourceAttribute) := by
  rw [get?_shown hs, if_neg hs, if_pos rfl]

/-- The source of an image that is shown is the variant of its template, or else its own. -/
theorem get?_source_shown (hs : s.Separate) (m : Mode) (a : Attributes) :
    (s.shown m a).get? s.settings.sourceAttribute =
      (((a.get? s.settings.templateAttribute).or (a.get? s.settings.sourceAttribute)).bind
        fun template => Template.resolve ⟨template⟩ m).or
          (a.get? s.settings.sourceAttribute) := by
  rw [get?_shown hs, if_pos rfl, resolved_captured]

/-- An image that is shown keeps all else that it has. -/
theorem get?_other_shown (hs : s.Separate) (m : Mode) (a : Attributes) {name : String}
    (ht : name ≠ s.settings.templateAttribute) (hn : name ≠ s.settings.sourceAttribute) :
    (s.shown m a).get? name = a.get? name := by
  rw [get?_shown hs, if_neg hn, if_neg ht]

/-- A template resolved in one mode is resolved in every other. -/
theorem bind_resolve_or (o e : Option String) (m m' : Mode) :
    (o.bind fun t => Template.resolve ⟨t⟩ m').or
        ((o.bind fun t => Template.resolve ⟨t⟩ m).or e) =
      (o.bind fun t => Template.resolve ⟨t⟩ m').or e := by
  cases o with
  | none => rfl
  | some t =>
      cases h : Template.resolve ⟨t⟩ m' with
      | some source => simp [h]
      | none =>
          have hm : Template.resolve ⟨t⟩ m = none := by
            rw [Template.resolve_eq_none_iff] at h ⊢
            exact h
          simp [h, hm]

/-- Restyling leaves templates alone. -/
theorem get?_template_restyled (hs : s.Separate) (m : Mode) (a : Attributes) :
    (s.restyled m a).get? s.settings.templateAttribute =
      a.get? s.settings.templateAttribute := by
  rw [get?_restyled, if_neg hs]

/-- An image with a themed template is given the source of its template. -/
theorem get?_source_restyled_of_themed (m : Mode) {a : Attributes} {t : String}
    (ht : a.get? s.settings.templateAttribute = some t)
    (hthemed : Template.isThemed ⟨t⟩ = true) :
    (s.restyled m a).get? s.settings.sourceAttribute = Template.resolve ⟨t⟩ m := by
  rw [get?_restyled, if_pos rfl, resolved, ht, Option.bind_some, Template.resolve,
    if_pos hthemed, Option.some_or]

/-- Restyling does not change what source an image is to have in a mode. -/
theorem resolved_restyled (hs : s.Separate) (m m' : Mode) (a : Attributes) :
    s.resolved m' (s.restyled m a) = s.resolved m' a := by
  rw [resolved, get?_template_restyled hs, resolved]

/-- **The last mode counts**: an image brought in step with one mode and then with another
is in step with the other, and nothing of the former is left. -/
theorem restyled_restyled (hs : s.Separate) (m m' : Mode) (a : Attributes) :
    s.restyled m' (s.restyled m a) = s.restyled m' a := by
  refine Dict.ext_get? fun name => ?_
  rw [get?_restyled, resolved_restyled hs, get?_restyled, if_pos rfl, get?_restyled, get?_restyled]
  by_cases hn : name = s.settings.sourceAttribute
  · rw [if_pos hn, if_pos hn, resolved, resolved, bind_resolve_or]
  · rw [if_neg hn, if_neg hn, if_neg hn]

/-- An image shown in one mode and brought in step with another is shown in that. -/
theorem restyled_shown (hs : s.Separate) (m m' : Mode) (a : Attributes) :
    s.restyled m' (s.shown m a) = s.shown m' a := by
  rw [shown, restyled_restyled hs, shown]

theorem restyled_of_no_template {a : Attributes}
    (h : a.get? s.settings.templateAttribute = none) (m : Mode) : s.restyled m a = a := by
  refine s.restyled_of_resolved_eq_none ?_
  rw [resolved, h, Option.bind_none]

/-- Bringing an image in step neither gives it a template nor takes one away, and without one it
keeps its source. -/
theorem missingTemplate_restyled (hs : s.Separate) (m : Mode) (a : Attributes) :
    s.missingTemplate (s.restyled m a) = s.missingTemplate a := by
  cases ht : a.get? s.settings.templateAttribute with
  | none => rw [restyled_of_no_template ht]
  | some t =>
      have ht' := (get?_template_restyled hs m a).trans ht
      rw [s.missingTemplate_of_template ht, s.missingTemplate_of_template ht']

/-- An image that is shown needs no template: it has one, or has no source either. -/
theorem missingTemplate_shown (hs : s.Separate) (m : Mode) (a : Attributes) :
    s.missingTemplate (s.shown m a) = none := by
  rw [shown, missingTemplate_restyled hs, missingTemplate_captured]

/-- An image that is shown is missing no template. -/
theorem captured_shown (hs : s.Separate) (m : Mode) (a : Attributes) :
    s.captured (s.shown m a) = s.shown m a := by
  exact s.captured_of_missingTemplate_eq_none (missingTemplate_shown hs m a)

/-- An image shown in one mode and then in another is shown in the other. -/
theorem shown_shown (hs : s.Separate) (m m' : Mode) (a : Attributes) :
    s.shown m' (s.shown m a) = s.shown m' a := by
  rw [shown, captured_shown hs, restyled_shown hs]

/-! ### Pages -/

variable (s)

/-- The pass that keeps sources makes of every image what it makes of it alone. -/
theorem images_captures (p : Page) :
    (p.writeAll (s.captures p)).images = p.images.map s.captured :=
  Page.images_writeAll_updates p _ _

/-- The pass that restyles makes of every image what it makes of it alone. -/
theorem images_restyles (m : Mode) (p : Page) :
    (p.writeAll (s.restyles m p)).images = p.images.map (s.restyled m) :=
  Page.images_writeAll_updates p _ _

/-- Starting shows every image in the mode of the page's theme. -/
theorem images_activate (p : Page) :
    (p.writeAll (s.activate p).writes).images =
      p.images.map (s.shown (s.resolve (s.token p))) := by
  simp only [activate, Page.writeAll_append]
  rw [images_restyles, images_captures, List.map_map]
  rfl

variable {s}

/-- Where all images are shown, none needs a template. -/
theorem captures_eq_nil_of_shown (hs : s.Separate) {p : Page} {m : Mode}
    {authored : List Attributes} (h : p.images = authored.map (s.shown m)) :
    s.captures p = [] := by
  rw [captures, Page.updates_eq_nil_iff, h]
  intro a ha
  obtain ⟨b, -, rfl⟩ := List.mem_map.mp ha
  exact missingTemplate_shown hs m b

end Synchronizer

/-! ### Watchers -/

namespace Watcher

/-- A watcher that finds the theme it acted on last only says so. -/
theorem respond_of_token_eq {w : Watcher} {p : Page} (h : w.synchronizer.token p = w.last)
    (changes : List Change) :
    w.respond changes p = { state := w, log := [.unchanged changes.length w.last] } := by
  simp [respond, h]

/-- A watcher that finds another theme brings the images in step with it. -/
theorem respond_of_token_ne {w : Watcher} {p : Page} (h : w.synchronizer.token p ≠ w.last)
    (changes : List Change) :
    w.respond changes p =
      let theme := w.synchronizer.token p
      let mode := w.synchronizer.resolve theme
      let restyles := w.synchronizer.restyles mode p
      { state := ⟨w.synchronizer, theme⟩
        writes := restyles
        log := Synchronizer.restyleLog restyles ++
          [.changed w.last theme mode restyles.length] } := by
  simp [respond, h]

/-- After a response the theme of the page is the one that the watcher acted on last. -/
theorem state_respond (w : Watcher) (changes : List Change) (p : Page) :
    (w.respond changes p).state = ⟨w.synchronizer, w.synchronizer.token p⟩ := by
  by_cases h : w.synchronizer.token p = w.last
  · rw [respond_of_token_eq h, h]
  · rw [respond_of_token_ne h]

/-- A response leaves the images alone or brings them in step with a mode. -/
theorem images_respond (w : Watcher) (changes : List Change) (p : Page) :
    (p.writeAll (w.respond changes p).writes).images = p.images ∨
      ∃ m, (p.writeAll (w.respond changes p).writes).images =
        p.images.map (w.synchronizer.restyled m) := by
  by_cases h : w.synchronizer.token p = w.last
  · rw [respond_of_token_eq h]
    exact Or.inl rfl
  · rw [respond_of_token_ne h]
    exact Or.inr ⟨_, Synchronizer.images_restyles _ _ p⟩

/-- What passes take from mode to mode, a response takes from the mode of the theme that the
watcher acted on last to the mode of the page's theme, whatever it is told. -/
theorem images_respond_of_last {P : Mode → List Attributes → Prop} {w : Watcher} {p : Page}
    (h : P (w.synchronizer.resolve w.last) p.images)
    (hpass : ∀ m m', P m p.images → P m' (p.images.map (w.synchronizer.restyled m')))
    (changes : List Change) :
    P (w.synchronizer.resolve (w.synchronizer.token p))
      (p.writeAll (w.respond changes p).writes).images := by
  by_cases htoken : w.synchronizer.token p = w.last
  · rw [respond_of_token_eq htoken, Page.writeAll_nil, htoken]
    exact h
  · rw [respond_of_token_ne htoken, Synchronizer.images_restyles]
    exact hpass _ _ h

end Watcher

end ThemedPage
