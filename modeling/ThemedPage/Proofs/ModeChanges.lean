import Mathlib.Data.List.Forall2
import ThemedPage.Proofs.Filling
import ThemedPage.Proofs.Placeholders
import ThemedPage.Proofs.Restyling

/-!
# Changing the Mode

The pass that brings sources in step with a mode, alone and in sequences. One pass rewrites the
images that are **themed** and do not show the right source yet, counts and logs every one of
them, and leaves alone everything else. Behind it the images are **settled** in its mode, so that
none is rewritten in the same mode; and the variants of a themed template differ, so that every
themed image is rewritten in the other one.

Of a sequence of passes one is enough. If templates have an attribute of their own, it is the
last: a source is always taken from the template and never from the source before it. If they
share the attribute of the sources, it is the first: the source that it writes takes the place of
the template and holds no placeholder any more.

## Main results

* `Synchronizer.length_restyles_of_settled` — how many settled images are rewritten;
* `Synchronizer.restylesTo_restyled` — what a pass makes of an image;
* `Synchronizer.restyleLog_eq` — the log of a pass, told by the images that change;
* `Synchronizer.restyles_exactly` — one pass, and the one after it;
* `Synchronizer.restyle_restyle`, `Synchronizer.restyles_restyle_of_shared` — two passes;
* `Synchronizer.restyleEach_collapses` — any number of passes.
-/

namespace ThemedPage.Synchronizer

variable {ω : Type} {s : Synchronizer}

/-! ### Settled images -/

/-- Whether the template of an image is there and themed. -/
def isThemed (s : Synchronizer) (a : Attributes) : Bool :=
  (a.get? s.settings.templateAttribute).any fun t => Template.isThemed ⟨t⟩

/-- The number of images on a page whose template is themed. -/
def themedCount (s : Synchronizer) (p : Page) : Nat := p.images.countP s.isThemed

/-- The images of a page are **settled** in a mode if none is to be given another source. -/
def Settled (s : Synchronizer) (m : Mode) (p : Page) : Prop :=
  ∀ a ∈ p.images, s.staleSource m a = none

/-- The source of an image that was brought in step is not stale. -/
theorem staleSource_restyled (hs : s.Separate) (m : Mode) (a : Attributes) :
    s.staleSource m (s.restyled m a) = none := by
  rw [staleSource_eq, resolved_restyled hs, get?_restyled, if_pos rfl]
  cases s.resolved m a with
  | none => rfl
  | some source => simp

/-- After the pass in a mode the images are settled in it. -/
theorem settled_restyles (hs : s.Separate) (m : Mode) (p : Page) :
    s.Settled m (p.writeAll (s.restyles m p)) := by
  intro a ha
  rw [images_restyles] at ha
  obtain ⟨b, -, rfl⟩ := List.mem_map.mp ha
  exact staleSource_restyled hs m b

/-- After a start the images are settled in the mode of the page's theme. -/
theorem settled_activate (hs : s.Separate) (p : Page) :
    s.Settled (s.resolve (s.token p)) (p.writeAll (s.activate p).writes) := by
  intro a ha
  rw [images_activate] at ha
  obtain ⟨b, -, rfl⟩ := List.mem_map.mp ha
  exact staleSource_restyled hs _ _

/-- In the other mode the source of a settled image is stale if its template is themed, and
only then. -/
theorem isSome_staleSource {m m' : Mode} (hm : m ≠ m') {a : Attributes}
    (h : s.staleSource m a = none) : (s.staleSource m' a).isSome = s.isThemed a := by
  rw [staleSource_eq, resolved] at h ⊢
  rw [isThemed]
  cases ht : a.get? s.settings.templateAttribute with
  | none => rfl
  | some t =>
      rw [ht, Option.bind_some] at h
      rw [Option.bind_some, Option.any_some]
      cases hthemed : Template.isThemed ⟨t⟩ with
      | false =>
          rw [(Template.resolve_eq_none_iff _ m').mpr hthemed]
          rfl
      | true =>
          -- The image shows one variant of the template, which is not the other.
          have hne := Template.resolve_ne_resolve hthemed hm
          rw [Template.resolve, if_pos hthemed] at h hne
          rw [Template.resolve, if_pos hthemed] at hne ⊢
          rw [Option.bind_some] at h ⊢
          split at h
          · rename_i hsource
            rw [hsource, if_neg hne]
            rfl
          · cases h

/-- **All or none are restyled**: none of the settled images in the same mode, and in the
other mode all that are themed. -/
theorem length_restyles_of_settled {m : Mode} {p : Page} (h : s.Settled m p) (m' : Mode) :
    (s.restyles m' p).length = if m = m' then 0 else s.themedCount p := by
  rw [restyles, Page.length_updates]
  split
  · rename_i heq
    subst heq
    rw [List.countP_eq_zero]
    intro a ha
    rw [h a ha]
    exact Bool.false_ne_true
  · rename_i hne
    exact List.countP_congr fun a ha => by rw [isSome_staleSource hne (h a ha)]

/-! ### One pass -/

variable (s)

/-- The page after its sources are brought in step with a mode. -/
def restyle (m : Mode) (p : Page) : Page := p.writeAll (s.restyles m p)

/-- The page after its sources are brought in step with some modes, one after the other. -/
def restyleEach (ms : List Mode) (p : Page) : Page := ms.foldl (fun q m => s.restyle m q) p

/-- An image is **themed** if it has a template that holds the placeholder. -/
def ThemedImage (a : Attributes) : Prop :=
  ∃ t, a.get? s.settings.templateAttribute = some t ∧ Template.placeholder <:+: t.toList

/-- The check for a themed template finds the themed images. -/
theorem isThemed_eq_true_iff (a : Attributes) : s.isThemed a = true ↔ s.ThemedImage a := by
  rw [isThemed, ThemedImage, Option.any_eq_true]
  simp only [Template.isThemed_iff]

instance : DecidablePred s.ThemedImage := fun a =>
  decidable_of_iff (s.isThemed a = true) (s.isThemed_eq_true_iff a)

/-- What a pass is to make of an image in a mode: the source of a themed image is its template
resolved, and everything else is as it was. -/
structure RestylesTo (m : Mode) (a b : Attributes) : Prop where
  /-- A themed image shows its template in the mode. -/
  themed : ∀ t, a.get? s.settings.templateAttribute = some t →
    Template.placeholder <:+: t.toList →
    ∃ source, Template.resolve ⟨t⟩ m = some source ∧
      b.get? s.settings.sourceAttribute = some source
  /-- Only the source is another. -/
  others : ∀ name, name ≠ s.settings.sourceAttribute → b.get? name = a.get? name
  /-- An image that is not themed is as it was. -/
  plain : ¬s.ThemedImage a → b = a

/-- An image that is not themed has no source in any mode. -/
theorem resolved_of_not_themedImage {a : Attributes} (h : ¬s.ThemedImage a) (m : Mode) :
    s.resolved m a = none := by
  rw [resolved]
  cases ht : a.get? s.settings.templateAttribute with
  | none => rfl
  | some t =>
      rw [Option.bind_some, Template.resolve_eq_none_iff_solid]
      exact fun hholds => h ⟨t, ht, hholds⟩

/-- What the pass makes of an image is what it is to make of it. -/
theorem restylesTo_restyled (m : Mode) (a : Attributes) : s.RestylesTo m a (s.restyled m a) where
  themed t ht hholds := by
    have hresolve := Template.resolve_eq_some_fill (t := ⟨t⟩) hholds m
    have hthemed := (Template.isThemed_iff ⟨t⟩).mpr hholds
    exact ⟨_, hresolve, (get?_source_restyled_of_themed m ht hthemed).trans hresolve⟩
  others name hname := by rw [get?_restyled, if_neg hname]
  plain h := s.restyled_of_resolved_eq_none (s.resolved_of_not_themedImage h m)

/-- The pass is sparing: a source is wanted only where it is another. -/
theorem sparing_staleSource (m : Mode) :
    Page.Sparing s.settings.sourceAttribute (s.staleSource m) := by
  intro a value h
  rw [staleSource_eq] at h
  obtain ⟨source, -, hsource⟩ := Option.bind_eq_some_iff.mp h
  split at hsource
  · cases hsource
  · rename_i hne
    rwa [← Option.some.inj hsource]

/-- The log of a pass has an entry for every image that changes, in document order, with the
source that it has then. -/
theorem restyleLog_eq (m : Mode) (p : Page) :
    restyleLog (s.restyles m p) =
      (Page.changed p (s.restyle m p)).filterMap fun i =>
        ((s.restyle m p).imageAttribute? i s.settings.sourceAttribute).map
          (LogEntry.restyling i) := by
  rw [restyle, restyles, Page.changed_writeAll_updates (s.sparing_staleSource m),
    List.filterMap_map, restyleLog, eq_comm, List.filterMap_eq_map_iff_forall_eq_some]
  intro w hw
  rw [Function.comp_apply, Page.imageAttribute?_of_mem_updates hw, Option.map_some]

/-- The pass makes of every image what it makes of it alone, and leaves the root alone. -/
theorem restyle_eq (m : Mode) (p : Page) :
    s.restyle m p = ⟨p.root, p.images.map (s.restyled m)⟩ := by
  calc s.restyle m p
    _ = ⟨(s.restyle m p).root, (s.restyle m p).images⟩ := rfl
    _ = ⟨p.root, p.images.map (s.restyled m)⟩ := by
      rw [restyle, Page.root_writeAll, images_restyles]

variable {s}

/-- The pass leaves themed images themed, and no others become so. -/
theorem isThemed_restyled (hs : s.Separate) (m : Mode) (a : Attributes) :
    s.isThemed (s.restyled m a) = s.isThemed a := by
  rw [isThemed, get?_template_restyled hs, isThemed]

/-- A pass leaves as many themed images as there were. -/
theorem themedCount_restyle (hs : s.Separate) (m : Mode) (p : Page) :
    s.themedCount (s.restyle m p) = p.images.countP fun a => s.ThemedImage a := by
  rw [themedCount, restyle_eq, List.countP_map]
  refine List.countP_congr fun a _ => ?_
  rw [Function.comp_apply, isThemed_restyled hs, isThemed_eq_true_iff, decide_eq_true_iff]

/-- **A pass rewrites exactly what it should and counts it.** Take any live page and bring its
sources in step with a mode. Told image by image, each read as it is by then, this makes the
same writes and the same page. Themed images show their template in the mode; every other image,
every other attribute, the root, and what is queued for observers are as they were. There are as
many writes as images that changed, and as many log entries, in document order and with the
sources as they are then. A pass that follows directly writes nothing in the same mode, and in
the other mode as many sources as there are themed images. -/
theorem restyles_exactly (hs : s.Separate) (m : Mode) (l : LivePage ω) :
    let ws := s.restyles m l.page
    let l' := l.writeAll ws
    let changed := Page.changed l.page l'.page
    Page.sweep s.settings.sourceAttribute (s.staleSource m)
        (List.range l.page.images.length) l.page = (l'.page, ws) ∧
      List.Forall₂ (s.RestylesTo m) l.page.images l'.page.images ∧
      l'.page.root = l.page.root ∧ l'.observers = l.observers ∧
      ws.length = changed.length ∧
      restyleLog ws = changed.filterMap (fun i =>
        (l'.page.imageAttribute? i s.settings.sourceAttribute).map (LogEntry.restyling i)) ∧
      ∀ m', (s.restyles m' l'.page).length =
        if m' = m then 0 else l.page.images.countP fun a => s.ThemedImage a := by
  intro ws l' changed
  have himages : l'.page.images = l.page.images.map (s.restyled m) := s.images_restyles m l.page
  refine ⟨Page.sweep_eq _ _ l.page, ?_, Page.root_writeAll l.page ws, rfl,
    Page.length_updates_eq_changed (s.sparing_staleSource m) l.page,
    s.restyleLog_eq m l.page, fun m' => ?_⟩
  · rw [himages, List.forall₂_map_right_iff, List.forall₂_same]
    exact fun a _ => s.restylesTo_restyled m a
  · have hcount := length_restyles_of_settled (settled_restyles hs m l.page) m'
    rw [← themedCount_restyle hs m]
    simp only [eq_comm (a := m')]
    exact hcount

/-- Of four images one has no source yet, one shows the right source already, one has a source
that looks like a template, and one has a template that is not themed. -/
theorem standard_restyles_exactly :
    let images : List Attributes :=
      [Dict.ofList [("data-rsrc", "$theme.png")],
        Dict.ofList [("data-rsrc", "hero-$theme.png"), ("src", "hero-dark.png")],
        Dict.ofList [("src", "late-$theme.png")],
        Dict.ofList [("data-rsrc", "logo.png"), ("src", "old.png")]]
    let l : LivePage Unit :=
      { page := { images }
        observers := [{ interest := Interest.all, state := (), pending := [⟨some "id", none⟩] }] }
    let ws := standard.restyles .dark l.page
    let l' := l.writeAll ws
    standard.Separate ∧
      l'.observers.map Subscription.pending = [[⟨some "id", none⟩]] ∧
      ws.length = 1 ∧ restyleLog ws = [.restyling 0 "dark.png"] ∧
      (standard.restyles .dark l'.page).length = 0 ∧
      (standard.restyles .light l'.page).length = 2 := by
  intro images l ws l'
  have hs : standard.Separate := by decide
  obtain ⟨-, -, -, hobservers, hlength, hlog, hnext⟩ := restyles_exactly hs .dark l
  have hchanged : Page.changed l.page l'.page = [0] := by decide
  exact ⟨hs, congrArg (List.map Subscription.pending) hobservers,
    hlength.trans (congrArg List.length hchanged), hlog.trans (by decide), hnext .dark,
    (hnext .light).trans (by decide)⟩

/-! ### Sequences of passes -/

variable {p : Page}

/-- The last of two passes counts, if templates and sources are separate. -/
theorem restyle_restyle (hs : s.Separate) (m m' : Mode) (p : Page) :
    s.restyle m' (s.restyle m p) = s.restyle m' p := by
  rw [restyle_eq, restyle_eq, restyle_eq, List.map_map]
  congr 1
  exact List.map_congr_left fun a _ => restyled_restyled hs m m' a

/-- A source that was taken from a template of the same attribute is no template. -/
theorem resolved_restyled_of_shared (hs : ¬s.Separate) (m m' : Mode) (a : Attributes) :
    s.resolved m' (s.restyled m a) = none := by
  have hshared : s.settings.templateAttribute = s.settings.sourceAttribute := not_not.mp hs
  rw [resolved, get?_restyled, if_pos hshared, ← hshared]
  cases hm : s.resolved m a with
  | none =>
      rw [Option.none_or]
      rw [resolved] at hm
      cases ht : a.get? s.settings.templateAttribute with
      | none => rfl
      | some t =>
          rw [ht, Option.bind_some, Template.resolve_eq_none_iff] at hm
          rw [Option.bind_some, Template.resolve_eq_none_iff, hm]
  | some shown =>
      obtain ⟨t, -, ht⟩ := Option.bind_eq_some_iff.mp hm
      rw [Option.some_or, Option.bind_some, Template.resolve_eq_none_iff_solid]
      exact Template.not_infix_of_resolve ht

/-- The first of two passes counts, if templates and sources share an attribute: the second
writes nothing. -/
theorem restyles_restyle_of_shared (hs : ¬s.Separate) (m m' : Mode) (p : Page) :
    s.restyles m' (s.restyle m p) = [] := by
  rw [restyles, Page.updates_eq_nil_iff, restyle_eq]
  intro a ha
  obtain ⟨b, -, rfl⟩ := List.mem_map.mp ha
  rw [staleSource_eq, resolved_restyled_of_shared hs, Option.bind_none]

/-- A pass in the mode of the pass before it writes nothing. -/
theorem restyles_restyle_self (m : Mode) (p : Page) : s.restyles m (s.restyle m p) = [] := by
  by_cases hs : s.Separate
  · rw [restyles, Page.updates_eq_nil_iff]
    exact settled_restyles hs m p
  · exact restyles_restyle_of_shared hs m m p

/-- A pass that writes nothing leaves the page as it is. -/
theorem restyle_of_restyles_eq_nil {m : Mode} (h : s.restyles m p = []) :
    s.restyle m p = p := by
  rw [restyle, h, Page.writeAll_nil]

/-- With separate attributes the last of several passes alone counts: each of them works
from the same templates. -/
theorem restyleEach_of_separate (hs : s.Separate) (first : Mode) (rest : List Mode) (p : Page) :
    s.restyleEach (first :: rest) p =
      s.restyle ((first :: rest).getLast (List.cons_ne_nil first rest)) p := by
  induction rest generalizing first p with
  | nil => rfl
  | cons m rest ih =>
      calc s.restyleEach (first :: m :: rest) p
        _ = s.restyleEach (m :: rest) (s.restyle first p) := rfl
        _ = s.restyle ((m :: rest).getLast (List.cons_ne_nil m rest)) (s.restyle first p) :=
          ih m (s.restyle first p)
        _ = s.restyle ((m :: rest).getLast (List.cons_ne_nil m rest)) p :=
          restyle_restyle hs _ _ p

/-- With a shared attribute the first of several passes alone counts: it replaces the
placeholders, and there are none for the others. -/
theorem restyleEach_of_shared (hs : ¬s.Separate) (first : Mode) (rest : List Mode) (p : Page) :
    s.restyleEach (first :: rest) p = s.restyle first p := by
  induction rest with
  | nil => rfl
  | cons m rest ih =>
      have hstill := restyle_of_restyles_eq_nil (restyles_restyle_of_shared hs first m p)
      calc s.restyleEach (first :: m :: rest) p
        _ = s.restyleEach rest (s.restyle m (s.restyle first p)) := rfl
        _ = s.restyleEach rest (s.restyle first p) := by rw [hstill]
        _ = s.restyle first p := ih

/-- A pass in the last mode of a sequence writes nothing behind it. -/
theorem restyles_restyleEach_last (first : Mode) (rest : List Mode) (p : Page) :
    s.restyles ((first :: rest).getLast (List.cons_ne_nil first rest))
      (s.restyleEach (first :: rest) p) = [] := by
  by_cases hs : s.Separate
  · rw [restyleEach_of_separate hs]
    exact restyles_restyle_self _ p
  · rw [restyleEach_of_shared hs]
    exact restyles_restyle_of_shared hs first _ p

/-- **A sequence of passes collapses to one.** If templates and sources have different
attributes, it is the pass in the last mode; if they share one, it is the pass in the first mode,
and every pass behind that one writes nothing and leaves the page as it is. Either way a pass in
the mode of the pass before it writes nothing and leaves the page as it is. -/
theorem restyleEach_collapses (s : Synchronizer) (first : Mode) (rest : List Mode) (p : Page) :
    let last := (first :: rest).getLast (List.cons_ne_nil first rest)
    let q := s.restyleEach (first :: rest) p
    (s.Separate → q = s.restyle last p) ∧
      (¬s.Separate → q = s.restyle first p ∧
        ∀ before m after, rest = before ++ m :: after →
          let between := s.restyleEach (first :: before) p
          s.restyles m between = [] ∧ s.restyle m between = between) ∧
      s.restyles last q = [] ∧ s.restyle last q = q := by
  intro last q
  refine ⟨fun hs => restyleEach_of_separate hs first rest p, fun hs => ?_, ?_⟩
  · refine ⟨restyleEach_of_shared hs first rest p, fun before m _ _ => ?_⟩
    intro between
    have hbetween : between = s.restyle first p := restyleEach_of_shared hs first before p
    have hnil : s.restyles m between = [] := by
      rw [hbetween, restyles_restyle_of_shared hs]
    exact ⟨hnil, restyle_of_restyles_eq_nil hnil⟩
  · have hnil : s.restyles last q = [] := restyles_restyleEach_last first rest p
    exact ⟨hnil, restyle_of_restyles_eq_nil hnil⟩

end ThemedPage.Synchronizer
