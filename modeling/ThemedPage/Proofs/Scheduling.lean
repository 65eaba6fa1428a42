import ThemedPage.Proofs.Restart

/-!
# The Schedule of Notifications Does Not Matter

A watcher can be kept by a **host** that tells it of changes in a way of its own: late or
early, once or many times, with records that say too much, too little or nothing that is
true. This module shows that none of this is seen on the page. A watcher looks at the theme
as it is and restyles all images if it acted on another one last, so the images always show
the theme that it acted on last; and a host that tells it anything at all after the last
mutation of the theme's attribute makes that the theme of the page.

## Main results

* `Host.InHand.run` — the images show the theme that the watcher acted on last;
* `Host.last_run_of_heeds` — which is the one of the page, if the host heeds the attribute
  of the theme;
* `Host.page_eq_of_heeds` — hosts with the same mutations end with the same page.
-/

namespace ThemedPage

open LivePage

variable {ω ω' : Type} {s : Synchronizer} {authored : List Attributes}

/-- A **host** of a live page that keeps a watcher. -/
structure Host (ω : Type) where
  /-- The live page. -/
  live : LivePage ω
  /-- The watcher. -/
  watcher : Watcher

namespace Host

/-- An **event** at a host. -/
inductive Event where
  /-- An attribute of the root is set. -/
  | setRoot (name value : String)
  /-- An attribute of the root is removed. -/
  | removeRoot (name : String)
  /-- The watcher is told of changes, whether they happened or not. -/
  | notify (changes : List Change)

namespace Event

/-- Whether an event is one of the root. -/
def isOfRoot : Event → Bool
  | notify _ => false
  | _ => true

/-- Whether an event **mutates** an attribute of a root. It is no mutation to remove what is
not there. -/
def Mutates (name : String) (root : Attributes) : Event → Prop
  | setRoot other _ => other = name
  | removeRoot other => other = name ∧ root.contains name = true
  | notify _ => False

/-- Whoever is told of something is not at the root. -/
theorem eq_notify_of_isOfRoot {e : Event} (h : e.isOfRoot = false) :
    ∃ changes, e = notify changes := by
  cases e with
  | setRoot name value => cases h
  | removeRoot name => cases h
  | notify changes => exact ⟨changes, rfl⟩

/-- What an event makes of a root. -/
def onRoot (root : Attributes) : Event → Attributes
  | setRoot name value => root.insert name value
  | removeRoot name => root.erase name
  | notify _ => root

/-- An event that does not mutate an attribute leaves its value. -/
theorem get?_onRoot {name : String} {root : Attributes} {e : Event}
    (h : ¬e.Mutates name root) : (e.onRoot root).get? name = root.get? name := by
  cases e with
  | setRoot other value => exact Dict.get?_insert_of_ne root h value
  | removeRoot other =>
      rw [onRoot, Dict.get?_erase]
      split
      · rename_i heq
        have hnone : ¬root.contains name = true := fun hc => h ⟨heq, hc⟩
        rw [Dict.contains_eq, Bool.not_eq_true, Option.isSome_eq_false_iff,
          Option.isNone_iff_eq_none] at hnone
        exact hnone.symm
      · rfl
  | notify changes => rfl

/-- The root is told by the events of the root alone. -/
theorem foldl_onRoot_filter (es : List Event) (root : Attributes) :
    (es.filter isOfRoot).foldl onRoot root = es.foldl onRoot root := by
  induction es generalizing root with
  | nil => rfl
  | cons e es ih =>
      cases e with
      | setRoot name value => exact ih _
      | removeRoot name => exact ih _
      | notify changes => exact ih root

end Event

/-- The host that starts a synchronizer and keeps the watcher. -/
def start (s : Synchronizer) (l : LivePage ω) : Host ω :=
  let a := s.activate l.page
  ⟨l.writeAll a.writes, a.watcher⟩

/-- Started on a live page itself, the synchronizer does what it does at a host, and the
watcher becomes an observer. -/
theorem start_eq_observe (asObserver : Watcher → ω) (s : Synchronizer) (l : LivePage ω) :
    s.start asObserver l =
      (start s l).live.observe (s.activate l.page).interest (asObserver (start s l).watcher) :=
  rfl

/-- What an event makes of a host. -/
def handle (h : Host ω) : Event → Host ω
  | .setRoot name value => { h with live := h.live.setRoot name value }
  | .removeRoot name => { h with live := h.live.removeRoot name }
  | .notify changes =>
    let r := h.watcher.respond changes h.live.page
    ⟨h.live.writeAll r.writes, r.state⟩

/-- What events make of a host. -/
def run (h : Host ω) (es : List Event) : Host ω := es.foldl handle h

@[simp] theorem run_nil (h : Host ω) : h.run [] = h := rfl

@[simp] theorem run_cons (h : Host ω) (e : Event) (es : List Event) :
    h.run (e :: es) = (h.handle e).run es := rfl

/-! ### The root -/

/-- An event makes of the host's root what it makes of any root. -/
theorem root_handle (h : Host ω) (e : Event) :
    (h.handle e).live.page.root = e.onRoot h.live.page.root := by
  cases e with
  | setRoot name value => rfl
  | removeRoot name => exact root_removeRoot h.live name
  | notify changes => exact Page.root_writeAll _ _

/-- Events make of the host's root what they make of any root, one after the other. -/
theorem root_run (h : Host ω) (es : List Event) :
    (h.run es).live.page.root = es.foldl Event.onRoot h.live.page.root := by
  induction es generalizing h with
  | nil => rfl
  | cons e es ih => rw [run_cons, ih, root_handle, List.foldl_cons]

/-- The root after a start and some events is told by the events alone. -/
theorem root_run_start (s : Synchronizer) (l : LivePage ω) (es : List Event) :
    ((start s l).run es).live.page.root = es.foldl Event.onRoot l.page.root := by
  rw [root_run, start, LivePage.writeAll, Page.root_writeAll]

/-- An event that does not mutate the attribute of the theme leaves the theme. -/
theorem token_handle {h : Host ω} {e : Event}
    (he : ¬e.Mutates s.settings.themeAttribute h.live.page.root) :
    s.token (h.handle e).live.page = s.token h.live.page :=
  Synchronizer.token_congr (by rw [root_handle, Event.get?_onRoot he])

/-! ### The images -/

/-- A host has a page **in hand** if its watcher is one of the synchronizer, and the images
show the mode of the theme that the watcher acted on last. -/
structure InHand (s : Synchronizer) (authored : List Attributes) (h : Host ω) : Prop where
  /-- The watcher. -/
  synchronizer : h.watcher.synchronizer = s
  /-- The images. -/
  images : h.live.page.images = authored.map (s.shown (s.resolve h.watcher.last))

/-- A host has the page on which it starts a synchronizer in hand. -/
theorem inHand_start (s : Synchronizer) (l : LivePage ω) :
    InHand s l.page.images (start s l) :=
  ⟨rfl, s.images_activate l.page⟩

/-- An event of the root is no news to the watcher that the host keeps. -/
theorem watcher_handle (h : Host ω) {e : Event} (he : e.isOfRoot = true) :
    (h.handle e).watcher = h.watcher := by
  cases e with
  | setRoot name value => rfl
  | removeRoot name => rfl
  | notify changes => cases he

/-- Told of anything, the watcher has acted on the theme of the page. -/
theorem watcher_notify {h : Host ω} (hw : h.watcher.synchronizer = s)
    (changes : List Change) :
    (h.handle (.notify changes)).watcher = ⟨s, s.token h.live.page⟩ := by
  rw [handle, Watcher.state_respond, hw]

/-- **A host that has a page in hand keeps it so**, whichever event it handles. -/
theorem InHand.handle (hs : s.Separate) {h : Host ω} (hh : InHand s authored h) (e : Event) :
    InHand s authored (h.handle e) := by
  cases e with
  | setRoot name value => exact ⟨hh.synchronizer, hh.images⟩
  | removeRoot name =>
      exact ⟨hh.synchronizer, (images_removeRoot h.live name).trans hh.images⟩
  | notify changes =>
      obtain ⟨rfl, himages⟩ := hh
      refine ⟨by rw [watcher_notify rfl], ?_⟩
      rw [watcher_notify rfl]
      refine Watcher.images_respond_of_last
        (P := fun m images => images = authored.map (h.watcher.synchronizer.shown m))
        himages (fun m m' hm => ?_) changes
      rw [hm, List.map_map]
      exact List.map_congr_left fun a _ => Synchronizer.restyled_shown hs m m' a

/-- **The images show the theme that the watcher acted on last**, whatever it is told. -/
theorem InHand.run (hs : s.Separate) {h : Host ω} (hh : InHand s authored h)
    (es : List Event) : InHand s authored (h.run es) := by
  induction es generalizing h with
  | nil => exact hh
  | cons e es ih => exact ih (hh.handle hs e)

/-! ### Hosts that heed an attribute -/

/-- A host **heeds** an attribute if it tells the watcher of something, be it nothing at
all, after every event that mutates the attribute, and so after the last one. -/
def Heeds (name : String) (h : Host ω) (es : List Event) : Prop :=
  ∀ before e after, es = before ++ e :: after →
    e.Mutates name (h.run before).live.page.root → ∃ changes, .notify changes ∈ after

/-- After an event that mutates what is heeded, the watcher is told of something. -/
theorem Heeds.head {name : String} {h : Host ω} {e : Event} {es : List Event}
    (hh : Heeds name h (e :: es)) (he : e.Mutates name h.live.page.root) :
    ∃ changes, .notify changes ∈ es :=
  hh [] e es rfl he

/-- What a host heeds through events, it heeds through those behind the first. -/
theorem Heeds.tail {name : String} {h : Host ω} {e : Event} {es : List Event}
    (hh : Heeds name h (e :: es)) : Heeds name (h.handle e) es := by
  intro before e' after hes he'
  refine hh (e :: before) e' after ?_ he'
  rw [hes, List.cons_append]

/-- A host that tells its watcher of something in the end heeds every attribute. -/
theorem heeds_append_notify (name : String) (h : Host ω) (es : List Event)
    (changes : List Change) : Heeds name h (es ++ [.notify changes]) := by
  intro before e after hes he
  refine ⟨changes, ?_⟩
  rcases List.eq_nil_or_concat after with rfl | ⟨earlier, last, rfl⟩
  · obtain ⟨-, hlast⟩ := List.append_inj' hes rfl
    obtain rfl : Event.notify changes = e := (List.cons.inj hlast).1
    exact absurd he id
  · rw [List.concat_eq_append, ← List.cons_append, ← List.append_assoc] at hes
    obtain ⟨-, hlast⟩ := List.append_inj' hes rfl
    obtain rfl : Event.notify changes = last := (List.cons.inj hlast).1
    simp

/-- The theme that the watcher acted on last is the one of the page, if it is so in the
beginning or the watcher is told of something, and the host heeds the attribute of the
theme. -/
theorem last_run_of_heeds {h : Host ω} {es : List Event} (hw : h.watcher.synchronizer = s)
    (hh : Heeds s.settings.themeAttribute h es)
    (hlast : h.watcher.last = s.token h.live.page ∨ ∃ changes, .notify changes ∈ es) :
    (h.run es).watcher.last = s.token (h.run es).live.page := by
  induction es generalizing h with
  | nil =>
      rcases hlast with hlast | ⟨changes, hmem⟩
      · exact hlast
      · exact absurd hmem List.not_mem_nil
  | cons e es ih =>
      rw [run_cons]
      cases hroot : e.isOfRoot with
      | false =>
          obtain ⟨changes, rfl⟩ := Event.eq_notify_of_isOfRoot hroot
          have hwatcher := watcher_notify hw changes
          refine ih (by rw [hwatcher]) hh.tail (Or.inl ?_)
          rw [hwatcher]
          exact (Synchronizer.token_writeAll s _ _).symm
      | true =>
          have hwatcher := h.watcher_handle hroot
          refine ih (by rw [hwatcher, hw]) hh.tail ?_
          by_cases he : e.Mutates s.settings.themeAttribute h.live.page.root
          · exact Or.inr (hh.head he)
          · rw [hwatcher, token_handle he]
            refine hlast.imp_right fun ⟨changes, hmem⟩ => ⟨changes, ?_⟩
            rcases List.mem_cons.mp hmem with rfl | hmem
            · cases hroot
            · exact hmem

/-- The page of a host that heeds the attribute of the theme is told by what was authored
and by the root. -/
theorem page_run_of_heeds (hs : s.Separate) (l : LivePage ω) {es : List Event}
    (hh : Heeds s.settings.themeAttribute (start s l) es) :
    let p := ((start s l).run es).live.page
    p = ⟨p.root, l.page.images.map (s.shown (s.resolve (s.token p)))⟩ := by
  intro p
  have himages := ((inHand_start s l).run hs es).images
  have hfirst : (start s l).watcher.last = s.token (start s l).live.page :=
    (Synchronizer.token_writeAll s _ _).symm
  have hlast : ((start s l).run es).watcher.last = s.token p :=
    last_run_of_heeds rfl hh (Or.inl hfirst)
  rw [hlast] at himages
  calc p = ⟨p.root, p.images⟩ := rfl
    _ = ⟨p.root, l.page.images.map (s.shown (s.resolve (s.token p)))⟩ := by rw [himages]

/-- **The schedule of notifications does not matter.** Two hosts that start a synchronizer
on the same page and see the same events of the root end with the same page, whenever and
of whatever they tell their watchers, if both heed the attribute of the theme; and it is the
page that the synchronizer would make of the first one, started under the last root. -/
theorem page_eq_of_heeds (hs : s.Separate) (p : Page) (os : List (Subscription ω))
    (os' : List (Subscription ω')) {es es' : List Event}
    (hes : es.filter Event.isOfRoot = es'.filter Event.isOfRoot)
    (hh : Heeds s.settings.themeAttribute (start s ⟨p, os⟩) es)
    (hh' : Heeds s.settings.themeAttribute (start s ⟨p, os'⟩) es') :
    let last := ((start s ⟨p, os⟩).run es).live.page
    last = ((start s ⟨p, os'⟩).run es').live.page ∧
      last = (s.start id (ofPage { p with root := last.root })).page := by
  intro last
  let last' := ((start s ⟨p, os'⟩).run es').live.page
  have hlast : last = ⟨last.root, p.images.map (s.shown (s.resolve (s.token last)))⟩ :=
    page_run_of_heeds hs ⟨p, os⟩ hh
  have hlast' : last' = ⟨last'.root, p.images.map (s.shown (s.resolve (s.token last')))⟩ :=
    page_run_of_heeds hs ⟨p, os'⟩ hh'
  have hroot : last'.root = last.root := by
    calc last'.root = es'.foldl Event.onRoot p.root := root_run_start s ⟨p, os'⟩ es'
      _ = es.foldl Event.onRoot p.root := by
          rw [← Event.foldl_onRoot_filter es', ← hes, Event.foldl_onRoot_filter]
      _ = last.root := (root_run_start s ⟨p, os⟩ es).symm
  refine ⟨?_, ?_⟩
  · have htoken : s.token last' = s.token last := Synchronizer.token_congr (by rw [hroot])
    calc last = ⟨last.root, p.images.map (s.shown (s.resolve (s.token last)))⟩ := hlast
      _ = ⟨last'.root, p.images.map (s.shown (s.resolve (s.token last')))⟩ := by
          rw [hroot, htoken]
      _ = last' := hlast'.symm
  · -- A fresh start is a host that sees no events.
    let first : Page := { p with root := last.root }
    have htoken : s.token first = s.token last := Synchronizer.token_congr rfl
    calc last = ⟨first.root, first.images.map (s.shown (s.resolve (s.token first)))⟩ := by
          rw [htoken]
          exact hlast
      _ = ⟨(first.writeAll (s.activate first).writes).root,
            (first.writeAll (s.activate first).writes).images⟩ := by
          rw [Page.root_writeAll, s.images_activate]
      _ = (s.start id (ofPage first)).page := by
          rw [start_eq_observe]
          rfl

/-- A host that tells the watcher of every theme, if not in so many words, and one that
tells it of the last alone. -/
theorem standard_page_eq_of_heeds :
    let s := Synchronizer.standard
    let p : Page := { images := [Dict.ofList [("src", "hero-$theme.png")]] }
    let h : Host Unit := start s ⟨p, []⟩
    let eager : List Event :=
      [.setRoot "class" "coal", .notify [⟨some "style", some "wide"⟩],
        .setRoot "class" "rust", .notify []]
    let lazy : List Event := [.setRoot "class" "coal", .setRoot "class" "rust", .notify []]
    let last := (h.run eager).live.page
    last = (h.run lazy).live.page ∧
      last = (s.start id (ofPage { p with root := last.root })).page ∧
      last.images.map (·.get? "src") = [some "hero-light.png"] := by
  intro s p h eager lazy last
  have hs : s.Separate := by decide
  have heager : Heeds s.settings.themeAttribute h eager := heeds_append_notify _ _ [_, _, _] []
  have hlazy : Heeds s.settings.themeAttribute h lazy := heeds_append_notify _ _ [_, _] []
  have hroot : eager.filter Event.isOfRoot = lazy.filter Event.isOfRoot := rfl
  obtain ⟨hsame, hfresh⟩ := page_eq_of_heeds hs p [] [] hroot heager hlazy
  exact ⟨hsame, hfresh, by decide⟩

end Host

end ThemedPage
