import ThemedPage.Proofs.ModeChanges
import ThemedPage.Proofs.Run

/-!
# The Log as an Audit Trail

A synchronizer started alone on a page tells in the log what it does: the start ends with
the entry `initialized`, and every delivery to its watcher with one of the entries
`unchanged` and `changed`. This module shows that whoever reads the log can trust it. The
themes of the entries form a chain from the theme at the start, each entry beginning with
the theme at which the one before ended; the theme at which an entry ends is the one of the
page that the watcher found; and a change of the theme restyles all themed images if it is
one of the mode, and none if it is not: after every pass the images are settled in the mode
of the theme that was acted on.

## Main results

* `Synchronizer.Trail` — deliveries whose logs form a chain of themes;
* `Synchronizer.OnDuty.run` — the deliveries of a run are such a trail;
* `Synchronizer.log_is_trail` — from the start on.
-/

namespace ThemedPage

open LivePage

namespace Synchronizer

variable {s : Synchronizer}

/-! ### Trails -/

/-- A delivery is **told** by its log, between the theme that the watcher acted on last and
the one that it acts on then: the page that it finds has the latter. If they are the same,
nothing is written and the log says so; if not, the log names both and the mode of the
latter, after one entry for every source that is written. -/
inductive Told (s : Synchronizer) : String → Delivery Watcher → String → Prop
  | unchanged {theme : String} {d : Delivery Watcher} :
      s.token d.found = theme → d.response.writes = [] →
      d.log = [.delivering 0 d.changes.length, .unchanged d.changes.length theme] →
      Told s theme d theme
  | changed {before after : String} {d : Delivery Watcher} :
      s.token d.found = after → before ≠ after →
      d.response.writes.length =
        (if s.resolve before = s.resolve after then 0 else s.themedCount d.found) →
      d.log = .delivering 0 d.changes.length :: restyleLog d.response.writes ++
        [.changed before after (s.resolve after) d.response.writes.length] →
      Told s before d after

/-- Deliveries form a **trail** between two themes if each is told by its log, from the
theme at which the one before ended. -/
inductive Trail (s : Synchronizer) : String → List (Delivery Watcher) → String → Prop
  | nil (theme : String) : Trail s theme [] theme
  | cons {first between last : String} {d : Delivery Watcher} {ds : List (Delivery Watcher)} :
      Told s first d between → Trail s between ds last → Trail s first (d :: ds) last

/-- A trail goes on where another one ended. -/
theorem Trail.append {first between last : String} {ds es : List (Delivery Watcher)}
    (h : Trail s first ds between) (h' : Trail s between es last) :
    Trail s first (ds ++ es) last := by
  induction h with
  | nil theme => exact h'
  | cons hd _ ih => exact .cons hd (ih h')

/-! ### A watcher on duty -/

/-- A watcher alone on a live page is **on duty** with the theme that it acted on last, if
the images are settled in the mode of the theme. -/
structure OnDuty (s : Synchronizer) (theme : String) (l : LivePage Watcher) : Prop where
  /-- The only observer. -/
  alone : ∃ interest pending, l.observers = [⟨interest, ⟨s, theme⟩, pending⟩]
  /-- The images. -/
  settled : s.Settled (s.resolve theme) l.page

/-- From its start on, the watcher is on duty with the theme of the page. -/
theorem onDuty_start (hs : s.Separate) (p : Page) :
    OnDuty s (s.token p) (s.start id (ofPage p)) :=
  ⟨⟨_, _, rfl⟩, settled_activate hs p⟩

/-- Changes of the root leave a watcher on duty. -/
theorem OnDuty.queue {theme : String} {l : LivePage Watcher} (h : OnDuty s theme l)
    (root : Attributes) (name : String) (old : Option String) :
    OnDuty s theme
      (LivePage.queue { l with page := { l.page with root := root } } name old) := by
  obtain ⟨⟨interest, pending, hl⟩, hsettled⟩ := h
  refine ⟨⟨interest, pending ++ interest.changes name old, ?_⟩, hsettled⟩
  rw [LivePage.queue, hl]
  rfl

/-- A round is told by its log, and leaves the watcher on duty. -/
theorem OnDuty.round (hs : s.Separate) {theme : String} {l l' : LivePage Watcher}
    {d : Delivery Watcher} (hr : Round Watcher.respond l l' d) (h : OnDuty s theme l) :
    ∃ theme', Told s theme d theme' ∧ OnDuty s theme' l' := by
  obtain ⟨⟨interest, pending, hl⟩, hsettled⟩ := h
  cases hr with
  | @intro page quiet o rest hq hp =>
      obtain ⟨rfl, rfl, rfl⟩ : quiet = [] ∧ o = ⟨interest, ⟨s, theme⟩, pending⟩ ∧ rest = [] := by
        rcases List.append_eq_singleton_iff.mp hl with ⟨hquiet, hrest⟩ | ⟨-, hrest⟩
        · exact ⟨hquiet, List.cons.inj hrest⟩
        · exact absurd hrest (List.cons_ne_nil _ _)
      by_cases htoken : s.token page = theme
      · rw [Watcher.respond_of_token_eq htoken]
        exact ⟨theme, .unchanged htoken rfl rfl, ⟨⟨_, _, rfl⟩, hsettled⟩⟩
      · rw [Watcher.respond_of_token_ne htoken]
        refine ⟨s.token page, .changed rfl (Ne.symm htoken) ?_ rfl, ⟨⟨_, _, rfl⟩, ?_⟩⟩
        · exact length_restyles_of_settled hsettled _
        · exact settled_restyles hs _ page

/-- **A delivery keeps the watcher on duty**, and what it delivers is a trail from the
theme before to the one after. -/
theorem OnDuty.deliver (hs : s.Separate) {theme : String} {l : LivePage Watcher}
    (h : OnDuty s theme l) :
    ∃ theme', Trail s theme (l.deliver Watcher.respond).2 theme' ∧
      OnDuty s theme' (l.deliver Watcher.respond).1 := by
  induction l using deliver_induction Watcher.respond generalizing theme with
  | quiet l _ => exact ⟨theme, .nil theme, h⟩
  | round l l' d hr ih =>
      obtain ⟨between, htold, hduty⟩ := h.round hs hr
      obtain ⟨last, htrail, hlast⟩ := ih hduty
      exact ⟨last, .cons htold htrail, hlast⟩

/-! ### Runs -/

/-- The steps of a run in which nobody touches the images or comes to the page. -/
inductive OfRoot : Step Watcher → Prop
  | setRoot (name value : String) : OfRoot (.setRoot name value)
  | removeRoot (name : String) : OfRoot (.removeRoot name)
  | round : OfRoot .round
  | deliver : OfRoot .deliver

/-- A step keeps the watcher on duty; a change of the root only queues, so that the trail
of the step is empty unless it delivers. -/
theorem OnDuty.step (hs : s.Separate) {theme : String} {l : LivePage Watcher}
    {a : Step Watcher} (ha : OfRoot a) (h : OnDuty s theme l) :
    ∃ theme', Trail s theme (l.step Watcher.respond a).2 theme' ∧
      OnDuty s theme' (l.step Watcher.respond a).1 := by
  have hroot := fun name =>
    root_invariant_of_queue h name fun root old _ => h.queue root name old
  cases ha with
  | setRoot name value => exact ⟨theme, .nil theme, (hroot name).1 value⟩
  | removeRoot name => exact ⟨theme, .nil theme, (hroot name).2⟩
  | round =>
      rw [LivePage.step]
      cases hr : l.round? Watcher.respond with
      | none => exact ⟨theme, .nil theme, h⟩
      | some r =>
          obtain ⟨theme', htold, hduty⟩ := h.round hs (round_of_round? hr)
          exact ⟨theme', .cons htold (.nil theme'), hduty⟩
  | deliver => exact h.deliver hs

/-- **The deliveries of a run form a trail**, and leave the watcher on duty. -/
theorem OnDuty.run (hs : s.Separate) {theme : String} {l : LivePage Watcher}
    {steps : List (Step Watcher)} (hsteps : ∀ a ∈ steps, OfRoot a) (h : OnDuty s theme l) :
    ∃ theme', Trail s theme (l.run Watcher.respond steps).2 theme' ∧
      OnDuty s theme' (l.run Watcher.respond steps).1 := by
  induction steps generalizing theme l with
  | nil => exact ⟨theme, .nil theme, h⟩
  | cons a as ih =>
      obtain ⟨between, htrail, hduty⟩ := h.step hs (hsteps a List.mem_cons_self)
      obtain ⟨last, htrail', hlast⟩ :=
        ih (fun b hb => hsteps b (List.mem_cons_of_mem a hb)) hduty
      exact ⟨last, htrail.append htrail', hlast⟩

/-- **The log is an audit trail.** A synchronizer that is started alone on a page logs every
source it writes and then the theme, its mode, and how many templates and sources it wrote.
From that theme on, the deliveries to its watcher form a trail, as long as only the root
changes. -/
theorem log_is_trail (hs : s.Separate) (p : Page) {steps : List (Step Watcher)}
    (hsteps : ∀ a ∈ steps, OfRoot a) :
    let theme := s.token p
    (∃ captures restyles : List ImageWrite,
      (s.activate p).writes = captures ++ restyles ∧
      (∀ w ∈ captures, w.name = s.settings.templateAttribute) ∧
      (∀ w ∈ restyles, w.name = s.settings.sourceAttribute) ∧
      (s.activate p).log = restyleLog restyles ++
        [.initialized theme (s.resolve theme) captures.length restyles.length]) ∧
    ∃ last, Trail s theme ((s.start id (ofPage p)).run Watcher.respond steps).2 last := by
  intro theme
  refine ⟨⟨_, _, rfl, ?_, ?_, rfl⟩, ?_⟩
  · exact fun w hw => Page.name_of_mem_updates hw
  · exact fun w hw => Page.name_of_mem_updates hw
  · obtain ⟨last, htrail, -⟩ := (onDuty_start hs p).run hs hsteps
    exact ⟨last, htrail⟩

/-- A light page that turns dark, is set to the same theme again, and turns to another dark
theme. -/
theorem standard_log_is_trail :
    let p : Page :=
      { root := Dict.ofList [("class", "light")]
        images := [Dict.ofList [("src", "hero-$theme.png")], Dict.ofList [("src", "logo.png")]] }
    let steps : List (Step Watcher) :=
      [.setRoot "class" "coal", .deliver, .setRoot "class" "coal", .deliver,
        .setRoot "class" "navy", .deliver]
    let ds := ((standard.start id (ofPage p)).run Watcher.respond steps).2
    (∃ last, Trail standard "light" ds last) ∧
      ds.map Delivery.log =
        [[.delivering 0 1, .restyling 0 "hero-dark.png", .changed "light" "coal" .dark 1],
          [.delivering 0 1, .unchanged 1 "coal"],
          [.delivering 0 1, .changed "coal" "navy" .dark 0]] := by
  intro p steps ds
  have hs : standard.Separate := by decide
  have hsteps : ∀ a ∈ steps, OfRoot a := by
    simp [steps, OfRoot.setRoot, OfRoot.deliver]
  exact ⟨(log_is_trail hs p hsteps).2, by decide⟩

end Synchronizer

end ThemedPage
