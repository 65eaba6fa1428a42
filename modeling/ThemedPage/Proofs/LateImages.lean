import ThemedPage.Proofs.Crew

/-!
# Images That Come Late

An image that is added after a synchronizer was started is not captured any more: it has no
template unless it brings one along. A watcher does not ask where a template is from, though.
It goes over all images that are there, so a late image with a themed template follows the
theme like those that were there in the beginning, from the first switch after its coming.

What the log calls a change of the theme is a **switch** here. A late image is as it was
added until there is one, and then it is in step with the mode of the last. So it keeps its
attributes if its template is missing or not themed, and otherwise only as long as the source
that it was added with happens to be the one to show.

## Main results

* `Synchronizer.Follows.run` — a late image is in step with the last switch;
* `Synchronizer.restyled_eq_self_iff` — the images that a switch leaves alone;
* `Synchronizer.late_image_kept_iff` — when a late image keeps its attributes;
* `Synchronizer.standard_late_image_lost` — one that does not.
-/

namespace ThemedPage

open LivePage

/-- The mode that the images are brought in step with, if a log entry tells of a **switch**
of the theme. -/
def LogEntry.switch? : LogEntry → Option Mode
  | changed _ _ mode _ => some mode
  | _ => none

namespace Synchronizer

variable {s : Synchronizer}

/-! ### Switches -/

/-- The mode of the last switch that some deliveries log, if they log any. -/
def lastSwitch (ds : List (Delivery Watcher)) : Option Mode :=
  ((ds.flatMap Delivery.log).filterMap LogEntry.switch?).getLast?

/-- The last switch of deliveries and then others is that of the others, if they log any. -/
theorem lastSwitch_append (ds es : List (Delivery Watcher)) :
    lastSwitch (ds ++ es) = (lastSwitch es).or (lastSwitch ds) := by
  rw [lastSwitch, List.flatMap_append, List.filterMap_append, List.getLast?_append]
  rfl

/-- Sources that are written are no switches. -/
theorem filterMap_switch?_restyleLog (ws : List ImageWrite) :
    (restyleLog ws).filterMap LogEntry.switch? = [] := by
  rw [restyleLog, List.filterMap_map, List.filterMap_eq_nil_iff]
  exact fun _ _ => rfl

/-- A watcher that finds the theme it acted on last logs no switch. -/
theorem lastSwitch_of_token_eq {w : Watcher} {p : Page} (h : w.synchronizer.token p = w.last)
    (n : Nat) (changes : List Change) :
    lastSwitch [⟨n, changes, p, w.respond changes p⟩] = none := by
  rw [Watcher.respond_of_token_eq h]
  rfl

/-- A watcher that finds another theme logs a switch to its mode. -/
theorem lastSwitch_of_token_ne {w : Watcher} {p : Page} (h : w.synchronizer.token p ≠ w.last)
    (n : Nat) (changes : List Change) :
    lastSwitch [⟨n, changes, p, w.respond changes p⟩] =
      some (w.synchronizer.resolve (w.synchronizer.token p)) := by
  rw [Watcher.respond_of_token_ne h, lastSwitch, List.flatMap_singleton, Delivery.log,
    List.filterMap_cons, List.filterMap_append, filterMap_switch?_restyleLog]
  rfl

/-! ### Late images -/

/-- An image after the last switch, if there was one. -/
def afterSwitch (s : Synchronizer) (last : Option Mode) (a : Attributes) : Attributes :=
  last.elim a fun m => s.restyled m a

/-- Earlier switches do not count. -/
theorem restyled_afterSwitch (hs : s.Separate) (m : Mode) (last : Option Mode)
    (a : Attributes) : s.restyled m (s.afterSwitch last a) = s.restyled m a := by
  cases last with
  | none => rfl
  | some m' => exact restyled_restyled hs m' m a

/-- The image at a position **follows** the theme, as it was added: it is in step with the
last switch, and the crew of the page is the synchronizer's. -/
structure Follows (s : Synchronizer) (n : Nat) (added : Attributes) (last : Option Mode)
    (l : LivePage Watcher) : Prop where
  /-- The crew. -/
  crew : ∀ t ∈ crew l, t = s
  /-- The image. -/
  image : l.page.images[n]? = some (s.afterSwitch last added)

variable {n : Nat} {added : Attributes} {last : Option Mode} {l : LivePage Watcher}

/-- In a round the theme is switched and all images are brought in step with it, or nothing
happens. -/
theorem Follows.round (hs : s.Separate) {l' : LivePage Watcher} {d : Delivery Watcher}
    (hr : Round Watcher.respond l l' d) (h : s.Follows n added last l) :
    s.Follows n added ((lastSwitch [d]).or last) l' := by
  refine ⟨by rw [crew_of_round hr]; exact h.crew, ?_⟩
  cases hr with
  | @intro page quiet o rest _ _ =>
      have ho : o.state.synchronizer = s := h.crew _ (by simp [Synchronizer.crew])
      by_cases htoken : o.state.synchronizer.token page = o.state.last
      · rw [lastSwitch_of_token_eq htoken, Watcher.respond_of_token_eq htoken]
        exact h.image
      · rw [lastSwitch_of_token_ne htoken, Watcher.respond_of_token_ne htoken, ho]
        simp only [images_restyles, List.getElem?_map, h.image, Option.map_some]
        rw [restyled_afterSwitch hs]
        rfl

/-- **A delivery keeps the image following**: it is in step with the last switch that the
delivery logs, or with the last one before if it logs none. -/
theorem Follows.deliver (hs : s.Separate) (h : s.Follows n added last l) :
    s.Follows n added ((lastSwitch (l.deliver Watcher.respond).2).or last)
      (l.deliver Watcher.respond).1 := by
  induction l using deliver_induction Watcher.respond generalizing last with
  | quiet l _ => exact h
  | round l l' d hr ih =>
      have hrest := ih (h.round hs hr)
      rwa [← Option.or_assoc, ← lastSwitch_append, List.singleton_append] at hrest

/-- Queueing a change leaves the image following. -/
theorem Follows.queue (h : s.Follows n added last l) (root : Attributes) (name : String)
    (old : Option String) :
    s.Follows n added last
      (LivePage.queue { l with page := { l.page with root := root } } name old) :=
  ⟨by rw [crew_queue]; exact h.crew, h.image⟩

/-- An ordinary step keeps the image following; further images come behind it. -/
theorem Follows.step (hs : s.Separate) {a : Step Watcher} (ha : Ordinary a)
    (h : s.Follows n added last l) :
    s.Follows n added ((lastSwitch (l.step Watcher.respond a).2).or last)
      (l.step Watcher.respond a).1 := by
  have hroot := fun name => root_invariant_of_queue h name fun root old _ =>
    h.queue root name old
  cases ha with
  | setRoot name value => exact (hroot name).1 value
  | removeRoot name => exact (hroot name).2
  | addImage b =>
      have hlt := (List.getElem?_eq_some_iff.mp h.image).1
      exact ⟨h.crew, (List.getElem?_append_left hlt).trans h.image⟩
  | deliver => exact h.deliver hs

/-- **A late image is in step with the last switch.** -/
theorem Follows.run (hs : s.Separate) {steps : List (Step Watcher)}
    (hsteps : ∀ a ∈ steps, Ordinary a) (h : s.Follows n added last l) :
    s.Follows n added ((lastSwitch (l.run Watcher.respond steps).2).or last)
      (l.run Watcher.respond steps).1 := by
  induction steps generalizing last l with
  | nil => exact h
  | cons a as ih =>
      have hrest := ih (fun b hb => hsteps b (List.mem_cons_of_mem a hb))
        (h.step hs (hsteps a List.mem_cons_self))
      rwa [← Option.or_assoc, ← lastSwitch_append] at hrest

/-- An image is left alone by a pass exactly if it has no themed template or displays it in
the mode already. -/
theorem restyled_eq_self_iff {m : Mode} {a : Attributes} :
    s.restyled m a = a ↔ ∀ t, a.get? s.settings.templateAttribute = some t →
      Template.isThemed ⟨t⟩ = true →
      a.get? s.settings.sourceAttribute = Template.resolve ⟨t⟩ m := by
  constructor
  · intro h t ht hthemed
    have hsource := get?_source_restyled_of_themed m ht hthemed
    rwa [h] at hsource
  · intro h
    refine Dict.ext_get? fun name => ?_
    rw [get?_restyled, resolved]
    by_cases hn : name = s.settings.sourceAttribute
    · rw [if_pos hn, hn]
      cases ht : a.get? s.settings.templateAttribute with
      | none => rfl
      | some t =>
          cases hthemed : Template.isThemed ⟨t⟩ with
          | true => rw [h t ht hthemed, Option.bind_some, Option.or_self]
          | false =>
              rw [Option.bind_some, (Template.resolve_eq_none_iff _ m).mpr hthemed,
                Option.none_or]
    · rw [if_neg hn]

/-- **When a late image keeps its attributes.** Start a synchronizer on a page, let ordinary
steps happen, add an image, and let more ordinary steps happen. Without a switch of the theme
since then the image is as it was added, and after one it is in step with the mode of the
last. So it has the attributes it was added with exactly if there was no switch, or it has no
themed template, or its source is the template's in the mode of the last switch. -/
theorem late_image_kept_iff (hs : s.Separate) (p : Page) {earlier later : List (Step Watcher)}
    (hearlier : ∀ a ∈ earlier, Ordinary a) (hlater : ∀ a ∈ later, Ordinary a)
    (late : Attributes) :
    let l := ((s.start id (ofPage p)).run Watcher.respond earlier).1
    let r := (l.addImage late).run Watcher.respond later
    let image? := r.1.page.images[l.page.images.length]?
    (lastSwitch r.2 = none → image? = some late) ∧
      (∀ m, lastSwitch r.2 = some m → image? = some (s.restyled m late)) ∧
      (image? = some late ↔ ∀ m t, lastSwitch r.2 = some m →
        late.get? s.settings.templateAttribute = some t → Template.isThemed ⟨t⟩ = true →
        late.get? s.settings.sourceAttribute = Template.resolve ⟨t⟩ m) := by
  intro l r image?
  have hadded : s.Follows l.page.images.length late none (l.addImage late) := by
    refine ⟨?_, by simp [addImage, Page.addImage, afterSwitch]⟩
    have hcrew : crew (l.addImage late) = [s] := (crew_run hearlier).trans (by simp)
    simp [hcrew]
  have himage : image? = some (s.afterSwitch (lastSwitch r.2) late) := by
    simpa using (hadded.run hs hlater).image
  rw [himage]
  cases hlast : lastSwitch r.2 with
  | none => simp [afterSwitch]
  | some m =>
      refine ⟨by simp, by simp [afterSwitch], ?_⟩
      rw [afterSwitch, Option.elim_some, Option.some.injEq, restyled_eq_self_iff]
      constructor
      · rintro h m' t ⟨⟩
        exact h t
      · exact fun h t => h m t rfl

/-- An image that comes late without a template keeps its attributes, and so does one with a
template as long as the theme is not switched. -/
theorem standard_late_image_kept :
    let late : Attributes := Dict.ofList [("src", "late-$theme.png")]
    let l : LivePage Watcher := standard.start id (ofPage {})
    let r := (l.addImage late).run Watcher.respond [.setRoot "class" "rust", .deliver]
    lastSwitch r.2 = some .light ∧ r.1.page.images[0]? = some late := by
  intro late l r
  have hlater : ∀ a ∈ [Step.setRoot "class" "rust", .deliver], Ordinary (ω := Watcher) a := by
    simp [Ordinary.setRoot, Ordinary.deliver]
  have hlight : lastSwitch r.2 = some .light := by decide
  obtain ⟨-, -, hkept⟩ := late_image_kept_iff (s := standard) (by decide) {}
    (fun a ha => absurd ha List.not_mem_nil) hlater late
  have htemplate : late.get? standard.settings.templateAttribute = none := by decide
  refine ⟨hlight, hkept.mpr fun m t _ ht _ => ?_⟩
  rw [htemplate] at ht
  cases ht

/-- An image that comes late with a themed template does not keep its attributes. -/
theorem standard_late_image_lost :
    let late : Attributes :=
      Dict.ofList [("data-rsrc", "late-$theme.png"), ("src", "late.png")]
    let l : LivePage Watcher := standard.start id (ofPage {})
    let r := (l.addImage late).run Watcher.respond [.setRoot "class" "rust", .deliver]
    r.1.page.images[0]? ≠ some late ∧
      r.1.page.images[0]? = some (late.insert "src" "late-light.png") := by
  decide

end Synchronizer

end ThemedPage
