import ThemedPage.Proofs.Observers

/-!
# Templates Are Written Once

If a source that was already brought in step with a mode were kept as a template, the
placeholder would be lost for good. This module shows that it never happens, whatever
synchronizers do to a page, in whatever order, and together with whatever guests: all that
becomes of the images is an **evolution**, a list of passes, additions and writes by
others, and two facts go through evolutions step by step. Templates that are there stay as
they are, if no synchronizer uses the template attribute of any for its sources. And if all
synchronizers use the same two attributes, the template or else the source of an image is
at every moment what it was authored to be.

## Main results

* `LivePage.evolves_calls` — what becomes of the images in a run is an evolution;
* `Evolves.retains` — evolutions keep templates;
* `Evolves.map_authoredTemplate` — evolutions keep what templates are taken from;
* `LivePage.template_written_once` — both, of runs.
-/

namespace ThemedPage

variable {ω : Type} {S : Synchronizer → Prop} {free : String → Prop}

/-! ### Evolutions -/

/-- The **template attributes** of some synchronizers. -/
def TemplateAttribute (S : Synchronizer → Prop) (name : String) : Prop :=
  ∃ s, S s ∧ s.settings.templateAttribute = name

/-- Synchronizers are **apart** if none uses the template attribute of any for sources. -/
def Apart (S : Synchronizer → Prop) : Prop :=
  ∀ s, S s → ¬TemplateAttribute S s.settings.sourceAttribute

/-- Images **evolve** by the passes of some synchronizers, by further images, and by writes
of free attributes. The further images are listed in between. -/
inductive Evolves (S : Synchronizer → Prop) (free : String → Prop) (images : List Attributes) :
    List Attributes → List Attributes → Prop
  | refl : Evolves S free images [] images
  | capture {added now : List Attributes} (s : Synchronizer) :
      S s → Evolves S free images added now →
      Evolves S free images added (now.map s.captured)
  | restyle {added now : List Attributes} (s : Synchronizer) (m : Mode) :
      S s → Evolves S free images added now →
      Evolves S free images added (now.map (s.restyled m))
  | add {added now : List Attributes} (a : Attributes) :
      Evolves S free images added now →
      Evolves S free images (added ++ [a]) (now ++ [a])
  | write {added now : List Attributes} (w : ImageWrite) :
      free w.name → Evolves S free images added now →
      Evolves S free images added (now.modify w.image (·.insert w.name w.value))

namespace Evolves

variable {images added now : List Attributes}

/-- Writes to free attributes are a part of the evolution. -/
theorem writeAll {p : Page} {ws : List ImageWrite} (hws : ∀ w ∈ ws, free w.name)
    (h : Evolves S free images added p.images) :
    Evolves S free images added (p.writeAll ws).images := by
  induction ws generalizing p with
  | nil => exact h
  | cons w ws ih =>
      have hw : free w.name := hws w List.mem_cons_self
      exact ih (fun v hv => hws v (List.mem_cons_of_mem w hv)) (h.write w hw)

/-- A start of one of the synchronizers is a part of the evolution. -/
theorem activate {p : Page} {s : Synchronizer} (hs : S s)
    (h : Evolves S free images added p.images) :
    Evolves S free images added (p.writeAll (s.activate p).writes).images := by
  have hboth := (h.capture s hs).restyle s (s.resolve (s.token p)) hs
  rw [List.map_map] at hboth
  rw [Synchronizer.images_activate]
  exact hboth

/-- A response of one of the synchronizers' watchers is a part of the evolution. -/
theorem respond {p : Page} {w : Watcher} (hw : S w.synchronizer) (changes : List Change)
    (h : Evolves S free images added p.images) :
    Evolves S free images added (p.writeAll (w.respond changes p).writes).images := by
  rcases w.images_respond changes p with hp | ⟨m, hp⟩
  · rw [hp]
    exact h
  · rw [hp]
    exact h.restyle _ m hw

/-! ### What evolutions keep -/

/-- An image **retains** the templates of another if it has all of them. -/
def Retains (S : Synchronizer → Prop) (a b : Attributes) : Prop :=
  ∀ name, TemplateAttribute S name → ∀ v, a.get? name = some v → b.get? name = some v

/-- A template that is there is not captured again. -/
theorem retains_captured (s : Synchronizer) {a b : Attributes} (h : Retains S a b) :
    Retains S a (s.captured b) := by
  intro name hname v hv
  rw [Synchronizer.get?_captured]
  split
  · rename_i heq
    rw [← heq, h name hname v hv, Option.some_or]
  · exact h name hname v hv

/-- The restyling pass of one of the synchronizers retains the templates of all: it writes
to no attribute that any of them uses for templates. -/
theorem retains_restyled (hS : Apart S) {s : Synchronizer} (hs : S s) (m : Mode)
    {a b : Attributes} (h : Retains S a b) : Retains S a (s.restyled m b) := by
  intro name hname v hv
  have hne : name ≠ s.settings.sourceAttribute := by
    rintro rfl
    exact hS s hs hname
  rw [Synchronizer.get?_restyled, if_neg hne]
  exact h name hname v hv

/-- **Evolutions keep templates**, if those who write freely spare them. -/
theorem retains (hS : Apart S) (hfree : ∀ name, free name → ¬TemplateAttribute S name)
    (h : Evolves S free images added now) {i : Nat} {a : Attributes}
    (hi : images[i]? = some a) : ∃ b, now[i]? = some b ∧ Retains S a b := by
  induction h with
  | refl => exact ⟨a, hi, fun _ _ _ hv => hv⟩
  | capture s _ _ ih =>
      obtain ⟨b, hb, hab⟩ := ih
      exact ⟨s.captured b, by rw [List.getElem?_map, hb, Option.map_some],
        retains_captured s hab⟩
  | restyle s m hs _ ih =>
      obtain ⟨b, hb, hab⟩ := ih
      exact ⟨s.restyled m b, by rw [List.getElem?_map, hb, Option.map_some],
        retains_restyled hS hs m hab⟩
  | add c _ ih =>
      obtain ⟨b, hb, hab⟩ := ih
      have hlt := (List.getElem?_eq_some_iff.mp hb).1
      exact ⟨b, by rw [List.getElem?_append_left hlt, hb], hab⟩
  | write w hw _ ih =>
      obtain ⟨b, hb, hab⟩ := ih
      rw [List.getElem?_modify, hb, Option.map_eq_map, Option.map_some]
      split
      · refine ⟨_, rfl, fun name hname v hv => ?_⟩
        have hne : w.name ≠ name := by
          rintro rfl
          exact hfree _ hw hname
        rw [Dict.get?_insert_of_ne _ hne]
        exact hab name hname v hv
      · exact ⟨b, rfl, hab⟩

/-- What the template of an image is taken from: the template it was authored with, or else
its source. -/
def authoredTemplate (template source : String) (a : Attributes) : Option String :=
  (a.get? template).or (a.get? source)

section Shared

variable {template source : String}

/-- What a template is taken from is the same after the pass that takes it. -/
theorem authoredTemplate_captured {s : Synchronizer}
    (ht : s.settings.templateAttribute = template) (hs : s.settings.sourceAttribute = source)
    (a : Attributes) :
    authoredTemplate template source (s.captured a) = authoredTemplate template source a := by
  subst ht hs
  rw [authoredTemplate, authoredTemplate, Synchronizer.get?_captured,
    Synchronizer.get?_captured, if_pos rfl]
  split
  · rw [Option.or_self]
  · rw [Option.or_assoc, Option.or_self]

/-- Only an image with a template is given another source, and then the template counts. -/
theorem authoredTemplate_restyled {s : Synchronizer} (hsep : s.Separate)
    (ht : s.settings.templateAttribute = template) (hs : s.settings.sourceAttribute = source)
    (m : Mode) (a : Attributes) :
    authoredTemplate template source (s.restyled m a) =
      authoredTemplate template source a := by
  subst ht hs
  rw [authoredTemplate, authoredTemplate, Synchronizer.get?_restyled,
    Synchronizer.get?_restyled, if_neg hsep, if_pos rfl]
  cases h : a.get? s.settings.templateAttribute with
  | none => rw [Synchronizer.resolved, h, Option.bind_none, Option.none_or]
  | some v => rw [Option.some_or, Option.some_or]

/-- What a template is taken from does not depend on other attributes. -/
theorem authoredTemplate_insert {name : String} (ht : name ≠ template) (hs : name ≠ source)
    (value : String) (a : Attributes) :
    authoredTemplate template source (a.insert name value) =
      authoredTemplate template source a := by
  rw [authoredTemplate, authoredTemplate, Dict.get?_insert_of_ne _ ht,
    Dict.get?_insert_of_ne _ hs]

/-- To modify one element in a way that a function does not see leaves what the function makes
of the list. -/
theorem map_modify_of_comp_eq {α β : Type} {f : α → α} {g : α → β} (h : ∀ a, g (f a) = g a)
    (l : List α) (i : Nat) : (l.modify i f).map g = l.map g := by
  induction l generalizing i with
  | nil => rw [List.modify_nil]
  | cons a l ih =>
      cases i with
      | zero => rw [List.modify_zero_cons, List.map_cons, List.map_cons, h]
      | succ i => rw [List.modify_succ_cons, List.map_cons, List.map_cons, ih]

/-- **Evolutions keep what templates are taken from**, if all synchronizers use the same two
attributes and nobody else writes those. -/
theorem map_authoredTemplate (hS : Apart S)
    (hshared : ∀ s, S s →
      s.settings.templateAttribute = template ∧ s.settings.sourceAttribute = source)
    (hfree : ∀ name, free name → name ≠ template ∧ name ≠ source)
    (h : Evolves S free images added now) :
    now.map (authoredTemplate template source) =
      (images ++ added).map (authoredTemplate template source) := by
  induction h with
  | refl => rw [List.append_nil]
  | capture s hs _ ih =>
      obtain ⟨ht, hsource⟩ := hshared s hs
      rw [List.map_map, ← ih]
      exact List.map_congr_left fun a _ => authoredTemplate_captured ht hsource a
  | restyle s m hs _ ih =>
      obtain ⟨ht, hsource⟩ := hshared s hs
      have hsep : s.Separate := fun heq => hS s hs ⟨s, hs, heq⟩
      rw [List.map_map, ← ih]
      exact List.map_congr_left fun a _ => authoredTemplate_restyled hsep ht hsource m a
  | add a _ ih => rw [List.map_append, ih, ← List.append_assoc, ← List.map_append]
  | write w hw _ ih =>
      obtain ⟨ht, hsource⟩ := hfree w.name hw
      rw [← ih]
      exact map_modify_of_comp_eq (authoredTemplate_insert ht hsource w.value) _ _

end Shared

end Evolves

/-! ### Runs -/

/-- The images that a call adds. -/
def Call.added : Call ω → List Attributes
  | .page (.addImage a) => [a]
  | _ => []

/-- The calls of a run in which some synchronizers are **used** and free attributes are
written beside them. -/
inductive Call.Uses (S : Synchronizer → Prop) (free : String → Prop) : Call ω → Prop
  | setRoot (name value : String) : Uses S free (.page (.setRoot name value))
  | removeRoot (name : String) : Uses S free (.page (.removeRoot name))
  | withRoot (name value : String) : Uses S free (.page (.withRoot name value))
  | addImage (a : Attributes) : Uses S free (.page (.addImage a))
  | write (w : ImageWrite) : free w.name → Uses S free (.page (.write w))
  | observe (interest : Interest) (g : ω) : Uses S free (.page (.observe interest (.guest g)))
  | round : Uses S free (.page .round)
  | deliver : Uses S free (.page .deliver)
  | capture (s : Synchronizer) : S s → Uses S free (.capture s)
  | restyle (s : Synchronizer) (m : Mode) : S s → Uses S free (.restyle s m)
  | start (s : Synchronizer) : S s → Uses S free (.start s)
  | notify (w : Watcher) (changes : List Change) :
      S w.synchronizer → Uses S free (.notify w changes)

namespace LivePage

/-- The watchers on a live page are those of some synchronizers. -/
def WatchedBy (S : Synchronizer → Prop) (l : LivePage (Observer ω)) : Prop :=
  ∀ o ∈ l.observers, ∀ w, o.state = .watcher w → S w.synchronizer

/-- A live page on which images have evolved, with watchers that keep to evolutions. -/
structure EvolvedFrom (S : Synchronizer → Prop) (free : String → Prop)
    (images added : List Attributes) (l : LivePage (Observer ω)) : Prop where
  /-- The images have evolved. -/
  evolves : Evolves S free images added l.page.images
  /-- The watchers are those of the synchronizers. -/
  watched : l.WatchedBy S

variable {guests : Reaction ω} {images added : List Attributes}

theorem WatchedBy.queue {l : LivePage (Observer ω)} (h : l.WatchedBy S) (name : String)
    (old : Option String) : (l.queue name old).WatchedBy S := by
  intro o ho w hw
  obtain ⟨q, hq, rfl⟩ := List.mem_map.mp ho
  exact h q hq w hw

/-- A watcher of one of the synchronizers, or a guest, may come. -/
theorem WatchedBy.observe {l : LivePage (Observer ω)} (h : l.WatchedBy S)
    (interest : Interest) {o : Observer ω} (ho : ∀ w, o = .watcher w → S w.synchronizer) :
    (l.observe interest o).WatchedBy S := by
  intro q hq w hw
  rcases List.mem_append.mp hq with hq | hq
  · exact h q hq w hw
  · rw [List.mem_singleton.mp hq] at hw
    exact ho w hw

/-- **A round is a part of the evolution**, whether a watcher or a guest is called. -/
theorem EvolvedFrom.round (hg : guests.WritesOnly free) {l l' : LivePage (Observer ω)}
    {d : Delivery (Observer ω)} (hr : Round (Observer.react guests) l l' d)
    (h : EvolvedFrom S free images added l) : EvolvedFrom S free images added l' := by
  cases hr with
  | @intro page quiet o rest hq hp =>
      have ho : o ∈ quiet ++ o :: rest := List.mem_append_right _ List.mem_cons_self
      refine ⟨?_, ?_⟩
      · cases hstate : o.state with
        | guest g => exact h.evolves.writeAll (hg g o.pending page)
        | watcher w => exact h.evolves.respond (h.watched o ho w hstate) o.pending
      · intro q hq w hw
        rcases mem_of_mem_middle hq with rfl | hq
        · obtain ⟨v, hv, hsync⟩ := Observer.eq_watcher_of_react hw
          rw [hsync]
          exact h.watched o ho v hv
        · exact h.watched q hq w hw

/-- Images go on evolving over a call, and the image that it adds, if any, comes last. -/
theorem EvolvedFrom.call (hg : guests.WritesOnly free) {l : LivePage (Observer ω)}
    {c : Call ω} (hc : c.Uses S free) (h : EvolvedFrom S free images added l) :
    EvolvedFrom S free images (added ++ c.added) (l.call guests c) := by
  have hdelivers := step_invariant_of_round (Observer.react guests)
    (fun _ _ _ hr hl => EvolvedFrom.round hg hr hl) h
  -- All calls but one kind add no images.
  have hnone : ∀ {l' : LivePage (Observer ω)}, EvolvedFrom S free images added l' →
      EvolvedFrom S free images (added ++ []) l' := fun h' => by rwa [List.append_nil]
  have hroot := fun name => root_invariant_of_queue (P := EvolvedFrom S free images added) h
    name fun _ old _ => ⟨h.evolves, h.watched.queue name old⟩
  cases hc with
  | setRoot name value => exact hnone ((hroot name).1 value)
  | removeRoot name => exact hnone (hroot name).2
  | withRoot name value => exact hnone ⟨h.evolves, h.watched⟩
  | addImage a => exact ⟨h.evolves.add a, h.watched⟩
  | write w hw => exact hnone ⟨h.evolves.write w hw, h.watched⟩
  | observe interest g =>
      refine hnone ⟨h.evolves, h.watched.observe interest fun w hw => ?_⟩
      cases hw
  | round => exact hnone hdelivers.1
  | deliver => exact hnone hdelivers.2
  | capture s hs =>
      refine hnone ⟨?_, h.watched⟩
      rw [LivePage.call, writeAll, s.images_captures]
      exact h.evolves.capture s hs
  | restyle s m hs =>
      refine hnone ⟨?_, h.watched⟩
      rw [LivePage.call, writeAll, s.images_restyles]
      exact h.evolves.restyle s m hs
  | start s hs =>
      refine hnone ⟨h.evolves.activate hs, h.watched.observe _ fun w hw => ?_⟩
      obtain rfl : ⟨s, s.token l.page⟩ = w := Observer.watcher.inj hw
      exact hs
  | notify w changes hw => exact hnone ⟨h.evolves.respond hw changes, h.watched⟩

/-- **Calls are a part of the evolution**, and so are the images that they add. -/
theorem EvolvedFrom.calls (hg : guests.WritesOnly free) {l : LivePage (Observer ω)}
    {cs : List (Call ω)} (hcs : ∀ c ∈ cs, c.Uses S free)
    (h : EvolvedFrom S free images added l) :
    EvolvedFrom S free images (added ++ cs.flatMap Call.added) (l.calls guests cs) := by
  induction cs generalizing l added with
  | nil =>
      rw [List.flatMap_nil, List.append_nil]
      exact h
  | cons c cs ih =>
      have hc := h.call hg (hcs c List.mem_cons_self)
      rw [List.flatMap_cons, ← List.append_assoc]
      exact ih (fun d hd => hcs d (List.mem_cons_of_mem c hd)) hc

/-- **What becomes of the images in a run is an evolution**, with the images that were added
in between. -/
theorem evolves_calls (hg : guests.WritesOnly free) {l : LivePage (Observer ω)}
    (hl : l.WatchedBy S) {cs : List (Call ω)} (hcs : ∀ c ∈ cs, c.Uses S free) :
    EvolvedFrom S free l.page.images (cs.flatMap Call.added) (l.calls guests cs) :=
  EvolvedFrom.calls hg hcs ⟨.refl, hl⟩

/-- **A template is written once.** While synchronizers that are apart are used in any way and
order, and nobody else writes their template attributes: a template that an image has stays
as it is. If the synchronizers share their two attributes and nobody else writes those, it
is the template the image was authored with, or else the source it was authored with. -/
theorem template_written_once (hS : Apart S)
    (hg : guests.WritesOnly fun name => ¬TemplateAttribute S name)
    {l : LivePage (Observer ω)} (hl : l.WatchedBy S) {cs ds : List (Call ω)}
    (hcs : ∀ c ∈ cs, c.Uses S fun name => ¬TemplateAttribute S name)
    (hds : ∀ d ∈ ds, d.Uses S fun name => ¬TemplateAttribute S name) :
    (∀ (i : Nat) (image : Attributes) (name value : String),
      (l.calls guests cs).page.images[i]? = some image →
      TemplateAttribute S name → image.get? name = some value →
      ∃ later, (l.calls guests (cs ++ ds)).page.images[i]? = some later ∧
        later.get? name = some value) ∧
    ∀ template source : String,
      (∀ s, S s →
        s.settings.templateAttribute = template ∧ s.settings.sourceAttribute = source) →
      (guests.WritesOnly fun name => name ≠ template ∧ name ≠ source) →
      (∀ c ∈ cs, c.Uses S fun name => name ≠ template ∧ name ≠ source) →
      ∀ (i : Nat) (image : Attributes) (value : String),
        (l.calls guests cs).page.images[i]? = some image →
        image.get? template = some value →
        ∃ authored, (l.page.images ++ cs.flatMap Call.added)[i]? = some authored ∧
          (authored.get? template).or (authored.get? source) = some value := by
  have hmiddle := evolves_calls hg hl hcs
  refine ⟨?_, ?_⟩
  · intro i image name value hi hname hvalue
    have hlater := evolves_calls hg hmiddle.watched hds
    obtain ⟨later, hat, hretains⟩ := hlater.evolves.retains hS (fun _ h => h) hi
    rw [calls_append]
    exact ⟨later, hat, hretains name hname value hvalue⟩
  · intro template source hshared hg' hcs' i image value hi hvalue
    have hevolves := (evolves_calls hg' hl hcs').evolves
    have hmap := hevolves.map_authoredTemplate hS hshared fun _ h => h
    -- Where the two lists agree at the image's position, the template it has is the authored.
    have hat := congrArg (fun values => values[i]?) hmap
    simp only [List.getElem?_map, hi, Option.map_some] at hat
    obtain ⟨authored, hauthored, heq⟩ := Option.map_eq_some_iff.mp hat.symm
    refine ⟨authored, hauthored, ?_⟩
    have himage : Evolves.authoredTemplate template source image = some value := by
      rw [Evolves.authoredTemplate, hvalue, Option.some_or]
    exact heq.trans himage

/-- The standard synchronizer used in an unusual order: sources are brought in step before
and after it starts, and captured again at the end. -/
theorem standard_template_written_once :
    let guests : Reaction Unit := fun _ _ _ => { state := (), writes := [⟨0, "alt", "seen"⟩] }
    let l : LivePage (Observer Unit) := (ofPage {}).observe Interest.all (.guest ())
    let cs : List (Call Unit) :=
      [.page (.addImage (Dict.ofList [("src", "hero-$theme.png")])),
        .restyle Synchronizer.standard .dark, .start Synchronizer.standard,
        .page (.setRoot "class" "rust"), .page .deliver]
    let ds : List (Call Unit) := [.capture Synchronizer.standard]
    ∃ later, (l.calls guests (cs ++ ds)).page.images[0]? = some later ∧
      later.get? "data-rsrc" = some "hero-$theme.png" := by
  intro guests l cs ds
  let S : Synchronizer → Prop := fun s => s = .standard
  have hS : Apart S := by
    rintro s rfl ⟨s', rfl, heq⟩
    exact absurd heq (by decide)
  have halt : ¬TemplateAttribute S "alt" := by
    rintro ⟨s, rfl, heq⟩
    exact absurd heq (by decide)
  have hg : guests.WritesOnly fun name => ¬TemplateAttribute S name := by
    intro g changes page w hw
    rw [List.mem_singleton.mp hw]
    exact halt
  have hl : l.WatchedBy S := by
    intro o ho w hw
    rw [List.mem_singleton.mp ho] at hw
    cases hw
  have hcs : ∀ c ∈ cs, c.Uses S fun name => ¬TemplateAttribute S name := by
    simp only [cs, List.forall_mem_cons]
    exact ⟨.addImage _, .restyle _ _ rfl, .start _ rfl, .setRoot _ _, .deliver, by simp⟩
  have hds : ∀ d ∈ ds, d.Uses S fun name => ¬TemplateAttribute S name := by
    simp only [ds, List.forall_mem_cons]
    exact ⟨.capture _ rfl, by simp⟩
  have hat : (l.calls guests cs).page.images[0]? = some (Dict.ofList
      [("alt", "seen"), ("data-rsrc", "hero-$theme.png"), ("src", "hero-light.png")]) := by
    decide
  obtain ⟨hkept, -⟩ := template_written_once hS hg hl hcs hds
  exact hkept 0 _ "data-rsrc" "hero-$theme.png" hat ⟨.standard, rfl, rfl⟩ (by decide)

end LivePage

end ThemedPage
