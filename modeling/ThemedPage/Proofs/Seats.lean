import Mathlib.Data.List.Forall2
import ThemedPage.Proofs.Restart

/-!
# The Seats of Observers

Seen from nearby, an observer has a **seat** on a live page, with a number that the log
knows the observer by. While it runs the observer is away from its seat, so that the page
can be handed to it, and a delivery is a loop that in every turn calls the first observer
that has changes queued and is on its seat. Somebody away with changes queued would be passed
over, and its changes would never be delivered.

This module shows that nobody ever is when a delivery begins or between two turns of it. On
every seated page that can be reached the loop comes to an end, with the outcome of the one
pass over the observers that `LivePage.deliver` makes.

## Main results

* `SeatedPage.turn?_seated` — where all are on their seats, a turn is a round;
* `SeatedPage.loop_seated_iff` — the loop ends, and only as the pass does;
* `SeatedPage.Reached.exists_seated` — on reached pages all are on their seats, which are
  numbered by position;
* `SeatedPage.delivery_drains` — what a delivery does on a reached page.
-/

namespace ThemedPage

/-- An observer's **seat**. -/
structure Seat (ω : Type) where
  /-- The number that the log knows the observer by. -/
  number : Nat
  /-- The observer's state, unless the observer is away. -/
  occupant : Option ω

/-- A **seated page**: a live page on which observers have seats. -/
structure SeatedPage (ω : Type) extends LivePage (Seat ω) where
  /-- The number of the next seat. -/
  next : Nat := 0

namespace SeatedPage

variable {ω : Type} {react : Reaction ω}

/-! ### Turns -/

/-- Adds an observer, on a seat of its own. -/
def observe (l : SeatedPage ω) (interest : Interest) (state : ω) : SeatedPage ω where
  toLivePage := l.toLivePage.observe interest ⟨l.next, some state⟩
  next := l.next + 1

/-- Whether somebody has changes queued. -/
def waits (o : Subscription (Seat ω)) : Bool := !o.pending.isEmpty

/-- A **turn**, if there is somebody to call: the first observer that waits and is on its
seat. It leaves the seat and its queue is taken before it runs, and it is put back on the
seat afterwards. -/
def turn? (react : Reaction ω) (l : SeatedPage ω) : Option (SeatedPage ω × Delivery ω) := do
  let n ← l.observers.findIdx? fun o => waits o && o.state.occupant.isSome
  let o ← l.observers[n]?
  let w ← o.state.occupant
  let away := l.observers.modify n fun o =>
    { o with state := { o.state with occupant := none }, pending := [] }
  let r := react w o.pending l.page
  let back := away.modify n fun o =>
    { o with state := { o.state with occupant := some r.state } }
  return (⟨⟨l.page.writeAll r.writes, back⟩, l.next⟩, ⟨o.state.number, o.pending, l.page, r⟩)

/-- A turn passes over those that need not or cannot be called and calls the next. -/
theorem turn?_eq_some (react : Reaction ω) (page : Page) {before : List (Subscription (Seat ω))}
    {o : Subscription (Seat ω)} {w : ω} (after : List (Subscription (Seat ω))) (next : Nat)
    (hbefore : ∀ q ∈ before, (waits q && q.state.occupant.isSome) = false)
    (ho : o.pending ≠ []) (hw : o.state.occupant = some w) :
    turn? react ⟨⟨page, before ++ o :: after⟩, next⟩ =
      some (⟨⟨page.writeAll (react w o.pending page).writes,
          before ++ ⟨o.interest, ⟨o.state.number, some (react w o.pending page).state⟩, []⟩ ::
            after⟩, next⟩,
        ⟨o.state.number, o.pending, page, react w o.pending page⟩) := by
  have hn : (before ++ o :: after).findIdx? (fun o => waits o && o.state.occupant.isSome) =
      some before.length := by
    rw [List.findIdx?_append, List.findIdx?_eq_none_iff.mpr hbefore]
    simp [List.findIdx?_cons, waits, ho, hw]
  simp [turn?, hn, hw, Page.modify_append_cons]

/-- The **loop** of a delivery comes to an end: one turn after the other until there is
nobody to call, counted and told as deliveries. -/
inductive Loop (react : Reaction ω) :
    SeatedPage ω → SeatedPage ω → Nat → List (Delivery ω) → Prop
  | stop {l : SeatedPage ω} : l.turn? react = none → Loop react l l 0 []
  | turn {l l' l'' : SeatedPage ω} {d : Delivery ω} {n : Nat} {ds : List (Delivery ω)} :
      l.turn? react = some (l', d) → Loop react l' l'' n ds →
      Loop react l l'' (n + 1) (d :: ds)

/-- The loop comes to at most one end. -/
theorem Loop.unique {l l₁ l₂ : SeatedPage ω} {n₁ n₂ : Nat} {ds₁ ds₂ : List (Delivery ω)}
    (h₁ : Loop react l l₁ n₁ ds₁) (h₂ : Loop react l l₂ n₂ ds₂) :
    l₁ = l₂ ∧ n₁ = n₂ ∧ ds₁ = ds₂ := by
  induction h₁ generalizing l₂ n₂ ds₂ with
  | stop hnone =>
      cases h₂ with
      | stop _ => exact ⟨rfl, rfl, rfl⟩
      | turn hturn _ => rw [hnone] at hturn; cases hturn
  | turn hturn _ ih =>
      cases h₂ with
      | stop hnone => rw [hnone] at hturn; cases hturn
      | turn hturn' hrest =>
          rw [hturn] at hturn'
          obtain ⟨rfl, rfl⟩ : _ ∧ _ := by simpa using hturn'
          obtain ⟨rfl, rfl, rfl⟩ := ih hrest
          exact ⟨rfl, rfl, rfl⟩

/-- The seated pages that can be **reached** from outside, with deliveries that came to an
end. -/
inductive Reached (react : Reaction ω) : SeatedPage ω → Prop
  | ofPage (p : Page) : Reached react { toLivePage := LivePage.ofPage p }
  | setRoot {l : SeatedPage ω} (name value : String) : Reached react l →
      Reached react { l with toLivePage := l.toLivePage.setRoot name value }
  | removeRoot {l : SeatedPage ω} (name : String) : Reached react l →
      Reached react { l with toLivePage := l.toLivePage.removeRoot name }
  | withRoot {l : SeatedPage ω} (name value : String) : Reached react l →
      Reached react { l with toLivePage := l.toLivePage.withRoot name value }
  | addImage {l : SeatedPage ω} (attributes : Attributes) : Reached react l →
      Reached react { l with toLivePage := l.toLivePage.addImage attributes }
  | writeAll {l : SeatedPage ω} (ws : List ImageWrite) : Reached react l →
      Reached react { l with toLivePage := l.toLivePage.writeAll ws }
  | observe {l : SeatedPage ω} (interest : Interest) (state : ω) : Reached react l →
      Reached react (l.observe interest state)
  | deliver {l l' : SeatedPage ω} {n : Nat} {ds : List (Delivery ω)} : Reached react l →
      Loop react l l' n ds → Reached react l'

/-! ### Everybody on their seats -/

/-- An observer on the seat at a position. -/
def seat (n : Nat) (o : Subscription ω) : Subscription (Seat ω) :=
  ⟨o.interest, ⟨n, some o.state⟩, o.pending⟩

/-- A live page with all observers on seats that are numbered by position. -/
def seated (l : LivePage ω) : SeatedPage ω where
  page := l.page
  observers := l.observers.mapIdx seat
  next := l.nextObserver

/-- Seats are numbered from front to back, and behind an observer on from its own. -/
theorem observers_seated (page : Page) (quiet : List (Subscription ω)) (o : Subscription ω)
    (rest : List (Subscription ω)) :
    (seated ⟨page, quiet ++ o :: rest⟩).observers =
      quiet.mapIdx seat ++ seat quiet.length o ::
        rest.mapIdx fun n => seat (n + 1 + quiet.length) := by
  simp [seated, List.mapIdx_append, List.mapIdx_cons]

theorem seated_queue (l : LivePage ω) (name : String) (old : Option String) :
    { seated l with toLivePage := (seated l).toLivePage.queue name old } =
      seated (l.queue name old) := by
  simp only [seated, LivePage.queue, LivePage.nextObserver, List.length_map]
  congr 2
  refine List.ext_getElem? fun n => ?_
  simp only [List.getElem?_map, List.getElem?_mapIdx, Option.map_map]
  rfl

/-- An observer that comes takes the seat behind the others. -/
theorem observe_seated (l : LivePage ω) (interest : Interest) (state : ω) :
    (seated l).observe interest state = seated (l.observe interest state) := by
  simp [seated, observe, LivePage.observe, LivePage.nextObserver, List.mapIdx_append, seat]

/-- Nobody waits who had nothing queued before there were seats. -/
theorem not_waits_of_quiet {quiet : List (Subscription ω)} (hq : ∀ q ∈ quiet, q.pending = [])
    {o : Subscription (Seat ω)} (ho : o ∈ quiet.mapIdx seat) : waits o = false := by
  obtain ⟨n, hn, rfl⟩ := List.mem_mapIdx.mp ho
  simp [waits, seat, hq _ (List.getElem_mem hn)]

/-- Where all are on their seats, a turn is a round. -/
theorem turn?_seated (react : Reaction ω) (l : LivePage ω) :
    (seated l).turn? react = (l.round? react).map fun r => (seated r.1, r.2) := by
  have hskip : ∀ {quiet : List (Subscription ω)}, (∀ q ∈ quiet, q.pending = []) →
      ∀ q ∈ quiet.mapIdx seat, (waits q && q.state.occupant.isSome) = false :=
    fun hq q hmem => by rw [not_waits_of_quiet hq hmem, Bool.false_and]
  cases hr : l.round? react with
  | none =>
      have hquiet := (LivePage.round?_eq_none_iff react l).mp hr
      have hnone : (seated l).observers.findIdx?
          (fun o => waits o && o.state.occupant.isSome) = none :=
        List.findIdx?_eq_none_iff.mpr (hskip hquiet)
      simp [turn?, hnone]
  | some r =>
      obtain ⟨l', d⟩ := r
      cases LivePage.round_of_round? hr with
      | @intro page quiet o rest hq ho =>
          have hturn := turn?_eq_some react page
            (rest.mapIdx fun n => seat (n + 1 + quiet.length))
            (quiet ++ o :: rest).length (hskip hq) (o := seat quiet.length o) ho rfl
          rw [← observers_seated page] at hturn
          refine hturn.trans ?_
          rw [Option.map_some]
          simp [seated, LivePage.nextObserver, List.mapIdx_append, List.mapIdx_cons, seat]

/-- **The loop ends, and only as the pass does.** -/
theorem loop_seated_iff {l : LivePage ω} {l' : SeatedPage ω} {n : Nat}
    {ds : List (Delivery ω)} :
    Loop react (seated l) l' n ds ↔
      l' = seated (l.deliver react).1 ∧ n = (l.deliver react).2.length ∧
        ds = (l.deliver react).2 := by
  have hloop : Loop react (seated l) (seated (l.deliver react).1)
      (l.deliver react).2.length (l.deliver react).2 := by
    induction l using LivePage.deliver_induction react with
    | quiet l hl =>
        refine .stop ?_
        rw [turn?_seated, (LivePage.round?_eq_none_iff react l).mpr hl]
        rfl
    | round l l' d hr ih =>
        refine .turn ?_ ih
        rw [turn?_seated, LivePage.round?_eq_some_iff.mpr hr]
        rfl
  constructor
  · exact fun h => h.unique hloop
  · rintro ⟨rfl, rfl, rfl⟩
    exact hloop

/-- **On reached pages all are on their seats**, which are numbered by position. -/
theorem Reached.exists_seated {l : SeatedPage ω} (h : Reached react l) :
    ∃ m : LivePage ω, l = seated m := by
  have hroot := fun (m : LivePage ω) (name : String) =>
    LivePage.root_invariant_of_queue (P := fun p => ∃ m', (⟨p, m.nextObserver⟩ : SeatedPage ω) =
      seated m') ⟨m, rfl⟩ name fun root old _ =>
        ⟨_, seated_queue { m with page := { m.page with root := root } } name old⟩
  induction h with
  | ofPage p => exact ⟨LivePage.ofPage p, rfl⟩
  | setRoot name value _ ih =>
      obtain ⟨m, rfl⟩ := ih
      exact (hroot m name).1 value
  | removeRoot name _ ih =>
      obtain ⟨m, rfl⟩ := ih
      exact (hroot m name).2
  | withRoot name value _ ih =>
      obtain ⟨m, rfl⟩ := ih
      exact ⟨m.withRoot name value, rfl⟩
  | addImage attributes _ ih =>
      obtain ⟨m, rfl⟩ := ih
      exact ⟨m.addImage attributes, rfl⟩
  | writeAll ws _ ih =>
      obtain ⟨m, rfl⟩ := ih
      exact ⟨m.writeAll ws, rfl⟩
  | observe interest state _ ih =>
      obtain ⟨m, rfl⟩ := ih
      exact ⟨m.observe interest state, observe_seated m interest state⟩
  | deliver _ hloop ih =>
      obtain ⟨m, rfl⟩ := ih
      exact ⟨_, (loop_seated_iff.mp hloop).1⟩

/-! ### What a delivery does -/

/-- A delivery that **calls** an observer: the log is told of its number and of the size of
its queue first, and then it responds to all of its queue and to the page as it finds it. -/
def Calls (react : Reaction ω) (o : Subscription (Seat ω)) (d : Delivery ω) : Prop :=
  d.observer = o.state.number ∧ d.changes = o.pending ∧
    d.log = .delivering o.state.number o.pending.length :: d.response.log ∧
    ∃ w, o.state.occupant = some w ∧ d.response = react w o.pending d.found

/-- An observer **stays** through some deliveries: its seat and its interest are the same,
its queue is empty, and it sits there in the state that it responded with, or in its old
state if it had nothing queued. -/
def Stays (ds : List (Delivery ω)) (o o' : Subscription (Seat ω)) : Prop :=
  o'.interest = o.interest ∧ o'.state.number = o.state.number ∧ o'.pending = [] ∧
    ∃ w, o'.state.occupant = some w ∧
      (o.pending = [] ∧ o.state.occupant = some w ∨
        ∃ d ∈ ds, d.observer = o.state.number ∧ d.response.state = w)

/-- The writes of some deliveries, in order. -/
def writes (ds : List (Delivery ω)) : List ImageWrite := ds.flatMap fun d => d.response.writes

/-- No image is missing, and none has lost an attribute. -/
def NothingLost (p q : Page) : Prop :=
  q.images.length = p.images.length ∧
    ∀ (n : Nat) (name : String), (p.imageAttribute? n name).isSome →
      (q.imageAttribute? n name).isSome

/-- A page is **drained** from one seated page to another, with a number and a list of
deliveries. -/
structure Drained (react : Reaction ω) (l l' : SeatedPage ω) (n : Nat)
    (ds : List (Delivery ω)) : Prop where
  /-- Those who wait are called, once each and in order. -/
  calls : List.Forall₂ (Calls react) (l.observers.filter waits) ds
  /-- The deliveries are counted. -/
  count : n = ds.length
  /-- Everybody finds the page as those before left it. -/
  found : ∀ (k : Nat) (d : Delivery ω), ds[k]? = some d →
    d.found = l.page.writeAll (writes (ds.take k))
  /-- Everybody finds the root as it was in the beginning. -/
  root_found : ∀ d ∈ ds, d.found.root = l.page.root
  /-- The page is left as all of them wrote it. -/
  page : l'.page = l.page.writeAll (writes ds)
  /-- The root is as it was. -/
  root : l'.page.root = l.page.root
  /-- All images are there with all their attributes. -/
  images : NothingLost l.page l'.page
  /-- All observers are there, in the same order. -/
  observers : List.Forall₂ (Stays ds) l.observers l'.observers
  /-- The seats have different numbers. -/
  numbers : (l'.observers.map fun o => o.state.number).Nodup
  /-- The number of the next seat is as it was. -/
  next : l'.next = l.next
  /-- Nobody waits any more. -/
  quiet : l'.hasPending = false
  /-- A second delivery does nothing. -/
  again : ∀ (l'' : SeatedPage ω) (n' : Nat) (ds' : List (Delivery ω)),
    Loop react l' l'' n' ds' ↔ l'' = l' ∧ n' = 0 ∧ ds' = []

/-- Those who wait are called, once each and in order. -/
theorem calls_deliver (react : Reaction ω) (l : LivePage ω) :
    List.Forall₂ (Calls react) ((seated l).observers.filter waits) (l.deliver react).2 := by
  have hskip : ∀ {quiet : List (Subscription ω)}, (∀ q ∈ quiet, q.pending = []) →
      (quiet.mapIdx seat).filter waits = [] := fun hq =>
    List.filter_eq_nil_iff.mpr fun q hmem => by simp [not_waits_of_quiet hq hmem]
  induction l using LivePage.deliver_induction react with
  | quiet l hl =>
      rw [show (seated l).observers = l.observers.mapIdx seat from rfl, hskip hl]
      exact .nil
  | round l l' d hr ih =>
      cases hr with
      | @intro page quiet o rest hq ho =>
          rw [observers_seated, List.filter_append, hskip hq] at ih ⊢
          have hwaits : waits (seat quiet.length o) = true := by simpa [waits, seat] using ho
          rw [List.nil_append, List.filter_cons_of_pos hwaits]
          exact .cons ⟨rfl, rfl, rfl, o.state, rfl, rfl⟩ ih

/-- Everybody finds the page as those before left it, and so does whoever looks
afterwards. -/
theorem found_deliver (react : Reaction ω) (l : LivePage ω) :
    (∀ (k : Nat) (d : Delivery ω), (l.deliver react).2[k]? = some d →
      d.found = l.page.writeAll (writes ((l.deliver react).2.take k))) ∧
    (l.deliver react).1.page = l.page.writeAll (writes (l.deliver react).2) := by
  induction l using LivePage.deliver_induction react with
  | quiet l hl => exact ⟨fun k d hd => by simp at hd, rfl⟩
  | round l l' d hr ih =>
      have hcons : ∀ ds, l.page.writeAll (writes (d :: ds)) = l'.page.writeAll (writes ds) := by
        cases hr with
        | intro page rest _ _ => exact fun ds => Page.writeAll_append _ _ _
      refine ⟨fun k e he => ?_, ih.2.trans (hcons _).symm⟩
      cases k with
      | zero =>
          obtain rfl : d = e := by simpa using he
          cases hr with
          | intro page rest _ _ => rfl
      | succ k =>
          rw [List.take_succ_cons, hcons]
          exact ih.1 k e (by simpa using he)

/-- One in the middle may be replaced by another that is related to no less. -/
theorem forall₂_middle {α β : Type} {R R' : α → β → Prop} {before after : List α} {a a' : α}
    {bs : List β} (h : List.Forall₂ R (before ++ a' :: after) bs)
    (himp : ∀ x y, R x y → R' x y) (ha : ∀ y, R a' y → R' a y) :
    List.Forall₂ R' (before ++ a :: after) bs := by
  induction before generalizing bs with
  | nil =>
      cases h with
      | cons hhead htail => exact .cons (ha _ hhead) (htail.imp himp)
  | cons x before ih =>
      cases h with
      | cons hhead htail => exact .cons (himp _ _ hhead) (ih htail)

/-- A delivery in front of others leaves where an observer stays; it is one more that may
have called it. -/
theorem Stays.cons {ds : List (Delivery ω)} {o o' : Subscription (Seat ω)}
    (h : Stays ds o o') (d : Delivery ω) : Stays (d :: ds) o o' := by
  obtain ⟨hinterest, hnumber, hpending, w, hw, hfrom⟩ := h
  refine ⟨hinterest, hnumber, hpending, w, hw, hfrom.imp_right ?_⟩
  rintro ⟨e, he, hobserver, hstate⟩
  exact ⟨e, List.mem_cons_of_mem d he, hobserver, hstate⟩

/-- All observers stay through a delivery. -/
theorem stays_deliver (react : Reaction ω) (l : LivePage ω) :
    List.Forall₂ (Stays (l.deliver react).2) (seated l).observers
      (seated (l.deliver react).1).observers := by
  induction l using LivePage.deliver_induction react with
  | quiet l hl =>
      refine List.forall₂_same.mpr fun o ho => ?_
      obtain ⟨n, hn, rfl⟩ := List.mem_mapIdx.mp ho
      have hpending : (seat n l.observers[n]).pending = [] := hl _ (List.getElem_mem hn)
      exact ⟨rfl, rfl, hpending, _, rfl, Or.inl ⟨hpending, rfl⟩⟩
  | round l l' d hr ih =>
      cases hr with
      | @intro page quiet o rest hq ho =>
          rw [observers_seated] at ih ⊢
          refine forall₂_middle ih (fun _ _ h => h.cons _) fun o' h => ?_
          -- Its queue is empty by now, so it sits there as it responded, here or later on.
          obtain ⟨hinterest, hnumber, hpending, w, hw, hfrom⟩ := h
          refine ⟨hinterest, hnumber, hpending, w, hw, Or.inr ?_⟩
          rcases hfrom with ⟨-, hstate⟩ | ⟨e, he, hobserver, hstate⟩
          · exact ⟨_, List.mem_cons_self, rfl, Option.some.inj hstate⟩
          · exact ⟨e, List.mem_cons_of_mem _ he, hobserver, hstate⟩

theorem NothingLost.write {p q : Page} (h : NothingLost p q) (w : ImageWrite) :
    NothingLost p (q.write w) := by
  refine ⟨(Page.length_images_write q w).trans h.1, fun n name hp => ?_⟩
  have hq := h.2 n name hp
  rw [Page.imageAttribute?] at hq ⊢
  rw [Page.write, List.getElem?_modify]
  cases hn : q.images[n]? with
  | none => simp [hn] at hq
  | some a =>
      rw [hn] at hq
      simp only [Option.map_eq_map, Option.map_some, Option.bind_some] at hq ⊢
      split
      · rw [Dict.get?_insert]
        split
        · rfl
        · exact hq
      · exact hq

/-- Writes lose nothing. -/
theorem NothingLost.writeAll {p q : Page} (h : NothingLost p q) (ws : List ImageWrite) :
    NothingLost p (q.writeAll ws) := by
  induction ws generalizing q with
  | nil => exact h
  | cons w ws ih => exact ih (h.write w)

/-- No two observers sit on one seat. -/
theorem nodup_numbers_seated (l : LivePage ω) :
    ((seated l).observers.map fun o => o.state.number).Nodup := by
  have hrange : (seated l).observers.map (fun o => o.state.number) =
      List.range l.observers.length := by
    refine List.ext_getElem (by simp [seated]) fun n _ _ => ?_
    simp [seated, seat]
  rw [hrange]
  exact List.nodup_range

/-- A delivery drains the page. -/
theorem drained_seated (react : Reaction ω) (l : LivePage ω) :
    Drained react (seated l) (seated (l.deliver react).1) (l.deliver react).2.length
      (l.deliver react).2 where
  calls := calls_deliver react l
  count := rfl
  found := (found_deliver react l).1
  root_found d hd := by
    obtain ⟨k, hk⟩ := List.mem_iff_getElem?.mp hd
    rw [(found_deliver react l).1 k d hk, Page.root_writeAll]
    rfl
  page := (found_deliver react l).2
  root := LivePage.root_deliver react l
  images := by
    have hpage : (seated (l.deliver react).1).page = l.page.writeAll (writes _) :=
      (found_deliver react l).2
    rw [hpage]
    exact NothingLost.writeAll ⟨rfl, fun _ _ h => h⟩ _
  observers := stays_deliver react l
  numbers := nodup_numbers_seated _
  next := by
    have := (stays_deliver react l).length_eq
    simpa [seated, LivePage.nextObserver] using this.symm
  quiet := by
    have hquiet := LivePage.quiet_deliver react l
    refine (LivePage.quiet_iff_hasPending _).mp fun o ho => ?_
    obtain ⟨n, hn, rfl⟩ := List.mem_mapIdx.mp ho
    exact hquiet _ (List.getElem_mem hn)
  again l'' n' ds' := by
    rw [loop_seated_iff, LivePage.deliver_of_quiet react (LivePage.quiet_deliver react l)]
    rfl

/-- **A delivery ends and drains the page.** On every seated page that can be reached the
loop comes to exactly one end, whatever the observers are; it drains the page, and it is the
pass over the observers of a live page. -/
theorem delivery_drains (react : Reaction ω) {l : SeatedPage ω} (hl : Reached react l) :
    ∃ (l' : SeatedPage ω) (n : Nat) (ds : List (Delivery ω)),
      (∀ l'' n' ds', Loop react l l'' n' ds' ↔ l'' = l' ∧ n' = n ∧ ds' = ds) ∧
      Drained react l l' n ds ∧
      ∃ m : LivePage ω, l = seated m ∧ l' = seated (m.deliver react).1 ∧
        ds = (m.deliver react).2 := by
  obtain ⟨m, rfl⟩ := hl.exists_seated
  exact ⟨seated (m.deliver react).1, (m.deliver react).2.length, (m.deliver react).2,
    fun _ _ _ => loop_seated_iff, drained_seated react m, m, rfl, rfl, rfl⟩

/-- Two observers that leave their marks on an image, of whom both want to know of one
change. -/
theorem two_marks_drain :
    let react : Reaction String := fun mark _ _ =>
      { state := mark, writes := [⟨0, mark, "seen"⟩] }
    let l : SeatedPage String :=
      { toLivePage := LivePage.ofPage { images := [Dict.empty] } }
    let l := (l.observe Interest.all "all").observe (Interest.only "class") "class"
    let l := { l with toLivePage := l.toLivePage.setRoot "class" "rust" }
    Reached react l ∧ ∃ l' ds, Loop react l l' 2 ds ∧ Drained react l l' 2 ds := by
  intro react l₀ l₁ l
  have hl : Reached react l :=
    .setRoot "class" "rust" (.observe _ _ (.observe _ _ (.ofPage _)))
  obtain ⟨l', n, ds, hloop, hdrained, -⟩ := delivery_drains react hl
  have htwo : (l.observers.filter waits).length = 2 := by decide
  obtain rfl : n = 2 := by rw [hdrained.count, ← hdrained.calls.length_eq, htwo]
  exact ⟨hl, l', ds, (hloop l' 2 ds).mpr ⟨rfl, rfl, rfl⟩, hdrained⟩

end SeatedPage

end ThemedPage
