import ThemedPage.Proofs.Delivery

/-!
# Runs of a Live Page

What can be done to a live page is data here, a **step**, and a run is a list of steps done
one after the other. A run is told with everything it delivered, in order.

Beside whole deliveries there is a step for a single round. A run may so stop between two
rounds of a delivery, in front of any callback, and what is stated of the end of every run
is stated of those moments too.

## Main results

* `LivePage.run_append` — a run may be cut anywhere;
* `LivePage.run_invariant` — what every admitted step preserves holds at the end of a run
  of admitted steps;
* `LivePage.root_invariant_of_queue` — for changes of the root, what is queued suffices;
* `LivePage.step_invariant_of_round` — for the steps that deliver, single rounds suffice;
* `LivePage.getElem?_deliver` — a delivery goes through the rounds that can be done one by
  one.
-/

namespace ThemedPage.LivePage

variable {ω : Type}

/-- A **step** of a run, by somebody outside. -/
inductive Step (ω : Type) where
  /-- An attribute of the root is set. -/
  | setRoot (name value : String)
  /-- An attribute of the root is removed. -/
  | removeRoot (name : String)
  /-- The root is given an attribute of which nobody is told. -/
  | withRoot (name value : String)
  /-- An image is added. -/
  | addImage (attributes : Attributes)
  /-- An attribute of an image is set. -/
  | write (w : ImageWrite)
  /-- An observer is added. -/
  | observe (interest : Interest) (state : ω)
  /-- One round of a delivery, if changes are queued. -/
  | round
  /-- All queued changes are delivered. -/
  | deliver

/-- What a step makes of a live page, and what it delivers. -/
def step (react : Reaction ω) (l : LivePage ω) : Step ω → LivePage ω × List (Delivery ω)
  | .setRoot name value => (l.setRoot name value, [])
  | .removeRoot name => (l.removeRoot name, [])
  | .withRoot name value => (l.withRoot name value, [])
  | .addImage attributes => (l.addImage attributes, [])
  | .write w => (l.writeAll [w], [])
  | .observe interest state => (l.observe interest state, [])
  | .round =>
    match l.round? react with
    | some (l', d) => (l', [d])
    | none => (l, [])
  | .deliver => l.deliver react

/-- What a **run** makes of a live page, and all that it delivers. -/
def run (react : Reaction ω) (l : LivePage ω) :
    List (Step ω) → LivePage ω × List (Delivery ω)
  | [] => (l, [])
  | a :: as =>
    ((run react (l.step react a).1 as).1,
      (l.step react a).2 ++ (run react (l.step react a).1 as).2)

@[simp] theorem run_nil (react : Reaction ω) (l : LivePage ω) : l.run react [] = (l, []) := rfl

@[simp] theorem run_cons (react : Reaction ω) (l : LivePage ω) (a : Step ω)
    (as : List (Step ω)) :
    l.run react (a :: as) =
      (((l.step react a).1.run react as).1,
        (l.step react a).2 ++ ((l.step react a).1.run react as).2) := rfl

/-- A run may be cut anywhere. -/
theorem run_append (react : Reaction ω) (l : LivePage ω) (as bs : List (Step ω)) :
    l.run react (as ++ bs) =
      (((l.run react as).1.run react bs).1,
        (l.run react as).2 ++ ((l.run react as).1.run react bs).2) := by
  induction as generalizing l with
  | nil => simp
  | cons a as ih => simp [ih, List.append_assoc]

/-- The **ordinary** steps of a run: the root changes, images are added, and changes are
delivered. Nobody comes, and from outside nobody touches the images that are there. -/
inductive Ordinary : Step ω → Prop
  | setRoot (name value : String) : Ordinary (.setRoot name value)
  | removeRoot (name : String) : Ordinary (.removeRoot name)
  | addImage (attributes : Attributes) : Ordinary (.addImage attributes)
  | deliver : Ordinary .deliver

/-! ### Changes of the root -/

/-- A removal does nothing where there is no attribute, and is a change otherwise. -/
theorem removeRoot_cases (l : LivePage ω) (name : String) :
    l.page.root.get? name = none ∧ l.removeRoot name = l ∨
      ∃ old, l.page.root.get? name = some old ∧
        l.removeRoot name =
          queue { l with page := { l.page with root := l.page.root.erase name } } name
            (some old) := by
  cases h : l.page.root.get? name with
  | none => exact Or.inl ⟨rfl, by rw [removeRoot, h]⟩
  | some old => exact Or.inr ⟨old, rfl, by rw [removeRoot, h]⟩

@[simp] theorem page_queue (l : LivePage ω) (name : String) (old : Option String) :
    (l.queue name old).page = l.page := rfl

@[simp] theorem images_setRoot (l : LivePage ω) (name value : String) :
    (l.setRoot name value).page.images = l.page.images := rfl

@[simp] theorem images_removeRoot (l : LivePage ω) (name : String) :
    (l.removeRoot name).page.images = l.page.images := by
  rcases l.removeRoot_cases name with ⟨-, h⟩ | ⟨old, -, h⟩
  · rw [h]
  · rw [h, page_queue]

/-! ### Invariants -/

/-- What queueing a change of one attribute preserves, setting and removing the attribute
preserve. -/
theorem root_invariant_of_queue {P : LivePage ω → Prop} {l : LivePage ω} (h : P l)
    (name : String)
    (hqueue : ∀ root old, (∀ other, name ≠ other → root.get? other = l.page.root.get? other) →
      P (queue { l with page := { l.page with root := root } } name old)) :
    (∀ value, P (l.setRoot name value)) ∧ P (l.removeRoot name) := by
  refine ⟨fun value => hqueue _ _ fun _ hne => Dict.get?_insert_of_ne _ hne value, ?_⟩
  rcases l.removeRoot_cases name with ⟨-, hl⟩ | ⟨old, -, hl⟩
  · rw [hl]
    exact h
  · rw [hl]
    refine hqueue _ _ fun other hne => ?_
    rw [Dict.get?_erase, if_neg hne]

/-- What every admitted step preserves holds at the end of a run of admitted steps. -/
theorem run_invariant {react : Reaction ω} {P : LivePage ω → Prop} {Admitted : Step ω → Prop}
    (hstep : ∀ l a, Admitted a → P l → P (l.step react a).1) {steps : List (Step ω)}
    (hsteps : ∀ a ∈ steps, Admitted a) {l : LivePage ω} (h : P l) :
    P (l.run react steps).1 := by
  induction steps generalizing l with
  | nil => exact h
  | cons a as ih =>
      have ha : Admitted a := hsteps a List.mem_cons_self
      exact ih (fun b hb => hsteps b (List.mem_cons_of_mem a hb)) (hstep l a ha h)

/-- What every round preserves is preserved by the steps that deliver. -/
theorem step_invariant_of_round (react : Reaction ω) {P : LivePage ω → Prop}
    (hround : ∀ l l' d, Round react l l' d → P l → P l') {l : LivePage ω} (h : P l) :
    P (l.step react .round).1 ∧ P (l.step react .deliver).1 := by
  refine ⟨?_, deliver_invariant hround h⟩
  rw [step]
  cases hr : l.round? react with
  | none => exact h
  | some r => exact hround l r.1 r.2 (round_of_round? hr) h

/-! ### The moments of a delivery -/

/-- **A delivery goes through single rounds**: what it does after some of them is the next
round of the live page as they leave it. -/
theorem getElem?_deliver (react : Reaction ω) (l : LivePage ω) (k : Nat) :
    (l.deliver react).2[k]? =
      ((l.run react (List.replicate k .round)).1.round? react).map Prod.snd := by
  induction k generalizing l with
  | zero =>
      rw [List.replicate_zero, run_nil]
      cases hr : l.round? react with
      | none =>
          rw [deliver_of_quiet react ((round?_eq_none_iff react l).mp hr)]
          rfl
      | some r =>
          rw [deliver_of_round (round_of_round? hr)]
          rfl
  | succ k ih =>
      rw [List.replicate_succ, run_cons, ← ih]
      cases hr : l.round? react with
      | none =>
          simp only [step, hr]
          rw [deliver_of_quiet react ((round?_eq_none_iff react l).mp hr)]
          simp
      | some r =>
          simp only [step, hr]
          rw [deliver_of_round (round_of_round? hr)]
          simp

end ThemedPage.LivePage
