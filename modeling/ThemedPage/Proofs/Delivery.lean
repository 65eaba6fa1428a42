import ThemedPage.LivePage

/-!
# Delivery in Rounds

`LivePage.deliver` is one pass over the observers. Told as it happens, a delivery is a
loop: in every **round** the observers are searched from the first one on for somebody with
queued changes, who is given all of them, and the loop ends when nobody is found. This
module proves the pass equal to the loop, so that what holds of the live page between two
rounds can be stated, and what every round preserves holds after a whole delivery.

## Main results

* `LivePage.round?_eq_some_iff` — the search finds exactly the round that is next;
* `LivePage.deliver_of_round`, `LivePage.deliver_of_quiet` — a delivery is its first round
  and the delivery after it, and nothing if no changes are queued;
* `LivePage.deliver_induction` — the induction along the rounds of a delivery;
* `LivePage.quiet_deliver` — a delivery leaves no changes queued;
* `LivePage.length_deliver` — everybody with queued changes is given them once.
-/

namespace ThemedPage.LivePage

variable {ω : Type} {react : Reaction ω}

/-! ### Rounds -/

/-- A **round** of a delivery: nothing is queued for the observers before some position,
and the observer there is given its changes. -/
inductive Round (react : Reaction ω) : LivePage ω → LivePage ω → Delivery ω → Prop
  | intro (page : Page) {quiet : List (Subscription ω)} {o : Subscription ω}
      (rest : List (Subscription ω)) :
      (∀ q ∈ quiet, q.pending = []) → o.pending ≠ [] →
      Round react ⟨page, quiet ++ o :: rest⟩
        ⟨page.writeAll (react o.state o.pending page).writes,
          quiet ++ { o with state := (react o.state o.pending page).state, pending := [] } ::
            rest⟩
        ⟨quiet.length, o.pending, page, react o.state o.pending page⟩

/-- Whoever is there after one was replaced was there before, or is the replacement. -/
theorem mem_of_mem_middle {α : Type} {quiet rest : List α} {o o' q : α}
    (h : q ∈ quiet ++ o' :: rest) : q = o' ∨ q ∈ quiet ++ o :: rest := by
  rw [List.perm_middle.mem_iff, List.mem_cons] at h ⊢
  exact h.imp_right Or.inr

/-- Whoever is there and is not replaced stays. -/
theorem mem_middle_of_ne {α : Type} {quiet rest : List α} {o o' q : α}
    (h : q ∈ quiet ++ o :: rest) (hne : q ≠ o) : q ∈ quiet ++ o' :: rest := by
  rw [List.perm_middle.mem_iff, List.mem_cons] at h ⊢
  exact Or.inr (h.resolve_left hne)

/-- Replacing one changes nothing at other positions. -/
theorem getElem?_middle {α : Type} (quiet rest : List α) (o o' : α) (n : Nat) :
    (quiet ++ o' :: rest)[n]? =
      if quiet.length = n then some o' else (quiet ++ o :: rest)[n]? := by
  have hset : (quiet ++ o :: rest).set quiet.length o' = quiet ++ o' :: rest := by simp
  have hlt : quiet.length < (quiet ++ o :: rest).length := by simp
  rw [← hset, List.getElem?_set, if_pos hlt]

/-- The next round, if changes are queued for anybody: the first observer with queued
changes is given them. -/
def round? (react : Reaction ω) (l : LivePage ω) : Option (LivePage ω × Delivery ω) := do
  let n ← l.observers.findIdx? fun o => !o.pending.isEmpty
  let o ← l.observers[n]?
  let r := react o.state o.pending l.page
  return (⟨l.page.writeAll r.writes,
      l.observers.set n { o with state := r.state, pending := [] }⟩,
    ⟨n, o.pending, l.page, r⟩)

/-- A live page is **quiet** if no changes are queued for anybody. -/
def Quiet (l : LivePage ω) : Prop := ∀ o ∈ l.observers, o.pending = []

/-- A live page is quiet if and only if it does not report queued changes. -/
theorem quiet_iff_hasPending (l : LivePage ω) : l.Quiet ↔ l.hasPending = false := by
  simp [Quiet, hasPending]

/-- There is no next round exactly on a quiet page. -/
theorem round?_eq_none_iff (react : Reaction ω) (l : LivePage ω) :
    l.round? react = none ↔ l.Quiet := by
  rw [round?]
  constructor
  · intro h
    cases hn : l.observers.findIdx? (fun o => !o.pending.isEmpty) with
    | none => simpa [Quiet] using hn
    | some n =>
        obtain ⟨hlt, -⟩ := List.findIdx?_eq_some_iff_getElem.mp hn
        simp [hn, List.getElem?_eq_getElem hlt] at h
  · intro h
    have hn : l.observers.findIdx? (fun o => !o.pending.isEmpty) = none := by
      simpa [Quiet] using h
    simp [hn]

/-- The search finds a round. -/
theorem round_of_round? {l l' : LivePage ω} {d : Delivery ω}
    (h : l.round? react = some (l', d)) : Round react l l' d := by
  obtain ⟨page, observers⟩ := l
  rw [round?] at h
  simp only [bind, Option.bind_eq_some_iff, Option.pure_def, Option.some.injEq,
    Prod.mk.injEq] at h
  obtain ⟨n, hn, o, ho, rfl, rfl⟩ := h
  obtain ⟨hlt, hpending, hquiet⟩ := List.findIdx?_eq_some_iff_getElem.mp hn
  obtain rfl : observers[n] = o := by
    rw [List.getElem?_eq_getElem hlt] at ho
    exact Option.some.inj ho
  have hsplit : observers = observers.take n ++ observers[n] :: observers.drop (n + 1) := by
    simp
  have hlen : (observers.take n).length = n := by simp; omega
  have hq : ∀ q ∈ observers.take n, q.pending = [] := by
    intro q hq
    obtain ⟨j, hj, rfl⟩ := List.mem_take_iff_getElem.mp hq
    simpa using hquiet j (by omega)
  have ho : observers[n].pending ≠ [] := by simpa using hpending
  have := @Round.intro ω react page _ _ (observers.drop (n + 1)) hq ho
  rw [hlen, ← hsplit] at this
  rw [List.set_eq_take_append_cons_drop, if_pos hlt]
  exact this

/-- The search finds exactly the round that is next. -/
theorem round?_eq_some_iff {l l' : LivePage ω} {d : Delivery ω} :
    l.round? react = some (l', d) ↔ Round react l l' d := by
  refine ⟨round_of_round?, fun h => ?_⟩
  cases h with
  | @intro page quiet o rest hq ho =>
      have hn : (quiet ++ o :: rest).findIdx? (fun o => !o.pending.isEmpty) =
          some quiet.length := by
        have hnone : quiet.findIdx? (fun o => !o.pending.isEmpty) = none := by
          simpa using hq
        simp [List.findIdx?_append, hnone, List.findIdx?_cons, ho]
      simp [round?, hn]

/-! ### The pass and the loop -/

/-- The pass leaves observers without queued changes alone. -/
theorem deliverFrom_quiet_append (react : Reaction ω) (n : Nat) (page : Page)
    {quiet : List (Subscription ω)} (rest : List (Subscription ω))
    (hq : ∀ q ∈ quiet, q.pending = []) :
    deliverFrom react n page (quiet ++ rest) =
      (⟨(deliverFrom react (n + quiet.length) page rest).1.page,
        quiet ++ (deliverFrom react (n + quiet.length) page rest).1.observers⟩,
        (deliverFrom react (n + quiet.length) page rest).2) := by
  induction quiet generalizing n with
  | nil => rfl
  | cons q quiet ih =>
      have hpending : q.pending = [] := hq q List.mem_cons_self
      have hrest := ih (n + 1) fun p hp => hq p (List.mem_cons_of_mem q hp)
      have hlen : n + 1 + quiet.length = n + (q :: quiet).length := by
        simp only [List.length_cons]
        omega
      rw [hlen] at hrest
      rw [List.cons_append, deliverFrom, hpending, hrest]
      simp

/-- Nothing is delivered on a quiet page. -/
theorem deliver_of_quiet (react : Reaction ω) {l : LivePage ω} (h : l.Quiet) :
    l.deliver react = (l, []) := by
  have := deliverFrom_quiet_append react 0 l.page [] h
  rw [List.append_nil] at this
  rw [deliver, this]
  simp [deliverFrom]

/-- **A delivery is its first round and the delivery after it.** -/
theorem deliver_of_round {l l' : LivePage ω} {d : Delivery ω} (h : Round react l l' d) :
    l.deliver react = ((l'.deliver react).1, d :: (l'.deliver react).2) := by
  cases h with
  | @intro page quiet o rest hq ho =>
      have hisEmpty : o.pending.isEmpty = false := by simpa using ho
      simp only [deliver]
      rw [deliverFrom_quiet_append react 0 page (o :: rest) hq,
        deliverFrom_quiet_append react 0 _ _ hq]
      simp [deliverFrom, hisEmpty]

/-! ### Induction along the rounds -/

/-- The number of observers for whom changes are queued; every round takes one off. -/
def waiting (l : LivePage ω) : Nat := l.observers.countP fun o => !o.pending.isEmpty

/-- **Every round takes one observer off those that wait**, so that rounds come to an end. -/
theorem waiting_of_round {l l' : LivePage ω} {d : Delivery ω} (h : Round react l l' d) :
    l.waiting = l'.waiting + 1 := by
  cases h with
  | intro page rest hq ho =>
      simp [waiting, ho]
      omega

/-- **Induction along the rounds of a delivery**: the quiet page it ends with, and one
round in front of a delivery. -/
theorem deliver_induction (react : Reaction ω)
    {motive : LivePage ω → LivePage ω × List (Delivery ω) → Prop}
    (quiet : ∀ l, l.Quiet → motive l (l, []))
    (round : ∀ l l' d, Round react l l' d → motive l' (l'.deliver react) →
      motive l ((l'.deliver react).1, d :: (l'.deliver react).2))
    (l : LivePage ω) : motive l (l.deliver react) := by
  -- The list of observers keeps its length; those who wait become fewer.
  induction hn : l.waiting generalizing l with
  | zero =>
      have hl : l.Quiet := by simpa [waiting, Quiet] using hn
      rw [deliver_of_quiet react hl]
      exact quiet l hl
  | succ n ih =>
      cases hr : l.round? react with
      | none =>
          have hl := (round?_eq_none_iff react l).mp hr
          rw [deliver_of_quiet react hl]
          exact quiet l hl
      | some r =>
          obtain ⟨l', d⟩ := r
          have hround := round_of_round? hr
          have hw := waiting_of_round hround
          rw [deliver_of_round hround]
          exact round l l' d hround (ih l' (by omega))

/-- What every round preserves holds after a delivery. -/
theorem deliver_invariant {P : LivePage ω → Prop}
    (hround : ∀ l l' d, Round react l l' d → P l → P l') {l : LivePage ω} (h : P l) :
    P (l.deliver react).1 := by
  have key := deliver_induction react (motive := fun l r => P l → P r.1)
    (fun _ _ hl => hl) (fun l l' d hr ih hl => ih (hround l l' d hr hl))
  exact key l h

/-- What every write to images preserves holds of the page after a delivery. -/
theorem page_deliver_invariant {P : Page → Prop}
    (hwrite : ∀ p ws, P p → P (Page.writeAll p ws)) {l : LivePage ω} (h : P l.page) :
    P (l.deliver react).1.page := by
  refine deliver_invariant (P := fun l' => P l'.page) (fun l₁ l₂ d hr hl => ?_) h
  cases hr with
  | intro page rest hq ho => exact hwrite page _ hl

/-- A delivery leaves no changes queued. -/
theorem quiet_deliver (react : Reaction ω) (l : LivePage ω) :
    (l.deliver react).1.Quiet := by
  induction l using deliver_induction react with
  | quiet l hl => exact hl
  | round l l' d _ ih => exact ih

/-- As many deliveries are made as observers wait. -/
theorem length_deliver (react : Reaction ω) (l : LivePage ω) :
    (l.deliver react).2.length = l.waiting := by
  induction l using deliver_induction react with
  | quiet l hl =>
      have hnone : l.waiting = 0 := by simpa [waiting, Quiet] using hl
      rw [hnone, List.length_nil]
  | round l l' d hr ih => rw [List.length_cons, ih, waiting_of_round hr]

end ThemedPage.LivePage
