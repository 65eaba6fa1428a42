import ThemedPage.Proofs.Run

/-!
# The History of an Observer

Everything that happens to the root of a live page is a list, the **root changes** of a run,
read off the steps and the root as each step finds it. Of an observer there are two lists
to set against it: what it has been given in deliveries, and what is still queued for it.
This module shows that the two together are the account of the root changes since the
observer came, filtered and worded as its interest asks.

## Main results

* `LivePage.run_account` — over any run, what an observer is given followed by its queue
  is its old queue followed by its account of the run;
* `LivePage.received_append_pending` — for an observer that came during the run, the whole
  account since then, in batches of which none is empty.
-/

namespace ThemedPage

/-- A **root change**: the attribute, and its value immediately before. -/
structure RootChange where
  /-- The attribute that was set or removed. -/
  name : String
  /-- Its value before, if it had one. -/
  before : Option String
  deriving DecidableEq

namespace Interest

/-- An attribute is **wanted** if attributes are, and the filter, if there is one, lists
it. -/
def Wants (i : Interest) (name : String) : Prop :=
  i.attributes = true ∧ ∀ names, i.filter = some names → name ∈ names

/-- An interest covers the attributes that are wanted. -/
theorem covers_iff_wants (i : Interest) (name : String) :
    i.covers name = true ↔ i.Wants name := by
  rw [covers, Wants]
  cases i.filter with
  | none => simp
  | some names => simp

instance (i : Interest) (name : String) : Decidable (i.Wants name) :=
  decidable_of_iff _ (i.covers_iff_wants name)

/-- The **account** of root changes for somebody of an interest: one record for each that
is wanted, with the value before if values are. -/
def account (i : Interest) (cs : List RootChange) : List Change :=
  (cs.filter fun c => i.Wants c.name).map fun c =>
    ⟨some c.name, if i.oldValue then c.before else none⟩

@[simp] theorem account_nil (i : Interest) : i.account [] = [] := rfl

/-- The account of changes and then others is the one account behind the other. -/
theorem account_append (i : Interest) (cs ds : List RootChange) :
    i.account (cs ++ ds) = i.account cs ++ i.account ds := by
  simp [account]

/-- What is queued for one change is the account of it. -/
theorem changes_eq_account (i : Interest) (name : String) (old : Option String) :
    i.changes name old = i.account [⟨name, old⟩] := by
  rw [changes, account]
  by_cases h : i.Wants name
  · have hc : i.covers name = true := (i.covers_iff_wants name).mpr h
    simp [h, hc]
  · have hc : ¬i.covers name = true := fun hc => h ((i.covers_iff_wants name).mp hc)
    simp [h, hc]

/-- There is one record for each change that is wanted, however often the filter lists its
attribute. -/
theorem length_account (i : Interest) (cs : List RootChange) :
    (i.account cs).length = cs.countP fun c => i.Wants c.name := by
  rw [account, List.length_map, List.countP_eq_length_filter]

end Interest

namespace LivePage

variable {ω : Type}

/-! ### Root changes -/

/-- The root changes of a step, on a page with a given root. -/
def Step.rootChanges (root : Attributes) : Step ω → List RootChange
  | .setRoot name _ => [⟨name, root.get? name⟩]
  | .removeRoot name =>
    match root.get? name with
    | some value => [⟨name, some value⟩]
    | none => []
  | _ => []

/-- The **root changes** of a run, in order; each tells the value that the root had when
the step was done. -/
def rootChanges (react : Reaction ω) (l : LivePage ω) : List (Step ω) → List RootChange
  | [] => []
  | a :: as => a.rootChanges l.page.root ++ rootChanges react (l.step react a).1 as

/-- The changes that the observer at a position is given in deliveries, in order. -/
def received (n : Nat) (ds : List (Delivery ω)) : List Change :=
  (ds.filter fun d => d.observer = n).flatMap Delivery.changes

@[simp] theorem received_nil (n : Nat) : received n ([] : List (Delivery ω)) = [] := rfl

/-- What an observer is given in deliveries and then others is the one behind the other. -/
theorem received_append (n : Nat) (ds es : List (Delivery ω)) :
    received n (ds ++ es) = received n ds ++ received n es := by
  simp [received]

/-! ### The account of an observer -/

/-- The observer at a position **accounts** for root changes between two live pages: it
stays, and what it is given followed by its queue is its old queue followed by its account
of them. -/
def Accounts (n : Nat) (o : Subscription ω) (cs : List RootChange)
    (r : LivePage ω × List (Delivery ω)) : Prop :=
  ∃ o', r.1.observers[n]? = some o' ∧ o'.interest = o.interest ∧
    received n r.2 ++ o'.pending = o.pending ++ o.interest.account cs

/-- Where nothing happens, there is nothing to account for. -/
theorem accounts_nil {n : Nat} {o : Subscription ω} {l : LivePage ω}
    (h : l.observers[n]? = some o) : Accounts n o [] (l, []) :=
  ⟨o, h, rfl, by simp⟩

/-- Accounts of consecutive changes follow one another. -/
theorem Accounts.trans {n : Nat} {o : Subscription ω} {cs cs' : List RootChange}
    {r : LivePage ω × List (Delivery ω)} {l : LivePage ω} {ds : List (Delivery ω)}
    (h : Accounts n o cs r)
    (h' : ∀ o', r.1.observers[n]? = some o' → Accounts n o' cs' (l, ds)) :
    Accounts n o (cs ++ cs') (l, r.2 ++ ds) := by
  obtain ⟨o', ho', hi', hc'⟩ := h
  obtain ⟨o'', ho'', hi'', hc''⟩ := h' o' ho'
  refine ⟨o'', ho'', hi''.trans hi', ?_⟩
  rw [received_append, List.append_assoc, hc'', ← List.append_assoc, hc', hi',
    Interest.account_append, List.append_assoc]

/-- A round gives one observer its queue and leaves all others alone. -/
theorem accounts_of_round {react : Reaction ω} {l l' : LivePage ω} {d : Delivery ω} {n : Nat}
    {o : Subscription ω} (h : Round react l l' d) (ho : l.observers[n]? = some o) :
    Accounts n o [] (l', [d]) := by
  cases h with
  | @intro page quiet q rest _ _ =>
      rw [Accounts, getElem?_middle quiet rest q]
      by_cases hn : quiet.length = n
      · subst hn
        obtain rfl : q = o := by simpa using ho
        rw [if_pos rfl]
        exact ⟨_, rfl, rfl, by simp [received]⟩
      · rw [if_neg hn]
        exact ⟨o, ho, rfl, by simp [received, hn]⟩

/-- A delivery is no root change: what an observer is given is what was queued for it. -/
theorem accounts_deliver (react : Reaction ω) {l : LivePage ω} {n : Nat}
    {o : Subscription ω} (ho : l.observers[n]? = some o) :
    Accounts n o [] (l.deliver react) := by
  induction l using deliver_induction react generalizing o with
  | quiet l _ => exact accounts_nil ho
  | round l l' d hr ih =>
      have hd := accounts_of_round hr ho
      exact hd.trans (fun o' ho' => ih ho')

/-- A change that is queued is accounted for in the queue of everybody who wants it. -/
theorem accounts_queue {l : LivePage ω} {n : Nat} {o : Subscription ω}
    (ho : l.observers[n]? = some o) (name : String) (old : Option String) :
    Accounts n o [⟨name, old⟩] (l.queue name old, []) := by
  refine ⟨{ o with pending := o.pending ++ o.interest.changes name old }, ?_, rfl, ?_⟩
  · simp [queue, ho]
  · simp [Interest.changes_eq_account]

/-- Over any step, an observer accounts for the root changes of the step. -/
theorem step_accounts (react : Reaction ω) {l : LivePage ω} {n : Nat} {o : Subscription ω}
    (ho : l.observers[n]? = some o) (a : Step ω) :
    Accounts n o (a.rootChanges l.page.root) (l.step react a) := by
  cases a with
  | setRoot name value => exact accounts_queue ho name _
  | removeRoot name =>
      rcases l.removeRoot_cases name with ⟨hget, h⟩ | ⟨old, hget, h⟩
      · rw [Step.rootChanges, step, hget, h]
        exact accounts_nil ho
      · rw [Step.rootChanges, step, hget, h]
        exact accounts_queue ho name (some old)
  | withRoot name value => exact accounts_nil ho
  | addImage attributes => exact accounts_nil ho
  | write w => exact accounts_nil ho
  | observe interest state =>
      have hn : n < l.observers.length := (List.getElem?_eq_some_iff.mp ho).1
      refine ⟨o, ?_, rfl, by simp [step, Step.rootChanges]⟩
      simpa [step, observe, List.getElem?_append_left hn] using ho
  | round =>
      simp only [Step.rootChanges, step]
      cases hr : l.round? react with
      | none => exact accounts_nil ho
      | some r => exact accounts_of_round (round_of_round? hr) ho
  | deliver => exact accounts_deliver react ho

/-- **Over any run, an observer accounts for the root changes of the run.** -/
theorem run_account (react : Reaction ω) {l : LivePage ω} {n : Nat} {o : Subscription ω}
    (ho : l.observers[n]? = some o) (steps : List (Step ω)) :
    Accounts n o (rootChanges react l steps) (l.run react steps) := by
  induction steps generalizing l o with
  | nil => exact accounts_nil ho
  | cons a as ih =>
      have ha := step_accounts react ho a
      exact ha.trans (fun o' ho' => ih ho')

/-! ### Whom deliveries go to -/

/-- Deliveries are **proper** on a live page if every one has changes and goes to somebody
who is there. -/
def Proper (r : LivePage ω × List (Delivery ω)) : Prop :=
  ∀ d ∈ r.2, d.changes ≠ [] ∧ d.observer < r.1.nextObserver

/-- In a round nobody comes, and somebody who is there is given some changes. -/
theorem nextObserver_of_round {react : Reaction ω} {l l' : LivePage ω} {d : Delivery ω}
    (h : Round react l l' d) :
    l'.nextObserver = l.nextObserver ∧ d.changes ≠ [] ∧ d.observer < l.nextObserver := by
  cases h with
  | intro page rest hq ho =>
      refine ⟨by simp [nextObserver], ho, ?_⟩
      simp [nextObserver]

/-- In a delivery nobody comes, and its rounds are proper. -/
theorem nextObserver_deliver (react : Reaction ω) (l : LivePage ω) :
    (l.deliver react).1.nextObserver = l.nextObserver ∧ Proper (l.deliver react) := by
  induction l using deliver_induction react with
  | quiet l _ => exact ⟨rfl, by simp [Proper]⟩
  | round l l' d hr ih =>
      obtain ⟨hn, hc, hlt⟩ := nextObserver_of_round hr
      obtain ⟨hn', hp⟩ := ih
      refine ⟨hn'.trans hn, fun e he => ?_⟩
      rcases List.mem_cons.mp he with rfl | he
      · have hlt' : e.observer < (l'.deliver react).1.nextObserver := by omega
        exact ⟨hc, hlt'⟩
      · exact hp e he

/-- Steps take no observer away, and their deliveries are proper. -/
theorem nextObserver_step (react : Reaction ω) (l : LivePage ω) (a : Step ω) :
    l.nextObserver ≤ (l.step react a).1.nextObserver ∧ Proper (l.step react a) := by
  cases a with
  | setRoot name value =>
      exact ⟨by simp [step, setRoot, queue, nextObserver], by simp [step, Proper]⟩
  | removeRoot name =>
      rcases l.removeRoot_cases name with ⟨-, h⟩ | ⟨old, -, h⟩
      · rw [step, h]
        exact ⟨Nat.le_refl _, by simp [Proper]⟩
      · rw [step, h]
        exact ⟨by simp [queue, nextObserver], by simp [Proper]⟩
  | withRoot name value => exact ⟨Nat.le_refl _, by simp [step, Proper]⟩
  | addImage attributes => exact ⟨Nat.le_refl _, by simp [step, Proper]⟩
  | write w => exact ⟨Nat.le_refl _, by simp [step, Proper]⟩
  | observe interest state =>
      exact ⟨by simp [step, observe, nextObserver], by simp [step, Proper]⟩
  | round =>
      simp only [step]
      cases hr : l.round? react with
      | none => exact ⟨Nat.le_refl _, by simp [Proper]⟩
      | some r =>
          obtain ⟨hn, hc, hlt⟩ := nextObserver_of_round (round_of_round? hr)
          refine ⟨Nat.le_of_eq hn.symm, ?_⟩
          simp only [Proper, List.mem_singleton, forall_eq]
          exact ⟨hc, by omega⟩
  | deliver =>
      obtain ⟨hn, hp⟩ := nextObserver_deliver react l
      exact ⟨Nat.le_of_eq hn.symm, hp⟩

/-- Runs take no observer away, and their deliveries are proper. -/
theorem nextObserver_run (react : Reaction ω) (l : LivePage ω) (steps : List (Step ω)) :
    l.nextObserver ≤ (l.run react steps).1.nextObserver ∧ Proper (l.run react steps) := by
  induction steps generalizing l with
  | nil => exact ⟨Nat.le_refl _, by simp [Proper]⟩
  | cons a as ih =>
      obtain ⟨hle, hp⟩ := nextObserver_step react l a
      obtain ⟨hle', hp'⟩ := ih (l.step react a).1
      refine ⟨Nat.le_trans hle hle', fun d hd => ?_⟩
      rcases List.mem_append.mp hd with hd | hd
      · obtain ⟨hc, hlt⟩ := hp d hd
        exact ⟨hc, Nat.lt_of_lt_of_le hlt hle'⟩
      · exact hp' d hd

/-- Nothing is given to an observer before it comes. -/
theorem received_of_proper {r : LivePage ω × List (Delivery ω)} (h : Proper r) :
    received r.1.nextObserver r.2 = [] := by
  have hnone : r.2.filter (fun d => d.observer = r.1.nextObserver) = [] := by
    rw [List.filter_eq_nil_iff]
    intro d hd
    have := (h d hd).2
    simp only [decide_eq_true_eq]
    omega
  rw [received, hnone, List.flatMap_nil]

/-- **No change is lost, doubled, reordered or made up.** In a run from the beginning of a
live page, what an observer has been given followed by what is queued for it is the account
of the root changes since it came, one record for each change that its interest wants; and
nobody is ever given an empty batch. -/
theorem received_append_pending (react : Reaction ω) (page : Page)
    (before after : List (Step ω)) (interest : Interest) (state : ω) :
    let l := ((ofPage page).run react before).1
    let n := l.nextObserver
    let r := (ofPage page).run react (before ++ .observe interest state :: after)
    let cs := rootChanges react (l.observe interest state) after
    (∃ o, r.1.observers[n]? = some o ∧ o.interest = interest ∧
      received n r.2 ++ o.pending =
        (cs.filter fun c => interest.Wants c.name).map (fun c =>
          ⟨some c.name, if interest.oldValue then c.before else none⟩) ∧
      (received n r.2 ++ o.pending).length = cs.countP fun c => interest.Wants c.name) ∧
    ∀ d ∈ r.2, d.changes ≠ [] := by
  intro l n r cs
  have hr : r = ((l.observe interest state).run react after |>.1,
      ((ofPage page).run react before).2 ++
        ((l.observe interest state).run react after).2) := by
    simp only [r, run_append, run_cons, step, List.nil_append]
    rfl
  have hn : (l.observe interest state).observers[n]? = some { interest, state } := by
    simp [observe, n, nextObserver]
  obtain ⟨o, ho, hi, hc⟩ := run_account react hn after
  have hearlier : received n ((ofPage page).run react before).2 = [] :=
    received_of_proper (nextObserver_run react (ofPage page) before).2
  have hall : received n r.2 ++ o.pending = interest.account cs := by
    rw [hr, received_append, hearlier, List.nil_append, hc]
    rfl
  refine ⟨⟨o, by rw [hr]; exact ho, hi, hall, ?_⟩, fun d hd => ?_⟩
  · rw [hall, Interest.length_account]
  · exact ((nextObserver_run react (ofPage page) _).2 d hd).1

end LivePage

end ThemedPage
