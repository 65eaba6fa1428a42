import ThemedPage.Proofs.Restyling
import ThemedPage.Proofs.Run

/-!
# Watchers among Guests

On a live page the watchers that synchronizers leave behind are observers among others.
Here an observer is a watcher or a **guest**, of whom nothing is known but a reaction of
the guests' kind; what guests are allowed to do is a condition on that reaction.

A run with synchronizers is a list of **calls**: the steps of any run, and what the owner
of a synchronizer can do with it at any time.

## Main definitions

* `Observer.react` — the reaction of watchers and guests;
* `Reaction.ReadsOnly`, `Reaction.WritesOnly` — guests that write nothing, and guests that
  write only some attributes;
* `LivePage.calls` — what a list of calls makes of a live page.
-/

namespace ThemedPage

/-- An **observer** of a page: a watcher or a guest. -/
inductive Observer (ω : Type) where
  /-- A watcher that a synchronizer left behind. -/
  | watcher (w : Watcher)
  /-- Somebody else. -/
  | guest (state : ω)

namespace Observer

variable {ω : Type}

/-- The reaction of watchers and guests. -/
def react (guests : Reaction ω) : Reaction (Observer ω)
  | watcher w, changes, page =>
    let r := w.respond changes page
    { state := watcher r.state, writes := r.writes, log := r.log }
  | guest g, changes, page =>
    let r := guests g changes page
    { state := guest r.state, writes := r.writes, log := r.log }

/-- Whether an observer is a watcher. -/
def isWatcher : Observer ω → Bool
  | watcher _ => true
  | guest _ => false

/-- Watchers stay watchers, and guests stay guests. -/
@[simp] theorem isWatcher_react (guests : Reaction ω) (o : Observer ω)
    (changes : List Change) (page : Page) :
    (react guests o changes page).state.isWatcher = o.isWatcher := by
  cases o <;> rfl

/-- Watchers stay watchers of their synchronizer. -/
theorem eq_watcher_of_react {guests : Reaction ω} {o : Observer ω} {changes : List Change}
    {page : Page} {w : Watcher} (h : (react guests o changes page).state = watcher w) :
    ∃ v, o = watcher v ∧ w.synchronizer = v.synchronizer := by
  cases o with
  | guest g => cases h
  | watcher v =>
      obtain rfl : (v.respond changes page).state = w := watcher.inj h
      exact ⟨v, rfl, by rw [Watcher.state_respond]⟩

end Observer

namespace Reaction

variable {ω : Type}

/-- Guests that **only read** write nothing. -/
def ReadsOnly (guests : Reaction ω) : Prop :=
  ∀ g changes page, (guests g changes page).writes = []

/-- Guests that **write only** some attributes write no others. -/
def WritesOnly (guests : Reaction ω) (names : String → Prop) : Prop :=
  ∀ g changes page, ∀ w ∈ (guests g changes page).writes, names w.name

end Reaction

/-- A **call** of a run with synchronizers. -/
inductive Call (ω : Type) where
  /-- A step of any run. -/
  | page (a : LivePage.Step (Observer ω))
  /-- Sources are kept as templates. -/
  | capture (s : Synchronizer)
  /-- Sources are brought in step with a mode. -/
  | restyle (s : Synchronizer) (mode : Mode)
  /-- A synchronizer is started. -/
  | start (s : Synchronizer)
  /-- A watcher is given changes, true or not, by somebody who keeps it. -/
  | notify (w : Watcher) (changes : List Change)

/-- Whether a call starts a synchronizer. -/
def Call.isStart {ω : Type} : Call ω → Bool
  | start _ => true
  | _ => false

namespace LivePage

variable {ω : Type}

/-- What a call makes of a live page. -/
def call (guests : Reaction ω) (l : LivePage (Observer ω)) : Call ω → LivePage (Observer ω)
  | .page a => (l.step (Observer.react guests) a).1
  | .capture s => l.writeAll (s.captures l.page)
  | .restyle s mode => l.writeAll (s.restyles mode l.page)
  | .start s => s.start .watcher l
  | .notify w changes => l.writeAll (w.respond changes l.page).writes

/-- What a list of calls makes of a live page. -/
def calls (guests : Reaction ω) (l : LivePage (Observer ω)) (cs : List (Call ω)) :
    LivePage (Observer ω) :=
  cs.foldl (call guests) l

/-- Calls and then others are made one list after the other. -/
theorem calls_append (guests : Reaction ω) (l : LivePage (Observer ω)) (cs ds : List (Call ω)) :
    l.calls guests (cs ++ ds) = (l.calls guests cs).calls guests ds := by
  simp [calls]

/-- What every admitted call preserves holds at the end of a list of admitted calls. -/
theorem calls_invariant {guests : Reaction ω} {P : LivePage (Observer ω) → Prop}
    {Admitted : Call ω → Prop} (hcall : ∀ l c, Admitted c → P l → P (l.call guests c))
    {cs : List (Call ω)} (hcs : ∀ c ∈ cs, Admitted c) {l : LivePage (Observer ω)} (h : P l) :
    P (l.calls guests cs) := by
  induction cs generalizing l with
  | nil => exact h
  | cons c cs ih =>
      have hc : Admitted c := hcs c List.mem_cons_self
      exact ih (fun d hd => hcs d (List.mem_cons_of_mem c hd)) (hcall l c hc h)

/-! ### Who is there -/

/-- A live page whose observers are all guests. -/
def HasOnlyGuests (l : LivePage (Observer ω)) : Prop :=
  ∀ o ∈ l.observers, ∃ g, o.state = .guest g

/-- A page to which nobody has come yet is one of guests. -/
theorem hasOnlyGuests_ofPage (p : Page) : HasOnlyGuests (ω := ω) (ofPage p) :=
  fun _ ho => absurd ho List.not_mem_nil

/-- A page of guests stays one when a guest comes. -/
theorem HasOnlyGuests.observe {l : LivePage (Observer ω)} (h : l.HasOnlyGuests)
    (interest : Interest) (g : ω) : (l.observe interest (.guest g)).HasOnlyGuests := by
  intro o ho
  rcases List.mem_append.mp ho with ho | ho
  · exact h o ho
  · rw [List.mem_singleton.mp ho]
    exact ⟨g, rfl⟩

/-- For every observer whether it is a watcher. -/
def watchers (l : LivePage (Observer ω)) : List Bool :=
  l.observers.map fun o => o.state.isWatcher

/-- A round leaves watchers watchers and guests guests. -/
theorem watchers_of_round {guests : Reaction ω} {l l' : LivePage (Observer ω)}
    {d : Delivery (Observer ω)} (h : Round (Observer.react guests) l l' d) :
    l'.watchers = l.watchers := by
  cases h with
  | intro page rest _ _ => simp [watchers]

@[simp] theorem watchers_queue (l : LivePage (Observer ω)) (name : String)
    (old : Option String) : (l.queue name old).watchers = l.watchers := by
  simp [watchers, queue]

/-- An observer that comes is the last of the watchers if it is one. -/
@[simp] theorem watchers_observe (l : LivePage (Observer ω)) (interest : Interest)
    (o : Observer ω) : (l.observe interest o).watchers = l.watchers ++ [o.isWatcher] := by
  simp [watchers, observe]

/-- A live page with a watcher at a given position, if anywhere. -/
def OnlyWatcherAt (n : Nat) (l : LivePage (Observer ω)) : Prop :=
  ∀ k, l.watchers[k]? = some true → k = n

/-- The changes queued for the observer at a position. -/
def pendingAt (l : LivePage ω) (n : Nat) : List Change :=
  (l.observers[n]?.map Subscription.pending).getD []

/-- On a quiet page nothing is queued at any position. -/
theorem pendingAt_of_quiet {l : LivePage ω} (h : l.Quiet) (n : Nat) : l.pendingAt n = [] := by
  rw [pendingAt]
  cases ho : l.observers[n]? with
  | none => rfl
  | some o => exact h o (List.mem_of_getElem? ho)

/-- The state of the observer at a position. -/
def stateAt? (l : LivePage ω) (n : Nat) : Option ω := l.observers[n]?.map Subscription.state

@[simp] theorem stateAt?_queue (l : LivePage ω) (name : String) (old : Option String) (n : Nat) :
    (l.queue name old).stateAt? n = l.stateAt? n := by
  simp only [stateAt?, queue, List.getElem?_map, Option.map_map]
  rfl

/-- Further observers come behind those who are there. -/
theorem stateAt?_observe {l : LivePage ω} {n : Nat} {state : ω} (h : l.stateAt? n = some state)
    (interest : Interest) (o : ω) : (l.observe interest o).stateAt? n = some state := by
  obtain ⟨q, hq, rfl⟩ := Option.map_eq_some_iff.mp h
  have hlt : n < l.observers.length := (List.getElem?_eq_some_iff.mp hq).1
  rw [stateAt?, observe, List.getElem?_append_left hlt, hq, Option.map_some]

/-- A round changes the state of one observer. -/
theorem stateAt?_round {react : Reaction ω} {l l' : LivePage ω} {d : Delivery ω}
    (h : Round react l l' d) (n : Nat) :
    l'.stateAt? n = if d.observer = n then some d.response.state else l.stateAt? n := by
  cases h with
  | @intro page quiet o rest _ _ =>
      rw [stateAt?, getElem?_middle quiet rest o, apply_ite (Option.map Subscription.state)]
      rfl

/-- The observer of a round responds to the page as it finds it, and its writes are carried
out. -/
theorem response_of_round {react : Reaction ω} {l l' : LivePage ω} {d : Delivery ω}
    (h : Round react l l' d) :
    d.found = l.page ∧ l'.page = l.page.writeAll d.response.writes ∧
      ∃ state, l.stateAt? d.observer = some state ∧
        d.response = react state d.changes l.page := by
  cases h with
  | @intro page quiet o rest _ _ => exact ⟨rfl, rfl, o.state, by simp [stateAt?], rfl⟩

/-- Nothing is queued for those before the observer of a round. -/
theorem pendingAt_of_round {react : Reaction ω} {l l' : LivePage ω} {d : Delivery ω}
    (h : Round react l l' d) {n : Nat} (hn : n < d.observer) : l.pendingAt n = [] := by
  cases h with
  | @intro page quiet o rest hq _ =>
      have hlt : n < quiet.length := hn
      rw [pendingAt, List.getElem?_append_left hlt, List.getElem?_eq_getElem hlt]
      exact hq _ (List.getElem_mem hlt)

/-- Whether there is a watcher at a position is told by the state there. -/
theorem getElem?_watchers (l : LivePage (Observer ω)) (n : Nat) :
    l.watchers[n]? = (l.stateAt? n).map Observer.isWatcher := by
  rw [watchers, stateAt?, List.getElem?_map, Option.map_map]
  rfl

/-- Whoever comes to a page of guests can be its only watcher. -/
theorem HasOnlyGuests.onlyWatcherAt_observe {l : LivePage (Observer ω)} (h : l.HasOnlyGuests)
    (interest : Interest) (o : Observer ω) :
    (l.observe interest o).OnlyWatcherAt l.nextObserver := by
  intro k hk
  rw [watchers_observe, List.getElem?_append] at hk
  split at hk
  · obtain ⟨q, hq, hw⟩ := List.mem_map.mp (List.mem_of_getElem? hk)
    obtain ⟨g, hg⟩ := h q hq
    rw [hg] at hw
    cases hw
  · rename_i hle
    have hlen : k < l.nextObserver + 1 := by
      have := (List.getElem?_eq_some_iff.mp hk).1
      simp [watchers, nextObserver] at this ⊢
      omega
    simp only [watchers, nextObserver, List.length_map] at hle hlen ⊢
    omega

/-- A further guest is no watcher anywhere. -/
theorem OnlyWatcherAt.observe {n : Nat} {l : LivePage (Observer ω)} (h : l.OnlyWatcherAt n)
    (interest : Interest) (g : ω) : (l.observe interest (.guest g)).OnlyWatcherAt n := by
  intro k hk
  rw [watchers_observe, List.getElem?_append] at hk
  split at hk
  · exact h k hk
  · rw [List.getElem?_singleton] at hk
    split at hk
    · cases hk
    · cases hk

/-- If no changes are queued at the only position of a watcher, none are for any watcher. -/
theorem OnlyWatcherAt.pending_eq_nil {n : Nat} {l : LivePage (Observer ω)}
    (h : l.OnlyWatcherAt n) (hn : l.pendingAt n = []) {o : Subscription (Observer ω)}
    (ho : o ∈ l.observers) (hw : o.state.isWatcher = true) : o.pending = [] := by
  obtain ⟨k, hk⟩ := List.mem_iff_getElem?.mp ho
  obtain rfl : k = n := h k (by simp [watchers, hk, hw])
  simpa [pendingAt, hk] using hn

end LivePage

end ThemedPage
