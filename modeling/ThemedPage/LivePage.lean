import ThemedPage.Change
import ThemedPage.LogEntry
import ThemedPage.Page

/-!
# Live Pages

A live page is a page whose root is observed. Changes of the root are queued for every
observer that is interested, and nothing happens until they are delivered: then each
observer with queued changes is given all of them at once, in the order in which the
observers came.

What an observer does with its changes is a **response**: a state to go on with, writes to
images and log entries. It is computed by a `Reaction` from the observer's state, the
changes and the page as it then is. Observers can neither change the root nor queue
anything, so one pass over the observers delivers everything.

Observers are known by their position, counted from zero, and stay as long as the page.

## Main definitions

* `LivePage.setRoot`, `LivePage.removeRoot` — changes of the root, queued for observers;
* `LivePage.observe` — a further observer;
* `LivePage.deliver` — the delivery of all queued changes, told as a list of `Delivery`.
-/

namespace ThemedPage

/-- What an observer does when it is given changes. -/
structure Response (ω : Type) where
  /-- Its state from then on. -/
  state : ω
  /-- Its writes, in order. -/
  writes : List ImageWrite := []
  /-- Its log entries, in order. -/
  log : List LogEntry := []

/-- How observers of a kind respond to changes. -/
abbrev Reaction (ω : Type) := ω → List Change → Page → Response ω

/-- An observer's place on a live page. -/
structure Subscription (ω : Type) where
  /-- The changes it wants. -/
  interest : Interest
  /-- Its state. -/
  state : ω
  /-- The changes queued for it, in order. -/
  pending : List Change := []

/-- A **live page**. -/
structure LivePage (ω : Type) where
  /-- The page as it is. -/
  page : Page
  /-- The observers, in the order in which they came. -/
  observers : List (Subscription ω) := []

/-- A **delivery**: one observer is given its changes. -/
structure Delivery (ω : Type) where
  /-- The position of the observer. -/
  observer : Nat
  /-- The changes it is given. -/
  changes : List Change
  /-- The page as it finds it. -/
  found : Page
  /-- What it does. -/
  response : Response ω

/-- The log entries of a delivery. -/
def Delivery.log {ω : Type} (d : Delivery ω) : List LogEntry :=
  .delivering d.observer d.changes.length :: d.response.log

namespace LivePage

variable {ω : Type}

/-- A live page without observers. -/
def ofPage (page : Page) : LivePage ω := { page }

/-! ### Changes of the root -/

/-- Queues a change for every observer that wants it. -/
def queue (l : LivePage ω) (name : String) (old : Option String) : LivePage ω :=
  { l with
    observers := l.observers.map fun s =>
      { s with pending := s.pending ++ s.interest.changes name old } }

/-- Sets an attribute of the root. It is a change even if the value stays the same. -/
def setRoot (l : LivePage ω) (name value : String) : LivePage ω :=
  queue { l with page := { l.page with root := l.page.root.insert name value } } name
    (l.page.root.get? name)

/-- Removes an attribute of the root. It is no change if there is none. -/
def removeRoot (l : LivePage ω) (name : String) : LivePage ω :=
  match l.page.root.get? name with
  | some old =>
    queue { l with page := { l.page with root := l.page.root.erase name } } name (some old)
  | none => l

/-- Gives the root an attribute from the beginning: nobody is told. -/
def withRoot (l : LivePage ω) (name value : String) : LivePage ω :=
  { l with page := { l.page with root := l.page.root.insert name value } }

/-! ### Images and observers -/

/-- Adds an image behind the others. -/
def addImage (l : LivePage ω) (attributes : Attributes) : LivePage ω :=
  { l with page := l.page.addImage attributes }

/-- Carries out writes to images. -/
def writeAll (l : LivePage ω) (ws : List ImageWrite) : LivePage ω :=
  { l with page := l.page.writeAll ws }

/-- The position that the next observer will have. -/
def nextObserver (l : LivePage ω) : Nat := l.observers.length

/-- Adds an observer behind the others. -/
def observe (l : LivePage ω) (interest : Interest) (state : ω) : LivePage ω :=
  { l with observers := l.observers ++ [{ interest, state }] }

/-! ### Delivery -/

/-- Whether changes are queued for anybody. -/
def hasPending (l : LivePage ω) : Bool := l.observers.any fun s => !s.pending.isEmpty

/-- Delivers to observers in order, the first of them at a given position. -/
def deliverFrom (react : Reaction ω) :
    Nat → Page → List (Subscription ω) → LivePage ω × List (Delivery ω)
  | _, page, [] => (⟨page, []⟩, [])
  | n, page, s :: rest =>
    if s.pending.isEmpty then
      let (l, ds) := deliverFrom react (n + 1) page rest
      (⟨l.page, s :: l.observers⟩, ds)
    else
      let r := react s.state s.pending page
      let (l, ds) := deliverFrom react (n + 1) (page.writeAll r.writes) rest
      (⟨l.page, { s with state := r.state, pending := [] } :: l.observers⟩,
        ⟨n, s.pending, page, r⟩ :: ds)

/-- Delivers all queued changes. -/
def deliver (react : Reaction ω) (l : LivePage ω) : LivePage ω × List (Delivery ω) :=
  deliverFrom react 0 l.page l.observers

/-! ### Dumps -/

/-- The text of a live page in a dump. -/
def text (l : LivePage ω) : String :=
  "MemoryDocument \x7b root: " ++ Page.attributesText l.page.root ++ ", images: [" ++
    ", ".intercalate (l.page.images.map Page.attributesText) ++ "], observers: " ++
    toString l.observers.length ++ " \x7d"

end LivePage

end ThemedPage
