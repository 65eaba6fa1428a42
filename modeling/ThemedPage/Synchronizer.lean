import ThemedPage.LivePage
import ThemedPage.Settings
import ThemedPage.Template

/-!
# Synchronizers and Watchers

A synchronizer keeps the images of a page in step with its theme. Started on a page, it
keeps the source of every image as the image's template, unless it has one, and brings
the sources of themed images in step with the mode of the page's theme. It leaves a
watcher behind, an observer of the theme's attribute that remembers the last theme it
acted on. Given changes, the watcher looks at the theme as it is now and restyles the
images only if that is another one: what the changes themselves say does not matter.

## Main definitions

* `Synchronizer.captures`, `Synchronizer.restyles` — the writes of either step;
* `Synchronizer.activate` — the first pass over a page;
* `Watcher.respond` — the reaction to changes of the root;
* `Synchronizer.start` — the first pass and the watcher, on a live page.
-/

namespace ThemedPage

/-- A **synchronizer**: the themes it knows and its settings. -/
structure Synchronizer where
  /-- The themes and their modes. -/
  table : ThemeTable
  /-- The attributes involved. -/
  settings : Settings
  deriving DecidableEq

/-- A **watcher**: a synchronizer and the theme it acted on last. -/
structure Watcher where
  /-- The synchronizer that left it behind. -/
  synchronizer : Synchronizer
  /-- The theme it acted on last. -/
  last : String
  deriving DecidableEq

namespace Synchronizer

/-- The synchronizer of the common themes and the standard settings. -/
def standard : Synchronizer := ⟨ThemeTable.common, Settings.standard⟩

/-- The synchronizer of usable settings. -/
def ofSettings (settings : Settings) : Except SetupError Synchronizer := do
  settings.checkNames
  return ⟨← settings.table, settings⟩

/-- The theme token of a page; a missing attribute reads as the empty text. -/
def token (s : Synchronizer) (page : Page) : String :=
  s.settings.matching.token ((page.root.get? s.settings.themeAttribute).getD "") s.table

/-- The mode of a theme. -/
def resolve (s : Synchronizer) (theme : String) : Mode := s.table.resolve theme

/-! ### Templates and sources -/

/-- The template that an image is to be given: its source, if it has one and no template
yet. -/
def missingTemplate (s : Synchronizer) (image : Attributes) : Option String :=
  if image.contains s.settings.templateAttribute then none
  else image.get? s.settings.sourceAttribute

/-- The source that an image is to be given in a mode: that of its template, if it is themed
and the image does not show it already. -/
def staleSource (s : Synchronizer) (mode : Mode) (image : Attributes) : Option String := do
  let template ← image.get? s.settings.templateAttribute
  let source ← Template.resolve ⟨template⟩ mode
  if image.get? s.settings.sourceAttribute = some source then none else some source

/-- The writes that keep sources as templates. -/
def captures (s : Synchronizer) (page : Page) : List ImageWrite :=
  Page.updates s.settings.templateAttribute s.missingTemplate 0 page.images

/-- The writes that bring sources in step with a mode. -/
def restyles (s : Synchronizer) (mode : Mode) (page : Page) : List ImageWrite :=
  Page.updates s.settings.sourceAttribute (s.staleSource mode) 0 page.images

/-- The log of writes that bring sources in step. -/
def restyleLog (ws : List ImageWrite) : List LogEntry :=
  ws.map fun w => .restyling w.image w.value

/-! ### The first pass -/

/-- What the first pass over a page does. -/
structure Activation where
  /-- The writes, first those of templates, then those of sources. -/
  writes : List ImageWrite
  /-- The log entries. -/
  log : List LogEntry
  /-- The mode of the page's theme. -/
  mode : Mode
  /-- The watcher that is left behind. -/
  watcher : Watcher
  /-- The changes that the watcher wants. -/
  interest : Interest

/-- The first pass over a page. -/
def activate (s : Synchronizer) (page : Page) : Activation :=
  let theme := s.token page
  let mode := s.resolve theme
  let captures := s.captures page
  let restyles := s.restyles mode (page.writeAll captures)
  { writes := captures ++ restyles
    log := restyleLog restyles ++
      [.initialized theme mode captures.length restyles.length]
    mode := mode
    watcher := ⟨s, theme⟩
    interest := Interest.only s.settings.themeAttribute }

/-- Starts on a live page: the first pass, and the watcher as an observer. Observers may be
of any kind that has watchers among them. -/
def start {ω : Type} (asObserver : Watcher → ω) (s : Synchronizer) (l : LivePage ω) :
    LivePage ω :=
  let a := s.activate l.page
  (l.writeAll a.writes).observe a.interest (asObserver a.watcher)

end Synchronizer

/-- The reaction of a watcher. -/
def Watcher.respond : Reaction Watcher := fun w changes page =>
  let s := w.synchronizer
  let theme := s.token page
  if theme = w.last then { state := w, log := [.unchanged changes.length theme] }
  else
    let mode := s.resolve theme
    let restyles := s.restyles mode page
    { state := ⟨s, theme⟩
      writes := restyles
      log := Synchronizer.restyleLog restyles ++ [.changed w.last theme mode restyles.length] }

end ThemedPage
