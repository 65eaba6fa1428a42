import ThemedPage.Proofs.Restyling
import ThemedPage.Proofs.Run

/-!
# The Crew of a Page

On a live page that has no observers but watchers, the synchronizers whose watchers they are
form its **crew**. Watchers never change sides: what ordinary steps do to a page, they do
under the same crew, and only starting a synchronizer adds to it.

## Main results

* `Synchronizer.crew_run` — ordinary steps keep the crew;
* `Synchronizer.crew_start` — whoever is started comes last.
-/

namespace ThemedPage.Synchronizer

open LivePage

/-- The **crew** of a live page: the synchronizers of its watchers, in the order in which the
watchers came. -/
def crew (l : LivePage Watcher) : List Synchronizer :=
  l.observers.map fun o => o.state.synchronizer

@[simp] theorem crew_ofPage (p : Page) : crew (ofPage p) = [] := rfl

/-- A start puts the synchronizer behind the crew. -/
@[simp] theorem crew_start (s : Synchronizer) (l : LivePage Watcher) :
    crew (s.start id l) = crew l ++ [s] := by
  simp [crew, start, observe, LivePage.writeAll, activate]

theorem crew_queue (l : LivePage Watcher) (name : String) (old : Option String) :
    crew (l.queue name old) = crew l := by
  rw [crew, queue, List.map_map]
  rfl

/-- A round leaves the crew as it is: watchers stay with their synchronizers. -/
theorem crew_of_round {l l' : LivePage Watcher} {d : Delivery Watcher}
    (h : Round Watcher.respond l l' d) : crew l' = crew l := by
  cases h with
  | intro page rest _ _ => simp [crew, Watcher.state_respond]

theorem crew_deliver (l : LivePage Watcher) : crew (l.deliver Watcher.respond).1 = crew l :=
  deliver_invariant (P := fun l' => crew l' = crew l)
    (fun _ _ _ hr h => (crew_of_round hr).trans h) rfl

/-- An ordinary step leaves the crew as it is. -/
theorem crew_step {l : LivePage Watcher} {a : Step Watcher} (ha : Ordinary a) :
    crew (l.step Watcher.respond a).1 = crew l := by
  have hroot := fun name => root_invariant_of_queue (P := fun l' => crew l' = crew l) rfl name
    fun _ old _ => crew_queue _ name old
  cases ha with
  | setRoot name value => exact (hroot name).1 value
  | removeRoot name => exact (hroot name).2
  | addImage a => rfl
  | deliver => exact crew_deliver l

/-- **Ordinary steps keep the crew.** -/
theorem crew_run {l : LivePage Watcher} {steps : List (Step Watcher)}
    (hsteps : ∀ a ∈ steps, Ordinary a) : crew (l.run Watcher.respond steps).1 = crew l :=
  run_invariant (P := fun l' => crew l' = crew l) (fun _ _ ha hl => (crew_step ha).trans hl)
    hsteps rfl

end ThemedPage.Synchronizer
