import Workflow.Bundled.Web
import Workflow.Disk

/-!
The world that bundled and scripted tools act on: a disk, the web, the signal that cancels the work
at hand, and how often each scripted tool was called.
-/
namespace Workflow

structure World where
  disk : Disk
  web : Web
  /-- Whether the signal is set, where the work at hand has one. -/
  signal : Option Bool
  counts : List (Nat × Nat)

namespace World

def fresh (disk : Disk) (web : Web) : World := ⟨disk, web, none, []⟩

/-- Sets the signal, where there is one. -/
def cancel (w : World) : World := { w with signal := w.signal.map fun _ => true }

def isCanceled (w : World) : Bool := w.signal.getD false

/-- How often a tool has been called. -/
def count (w : World) (tool : Nat) : Nat := (w.counts.lookup tool).getD 0

/-- Counts a call of a tool. -/
def tally (tool : Nat) (w : World) : World :=
  { w with counts := (tool, w.count tool + 1) :: w.counts }

end World
end Workflow
