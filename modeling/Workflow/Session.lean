import Workflow.Journal
import Workflow.Schema

/-!
A session: what an engine's operations read and change. It holds the state of the tools' world, the
schemas learned so far, and the journal, to which entries are added at the end: `journal_note`.
-/
namespace Workflow

structure Session (σ : Type) where
  world : σ
  learned : List (String × Schema)
  /-- The entries of the journal, the latest first. -/
  recent : List Entry

namespace Session

variable {σ : Type}

/-- A session whose journal has some entries and that has learned nothing. -/
def opening (world : σ) (entries : List Entry) : Session σ := ⟨world, [], entries.reverse⟩

/-- The entries in order. -/
def journal (s : Session σ) : List Entry := s.recent.reverse

def note (entry : Entry) (s : Session σ) : Session σ := { s with recent := entry :: s.recent }

@[simp]
theorem journal_opening (world : σ) (entries : List Entry) :
    (opening world entries).journal = entries := by
  simp [journal, opening]

@[simp]
theorem journal_note (entry : Entry) (s : Session σ) :
    (s.note entry).journal = s.journal ++ [entry] := by
  simp [journal, note]

/-- The same session with an empty journal. -/
def withoutJournal (s : Session σ) : Session σ := { s with recent := [] }

/-- Runs something on the world alone. -/
def act {α : Type} (step : σ → α × σ) (s : Session σ) : α × Session σ :=
  let (result, world) := step s.world
  (result, { s with world })

def calls (s : Session σ) : List (String × Value) := s.journal.filterMap Entry.call?

def log (s : Session σ) : List LogLine := s.journal.filterMap Entry.line?

end Session
end Workflow
