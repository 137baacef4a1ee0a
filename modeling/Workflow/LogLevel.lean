import Workflow.Text.Case
import Workflow.Value.Display

/-!
The level of the log. A level is a number or a name in any case; the first level that is set also
installs the handler that prints the log.
-/
namespace Workflow

def levelNames : List (String × Int) := [
  ("CRITICAL", 50), ("FATAL", 50), ("ERROR", 40), ("WARN", 30), ("WARNING", 30), ("INFO", 20),
  ("DEBUG", 10), ("NOTSET", 0)]

inductive LevelError where
  | unknown (name : String)
  | notALevel (text : String)
  deriving DecidableEq, Repr

def LevelError.message : LevelError → String
  | unknown name => s!"Unknown level: {Text.quoted name}"
  | notALevel text => s!"Level not an integer or a valid string: {text}"

/-- A level as it was given: a number, or a truth value, which stands for one or zero. -/
inductive LevelMark where
  | number (n : Int)
  | truth (b : Bool)
  deriving DecidableEq, Repr

def LevelMark.value : LevelMark → Int
  | number n => n
  | truth b => if b then 1 else 0

/-- The log as it is set up. -/
structure LogSetup where
  mark : LevelMark
  handlers : Nat
  deriving DecidableEq, Repr

namespace LogSetup

/-- Before any level is set there is no handler. -/
def initial : LogSetup := ⟨.number 0, 0⟩

/-- The least level of a line that is let through. -/
def level (setup : LogSetup) : Int := setup.mark.value

def markOf : Value → Except LevelError LevelMark
  | .str name =>
    match levelNames.lookup (Text.upper name) with
    | some level => .ok (.number level)
    | none => .error (.unknown (Text.upper name))
  | .int n => .ok (.number n)
  | .bool b => .ok (.truth b)
  | v => .error (.notALevel v.quoted)

/-- Sets a level. A level that is refused leaves everything as it was. -/
def set (level : Value) (setup : LogSetup) : Except LevelError LogSetup := do
  let mark ← markOf level
  return ⟨mark, max 1 setup.handlers⟩

end LogSetup
end Workflow
