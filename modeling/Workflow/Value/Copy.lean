import Workflow.Value

/-!
Independent copies. A copy equals its source, so copying is only the question whether some part
refuses: a foreign value may, and an unreadable object always does. Keys are copied freely.
-/
namespace Workflow

inductive CopyError where
  | refused (message : String)
  | unreadable (cause : Unreadable)
  deriving DecidableEq, Repr

namespace Value

mutual

/-- The first part, in reading order, that cannot be copied. -/
def copyError? : Value → Option CopyError
  | list items => copyErrorInItems? items
  | tuple items => copyErrorInItems? items
  | dict entries => copyErrorInEntries? entries
  | keyed _ values => copyErrorInItems? values
  | foreign object => object.copyError.map .refused
  | unreadable message => some (.unreadable ⟨message⟩)
  | _ => none

def copyErrorInItems? : List Value → Option CopyError
  | [] => none
  | item :: rest => (copyError? item).or (copyErrorInItems? rest)

def copyErrorInEntries? : List (String × Value) → Option CopyError
  | [] => none
  | (_, value) :: rest => (copyError? value).or (copyErrorInEntries? rest)

end

def copy (v : Value) : Except CopyError Value :=
  match v.copyError? with
  | some error => .error error
  | none => .ok v

end Value
end Workflow
