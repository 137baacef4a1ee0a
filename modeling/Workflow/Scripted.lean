import Workflow.World

/-!
Scripted tools: tools whose behaviour is fixed in advance, for trying programs and hosts out.
-/
namespace Workflow

inductive Behavior where
  | echo
  | give (value : Value)
  | pick
  | sequence (values : List Value)
  | count
  | context
  | raise (error : Thrown)
  | cancel (value : Value)

namespace Behavior

/-- The answer to the `n`-th call, counted from one. The last value of a sequence repeats. -/
def answer (behavior : Behavior) (n : Nat) (args context : Value) : Except Thrown Value :=
  match behavior with
  | echo => .ok args
  | give value => .ok value
  | pick => .ok ((args.field? "value").getD .null)
  | sequence values =>
    match values[min n values.length - 1]? with
    | some value => .ok value
    | none => .error (.told ⟨"IndexError", "list index out of range"⟩)
  | count => .ok (.dict [("n", .int n)])
  | .context => .ok (.dict [("context", context), ("args", args)])
  | raise error => .error error
  | cancel value => .ok value

def cancels : Behavior → Bool
  | cancel _ => true
  | _ => false

/-- Acts as the tool of a number. -/
def action (behavior : Behavior) (tool : Nat) : Action World := fun args context w =>
  let w := w.tally tool
  (behavior.answer (w.count tool) args context, if behavior.cancels then w.cancel else w)

end Behavior
end Workflow
