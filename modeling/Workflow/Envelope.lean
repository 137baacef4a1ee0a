import Workflow.Json.Reader
import Workflow.Json.Writer
import Workflow.Value.Display

/-!
Envelopes of tool answers. A JSON text stands for its value, a `result` entry for what it holds, and
a non-empty `data` entry for what it holds; at most one of each is taken off, in this order. An
answer may also carry an error: an object with an `error` entry, or a text that starts with `Error`.
-/
namespace Workflow.Envelope

/-- The value of a JSON text; anything else is itself. -/
def decoded : Value → Value
  | .str text => Json.parseOrText text
  | v => v

/-- Takes off a `result` entry and decodes what it held. -/
def withoutResult (v : Value) : Value :=
  match v.field? "result" with
  | some inner => decoded inner
  | none => v

/-- Takes off a `data` entry that is not empty. -/
def withoutData (v : Value) : Value :=
  match v.field? "data" with
  | some inner => if inner.truthy then inner else v
  | none => v

/-- The value inside the envelopes of an answer. -/
def unwrap (raw : Value) : Value := withoutData (withoutResult (decoded raw))

/-- Every value passed on the way from an answer to what is inside its envelopes. -/
def layers (raw : Value) : List Value :=
  let opened := decoded raw
  let bare := withoutResult opened
  [raw, opened] ++ (opened.field? "result").toList ++ [bare, withoutData bare]

/-- What follows the word `Error`, without the blanks and colons before it. -/
def errorDetail? (text : String) : Option String :=
  let marker := "Error".toList
  if marker.isPrefixOf text.toList then
    some (String.ofList ((text.toList.drop marker.length).dropWhile fun c => c == ' ' || c == ':'))
  else none

/-- The first entry under one of the keys that is truthy. -/
def firstTruthy? (keys : List String) (v : Value) : Option Value :=
  keys.findSome? fun key => (v.field? key).filter Value.truthy

/-- The error that an answer carries. -/
def error? (v : Value) : Option String :=
  match v with
  | .str text =>
    (errorDetail? text).map fun detail =>
      let parsed := Json.parseOrText detail
      if parsed.isObject then ((firstTruthy? ["error", "message"] parsed).getD v).display else text
  | _ =>
    (firstTruthy? ["error"] v).map fun error =>
      match error with
      | .str message => message
      | other => Json.write Json.spacedAscii other

/-! Taking an answer in may raise. The texts and errors in it are read and written where the stack
of the interpreter has room for so many levels of nesting. -/

/-- What decoding a value raises. -/
def undecodable? (room : Nat) : Value → Option Raised
  | .str text => Json.overflow? room text
  | _ => none

/-- What telling an error raises: to test it, or to write one that is no text. -/
def untellable? (room : Nat) (error : Value) : Option Raised :=
  error.untested?.or <| match error with
    | .str _ => none
    | other => if other.truthy then Json.unwritableWithin? room other else none

/-- What looking for the error of an answer raises: to read the detail of a text, or to tell the
error of an object. -/
def errorFault? (room : Nat) (v : Value) : Option Raised :=
  match v with
  | .str text => (errorDetail? text).bind (Json.overflow? room)
  | _ => (v.field? "error").bind (untellable? room)

/-- What taking the envelopes of an answer off raises. -/
def unwrapFault? (room : Nat) (raw : Value) : Option Raised :=
  (undecodable? room raw).or <| (((decoded raw).field? "result").bind (undecodable? room)).or <|
    ((withoutResult (decoded raw)).field? "data").bind Value.untested?

/-- What taking an answer in raises. -/
def fault? (room : Nat) (raw : Value) : Option Raised :=
  (errorFault? room raw).or <| if (error? raw).isSome then none
    else (unwrapFault? room raw).or (errorFault? room (unwrap raw))

/-- The value that an answer stands for, unless the answer or that value carries an error. -/
def read (raw : Value) : Except String Value :=
  match error? raw with
  | some message => .error message
  | none =>
    match error? (unwrap raw) with
    | some message => .error message
    | none => .ok (unwrap raw)

end Workflow.Envelope
