import Workflow.Path.Lookup
import Workflow.Value.Display

/-!
Templates: values whose strings hold placeholders, an expression without braces in double braces. A
string that is exactly one placeholder takes the looked-up value with its type; otherwise each
placeholder is replaced by the text of its value, in one pass.
-/
namespace Workflow

/-- A string is a sequence of literal text and placeholders. -/
inductive Piece where
  | literal (text : List Char)
  | placeholder (expression : List Char)
  deriving DecidableEq, Repr

namespace Piece

def isBrace (c : Char) : Bool := c == '{' || c == '}'

/-- The expression of a placeholder that the text begins with. -/
def placeholder? : List Char → Option (List Char)
  | '{' :: '{' :: rest =>
    let expression := rest.takeWhile (!isBrace ·)
    if ['}', '}'].isPrefixOf (rest.dropWhile (!isBrace ·)) then some expression else none
  | _ => none

def addLiteral (c : Char) : List Piece → List Piece
  | literal text :: rest => literal (c :: text) :: rest
  | pieces => literal [c] :: pieces

/-- The pieces of a text whose first `covered` characters belong to a placeholder already found. -/
def scan : Nat → List Char → List Piece
  | _, [] => []
  | covered + 1, _ :: rest => scan covered rest
  | 0, c :: rest =>
    match placeholder? (c :: rest) with
    | some expression => placeholder expression :: scan (expression.length + 3) rest
    | none => addLiteral c (scan 0 rest)

/-- The pieces of a text, leftmost placeholders first. -/
def ofChars (text : List Char) : List Piece := scan 0 text

end Piece

/-- The text of a value inside a longer string: JSON for containers and constants. Not every value
has one. -/
def stringify : Value → Except Raised String
  | .null => .ok "null"
  | .bool b => .ok (if b then "true" else "false")
  | .dict entries => Json.writeChecked false Json.spaced (.dict entries)
  | .keyed keys values => Json.writeChecked false Json.spaced (.keyed keys values)
  | .unreadable message => Json.writeChecked false Json.spaced (.unreadable message)
  | .list items => Json.writeChecked false Json.spaced (.list items)
  | .tuple items => Json.writeChecked false Json.spaced (.tuple items)
  | v => v.text

namespace Template

/-- The text that a piece stands for. -/
def pieceText (outputs : Outputs) : Piece → Except ResolveError String
  | .literal text => .ok (String.ofList text)
  | .placeholder expression => do
    let value ← lookup (String.ofList expression) outputs
    (stringify value).mapError ResolveError.untold

/-- The texts of pieces. The first piece without one decides. -/
def pieceTexts (outputs : Outputs) : List Piece → Except ResolveError (List String)
  | [] => .ok []
  | piece :: rest => do
    let text ← pieceText outputs piece
    let texts ← pieceTexts outputs rest
    return text :: texts

/-- The text of a sequence of pieces. -/
def fill (outputs : Outputs) (pieces : List Piece) : Except ResolveError String :=
  String.join <$> pieceTexts outputs pieces

def resolveText (text : String) (outputs : Outputs) : Except ResolveError Value :=
  match Piece.ofChars text.toList with
  | [.placeholder expression] => do
    let value ← lookup (String.ofList expression) outputs
    value.copy.mapError ResolveError.ofCopy
  | pieces => .str <$> fill outputs pieces

mutual

/-- Replaces the placeholders of all strings inside. Fixed sequences become lists. -/
def resolve (outputs : Outputs) : Value → Except ResolveError Value
  | .str text => resolveText text outputs
  | .list items => .list <$> resolveItems outputs items
  | .tuple items => .list <$> resolveItems outputs items
  | .dict entries => .dict <$> resolveEntries outputs entries
  | .keyed keys values => .keyed keys <$> resolveItems outputs values
  | .unreadable message => .error (.unreadable ⟨message⟩)
  | v => .ok v

def resolveItems (outputs : Outputs) : List Value → Except ResolveError (List Value)
  | [] => .ok []
  | item :: rest => do
    let resolved ← resolve outputs item
    let others ← resolveItems outputs rest
    return resolved :: others

def resolveEntries (outputs : Outputs) :
    List (String × Value) → Except ResolveError (List (String × Value))
  | [] => .ok []
  | (key, value) :: rest => do
    let resolved ← resolve outputs value
    let others ← resolveEntries outputs rest
    return (key, resolved) :: others

end

end Template
end Workflow
