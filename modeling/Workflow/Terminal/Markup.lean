import Workflow.Value
/-!
Markup text and what is printed with it. Tags stand in square brackets; text from outside is escaped
so that no part of it is read as a tag.
-/
namespace Workflow.Terminal

/-- Whether the text after an opening bracket makes a tag: it starts with a small letter, a number
sign, a slash or an at sign, and closes before the next opening bracket. -/
def opensTag (rest : List Char) : Bool :=
  match rest with
  | [] => false
  | c :: tail =>
    (('a' ≤ c && c ≤ 'z') || c == '#' || c == '/' || c == '@') &&
      (tail.dropWhile fun d => d != ']' && d != '[').head? == some ']'

/-- Doubles the backslashes directly before each tag and adds one. `pending` backslashes have been
read since the last other character. -/
def escapeTags (pending : Nat) : List Char → List Char
  | [] => List.replicate pending '\\'
  | c :: rest =>
    if c = '\\' then escapeTags (pending + 1) rest
    else
      let backslashes := if c = '[' && opensTag rest then 2 * pending + 1 else pending
      List.replicate backslashes '\\' ++ c :: escapeTags 0 rest

/-- A single backslash at the end would escape a tag that follows, so it is doubled. -/
def closeEscape (cs : List Char) : List Char :=
  match cs.reverse with
  | '\\' :: '\\' :: _ => cs
  | '\\' :: _ => cs ++ ['\\']
  | _ => cs

def escape (text : String) : String :=
  String.ofList (closeEscape (escapeTags 0 text.toList))

/-- A text cut at a length, with an ellipsis. A negative length leaves that many characters off. -/
def mono (text : String) (maxLength : Int) : String :=
  let cs := text.toList
  if maxLength < cs.length then
    let kept := if maxLength < 0 then cs.length - maxLength.natAbs else maxLength.toNat
    String.ofList (cs.take kept ++ ['…'])
  else text

/-! ### Printed things -/

/-- A text in one style. -/
structure Label where
  text : String
  style : String
  deriving DecidableEq, Repr

/-- Controls that ring the bell or move the cursor to another place. -/
def isCursorControl (c : Char) : Bool :=
  c.toNat == 7 || c.toNat == 8 || (11 ≤ c.toNat && c.toNat ≤ 13)

/-- A tag with a blank on either side, free of cursor controls. -/
def label (tag color : String) : Label :=
  ⟨String.ofList (s!" {tag} ".toList.filter (!isCursorControl ·)), s!"bold white on {color}"⟩

structure Column where
  header : String
  style : String
  cells : List String
  deriving DecidableEq, Repr

structure Table where
  border : String
  headerStyle : String
  columns : List Column
  deriving DecidableEq, Repr

inductive PanelBody where
  | markup (text : String)
  | table (table : Table)
  deriving DecidableEq, Repr

structure Panel where
  body : PanelBody
  title : Option Label
  subtitle : Option String
  border : String
  padding : Nat × Nat
  expand : Bool
  deriving DecidableEq, Repr

/-- What one print call prints. -/
inductive Printed where
  | blank
  | markup (text : String)
  | panel (panel : Panel)
  | rule (title style : String)
  deriving DecidableEq, Repr

/-- What is printed, and the exception that ends the printing, if there is one. -/
structure Output where
  printed : List Printed
  raised? : Option Raised
  deriving DecidableEq, Repr

namespace Output

def ofList (printed : List Printed) : Output := ⟨printed, none⟩

/-- One output after the other, up to the first exception. -/
def join : List Output → Output
  | [] => ofList []
  | ⟨printed, some e⟩ :: _ => ⟨printed, some e⟩
  | ⟨printed, none⟩ :: rest => ⟨printed ++ (join rest).printed, (join rest).raised?⟩

/-- Prints, and then what becomes of a text, unless asking for the text raises. -/
def andThen (printed : List Printed) (text : Except Raised String)
    (rest : String → List Printed) : Output :=
  match text with
  | .ok text => ofList (printed ++ rest text)
  | .error e => ⟨printed, some e⟩

end Output

end Workflow.Terminal
