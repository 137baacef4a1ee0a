import Workflow.Entries
import Workflow.Text.Blank
import Workflow.Text.Case

/-!
Environment files: lines `NAME=value`, with an optional `export` in front, comments, quoted values
with escapes, and references to variables in braces. A line that cannot be read is skipped.
-/
namespace Workflow

/-- A text file with one kind of line end: a carriage return, alone or before a line feed, counts
as a line feed. -/
def Text.unifyLineEnds : List Char → List Char
  | [] => []
  | '\r' :: '\n' :: rest => '\n' :: unifyLineEnds rest
  | '\r' :: rest => '\n' :: unifyLineEnds rest
  | c :: rest => c :: unifyLineEnds rest

namespace EnvFile

/-- A name and its value; a name alone has none. -/
structure Binding where
  name : String
  value : Option String
  deriving DecidableEq, Repr

def isLineEnd (c : Char) : Bool := c == '\n' || c == '\r'

/-- Blanks within a line. -/
def isInlineBlank (c : Char) : Bool := Text.isBlank c && !isLineEnd c

def skipInline (cs : List Char) : List Char := cs.dropWhile isInlineBlank

/-- The word `export` and at least one blank behind it. -/
def skipExport (cs : List Char) : List Char :=
  let word := "export".toList
  let rest := cs.drop word.length
  if word.isPrefixOf cs && (rest.head?.any isInlineBlank) then skipInline rest else cs

/-- The text up to the closing quote, and the text after it. A backslash takes the character behind
it along, so that a quote behind one does not close. -/
def splitAtQuote? (quote : Char) : List Char → Option (List Char × List Char)
  | '\\' :: c :: rest =>
    (splitAtQuote? quote rest).map fun (content, after) => ('\\' :: c :: content, after)
  | c :: rest =>
    if c = quote then some ([], rest)
    else (splitAtQuote? quote rest).map fun (content, after) => (c :: content, after)
  | [] => none

def controlEscapes : List (Char × Char) :=
  [('a', Char.ofNat 7), ('b', Char.ofNat 8), ('f', Char.ofNat 12), ('n', '\n'), ('r', '\r'),
    ('t', '\t'), ('v', Char.ofNat 11), ('"', '"')]

def escapeOf? (quote c : Char) : Option Char :=
  if c = '\\' || c = '\'' then some c
  else if quote = '"' then controlEscapes.lookup c
  else none

/-- Replaces escapes. A backslash before any other character stays. -/
def unescape (quote : Char) : List Char → List Char
  | [] => []
  | [c] => [c]
  | c :: d :: rest =>
    if c = '\\' then
      match escapeOf? quote d with
      | some value => value :: unescape quote rest
      | none => c :: unescape quote (d :: rest)
    else c :: unescape quote (d :: rest)

/-- The value after an opening quote, and the text after the closing one. -/
def quotedValue? (quote : Char) (cs : List Char) : Option (List Char × List Char) :=
  (splitAtQuote? quote cs).map fun (content, after) => (unescape quote content, after)

/-- Cuts a comment off: a number sign with a blank before it, and the blanks. -/
def withoutComment : List Char → List Char
  | [] => []
  | c :: rest =>
    if Text.isBlank c && (rest.dropWhile Text.isBlank).head? == some '#' then []
    else c :: withoutComment rest

/-- The rest of a line without its comment and the blanks around it. -/
def unquotedValue (cs : List Char) : List Char × List Char :=
  (Text.strip Text.isBlank (withoutComment (cs.takeWhile (!isLineEnd ·))),
    cs.dropWhile (!isLineEnd ·))

/-- The value behind an equals sign. The blanks behind the sign count where they make a number sign
the start of a comment. -/
def value? (cs : List Char) : Option (List Char × List Char) :=
  match skipInline cs with
  | '\'' :: rest => quotedValue? '\'' rest
  | '"' :: rest => quotedValue? '"' rest
  | _ => some (unquotedValue cs)

/-- The name in front of a text; a comment has an empty one. -/
def name? (cs : List Char) : Option (List Char × List Char) :=
  match cs with
  | '#' :: _ => some ([], cs)
  | '\'' :: rest =>
    let name := rest.takeWhile (· != '\'')
    match rest.drop name.length with
    | _ :: after => if name.isEmpty then none else some (name, after)
    | [] => none
  | _ =>
    let isNameChar (c : Char) : Bool := c != '=' && c != '#' && !Text.isBlank c
    let name := cs.takeWhile isNameChar
    if name.isEmpty then none else some (name, cs.drop name.length)

/-- Skips a comment and the end of the line, if nothing else is left on it. -/
def lineEnd? (cs : List Char) : Option (List Char) :=
  let rest := skipInline cs
  let rest := if rest.head? == some '#' then rest.dropWhile (!isLineEnd ·) else rest
  match rest with
  | [] => some []
  | c :: after => if isLineEnd c then some after else none

/-- Where reading got to on a line that failed. -/
def restOfLine (cs : List Char) : List Char := (cs.dropWhile (!isLineEnd ·)).drop 1

/-- One line: its binding, if it has one, and the text after it. -/
def line (cs : List Char) : Option Binding × List Char :=
  let start := skipExport cs
  match name? start with
  | none => (none, restOfLine start)
  | some (name, rest) =>
    let rest := skipInline rest
    match rest with
    | '=' :: rest =>
      match value? rest with
      | none => (none, restOfLine rest)
      | some (value, rest) =>
        match lineEnd? rest with
        | none => (none, restOfLine rest)
        | some after => (some ⟨String.ofList name, some (String.ofList value)⟩, after)
    | _ =>
      match lineEnd? rest with
      | none => (none, restOfLine rest)
      | some after =>
        (if name.isEmpty then none else some ⟨String.ofList name, none⟩, after)

/-- The bindings of a text, line by line. Each line is shorter than the text, whose length serves
as fuel. -/
def lines : Nat → List Char → List Binding
  | 0, _ => []
  | fuel + 1, cs =>
    match cs.dropWhile Text.isBlank with
    | [] => []
    | start =>
      let (binding?, rest) := line start
      binding?.toList ++ lines fuel rest

/-- A byte order mark in front of the first line is no part of it. -/
def withoutMark (cs : List Char) : List Char :=
  if cs.head? == some (Char.ofNat 0xFEFF) then cs.drop 1 else cs

def bindings (text : String) : List Binding :=
  let cs := Text.unifyLineEnds (withoutMark text.toList)
  lines cs.length cs

/-! ### References to variables -/

/-- A reference: a dollar sign, and in braces a name or `name:-default`; and the text after it. -/
def reference? (cs : List Char) : Option (String × String × List Char) :=
  match cs with
  | '$' :: '{' :: rest =>
    let name := rest.takeWhile fun c => c != '}' && c != ':'
    match rest.drop name.length with
    | '}' :: after => some (String.ofList name, "", after)
    | ':' :: '-' :: tail =>
      let default := tail.takeWhile (· != '}')
      match tail.drop default.length with
      | _ :: after => some (String.ofList name, String.ofList default, after)
      | [] => none
    | _ => none
  | _ => none

/-- The names that references in a text name. -/
def referencedNames : List Char → List String
  | [] => []
  | c :: rest =>
    match reference? (c :: rest) with
    | some (name, _, _) => name :: referencedNames rest
    | none => referencedNames rest

/-- Replaces references by what `find` knows, or by their default. -/
def expand (find : String → Option String) : Nat → List Char → List Char
  | 0, _ => []
  | _ + 1, [] => []
  | fuel + 1, c :: rest =>
    match reference? (c :: rest) with
    | some (name, default, after) =>
      ((find name).getD default).toList ++ expand find fuel after
    | none => c :: expand find fuel rest

/-- Takes bindings in one after the other. The environment goes before earlier bindings. -/
def resolve (environment : List (String × String)) (known : List (String × Option String)) :
    List Binding → List (String × Option String)
  | [] => known
  | binding :: rest =>
    let find (name : String) : Option String :=
      match environment.lookup name with
      | some value => some value
      | none => (known.lookup name).map (·.getD "")
    let value := binding.value.map fun text =>
      String.ofList (expand find (text.length + 1) text.toList)
    resolve environment (Entries.put binding.name value known) rest

/-! ### Loading -/

/-- What cannot be set in an environment. -/
inductive LoadError where
  | nullCharacter
  | illegalName
  deriving DecidableEq, Repr

def LoadError.message : LoadError → String
  | nullCharacter => "embedded null byte"
  | illegalName => "illegal environment variable name"

/-- A variable that is fit to be set: no null character, and no equals sign in the name. -/
def checkVariable (name value : String) : Except LoadError (String × String) :=
  let isNull (c : Char) : Bool := c == Char.ofNat 0
  if name.toList.any isNull || value.toList.any isNull then .error .nullCharacter
  else if name.toList.contains '=' then .error .illegalName
  else .ok (name, value)

/-- The variables that resolved bindings add to an environment: those with a value that it does not
have yet. -/
def additions (environment : List (String × String)) :
    List (String × Option String) → Except LoadError (List (String × String))
  | [] => .ok []
  | (_, none) :: rest => additions environment rest
  | (name, some value) :: rest =>
    if Entries.has name environment then additions environment rest
    else do
      let first ← checkVariable name value
      let others ← additions environment rest
      return first :: others

/-- The variable that turns environment files off. -/
def switchName : String := "PYTHON_DOTENV_DISABLED"

/-- The words that turn environment files off, in any case. -/
def switchWords : List String := ["1", "TRUE", "T", "YES", "Y"]

def isDisabled (environment : List (String × String)) : Bool :=
  (environment.lookup switchName).any fun word => switchWords.contains (Text.upper word)

/-- The environment after a file is loaded: what was set before stays. -/
def load (environment : List (String × String)) (text : String) :
    Except LoadError (List (String × String)) :=
  if isDisabled environment then .ok environment
  else do
    let added ← additions environment (resolve environment [] (bindings text))
    return environment ++ added

end EnvFile
end Workflow
