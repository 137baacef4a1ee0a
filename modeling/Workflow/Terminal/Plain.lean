import Workflow.Text.Split
import Workflow.Terminal.Markup

/-!
Printed things as plain lines, for a terminal without styles. Tags are left out, and escaped text
comes out as it went in: `stripTags_escapeTags`.
-/
namespace Workflow.Terminal

/-- Leaves tags out. Of the backslashes before a tag every second one is kept, and an odd one says
that the tag is text. `inTag` holds from an opening bracket to the closing one, and `pending`
backslashes have been read since the last other character. -/
def stripTags (inTag : Bool) (pending : Nat) : List Char → List Char
  | [] => List.replicate pending '\\'
  | c :: rest =>
    if inTag then stripTags (c != ']') 0 rest
    else if c = '\\' then stripTags false (pending + 1) rest
    else if c = '[' && opensTag rest then
      List.replicate (pending / 2) '\\' ++
        if pending % 2 = 1 then c :: stripTags false 0 rest else stripTags true 0 rest
    else List.replicate pending '\\' ++ c :: stripTags false 0 rest

def plainText (markup : String) : String := String.ofList (stripTags false 0 markup.toList)

def linesOf (text : String) : List String := (Text.splitOn '\n' text.toList).map String.ofList

/-- A text filled up with blanks to a width. -/
def padded (width : Nat) (text : String) : String :=
  text ++ String.ofList (List.replicate (width - text.length) ' ')

namespace Table

/-- The plain cells of a column under its header. -/
def cellsOf (column : Column) : List String := column.header :: column.cells.map plainText

def widthOf (cells : List String) : Nat := (cells.map String.length).foldl max 0

/-- The header and the rows, with the columns two blanks apart. -/
def lines (table : Table) : List String :=
  let columns := table.columns.map cellsOf
  let height := (columns.map List.length).foldl max 0
  (List.range height).map fun row =>
    "  ".intercalate (columns.map fun cells => padded (widthOf cells) (cells.getD row ""))

end Table

def PanelBody.lines : PanelBody → List String
  | markup text => linesOf (plainText text)
  | table content => content.lines

/-- The title, the body and the subtitle. -/
def Panel.lines (panel : Panel) : List String :=
  (panel.title.map Label.text).toList ++ panel.body.lines.map ("  " ++ ·) ++
    (panel.subtitle.map plainText).toList

def Printed.lines : Printed → List String
  | blank => [""]
  | markup text => linesOf (plainText text)
  | panel content => content.lines
  | rule title _ => [s!"── {plainText title} ──"]

/-! ### Escaped text -/

theorem stripTags_backslashes (count pending : Nat) (cs : List Char) :
    stripTags false pending (List.replicate count '\\' ++ cs) =
      stripTags false (pending + count) cs := by
  induction count generalizing pending with
  | zero => rfl
  | succ count ih =>
    rw [List.replicate_succ, List.cons_append, stripTags]
    simp [ih, Nat.add_assoc, Nat.add_comm 1]

/-- The first bracket of an escaped text is that of the text. -/
theorem escapeTags_firstBracket (pending : Nat) (cs : List Char) :
    ((escapeTags pending cs).dropWhile fun d => d != ']' && d != '[').head? =
      (cs.dropWhile fun d => d != ']' && d != '[').head? := by
  have skip (count : Nat) (rest : List Char) :
      (List.replicate count '\\' ++ rest).dropWhile (fun d => d != ']' && d != '[') =
        rest.dropWhile fun d => d != ']' && d != '[' := by
    induction count with
    | zero => rfl
    | succ count ih => rw [List.replicate_succ, List.cons_append, List.dropWhile_cons]; simp [ih]
  induction cs generalizing pending with
  | nil => exact congrArg List.head? ((congrArg _ (List.append_nil _).symm).trans (skip pending []))
  | cons c rest ih =>
    rw [escapeTags]
    split
    · next slash => subst slash; rw [ih, List.dropWhile_cons]; simp
    · rw [skip, List.dropWhile_cons, List.dropWhile_cons]
      split
      · exact ih 0
      · rfl

theorem escapeTags_succ (pending : Nat) (cs : List Char) :
    ∃ rest, escapeTags (pending + 1) cs = '\\' :: rest := by
  induction cs generalizing pending with
  | nil => exact ⟨_, List.replicate_succ⟩
  | cons c rest ih =>
    rw [escapeTags]
    split
    · exact ih (pending + 1)
    · split
      · exact ⟨List.replicate (2 * pending + 2) '\\' ++ c :: escapeTags 0 rest, rfl⟩
      · exact ⟨List.replicate pending '\\' ++ c :: escapeTags 0 rest, rfl⟩

/-- Escaping what follows a bracket does not change whether it makes a tag. -/
theorem opensTag_escapeTags (cs : List Char) : opensTag (escapeTags 0 cs) = opensTag cs := by
  cases cs with
  | nil => rfl
  | cons c rest =>
    rw [escapeTags]
    split
    · next slash =>
      subst slash
      obtain ⟨tail, eq⟩ := escapeTags_succ 0 rest
      rw [eq]
      rfl
    · by_cases bracket : c = '['
      · subst bracket
        cases opensTag rest <;> rfl
      · simp [bracket, opensTag, escapeTags_firstBracket]

theorem stripTags_escapeTags_from (pending : Nat) (cs : List Char) :
    stripTags false 0 (escapeTags pending cs) = List.replicate pending '\\' ++ cs := by
  induction cs generalizing pending with
  | nil =>
    have whole := stripTags_backslashes pending 0 []
    simpa [escapeTags, stripTags] using whole
  | cons c rest ih =>
    rw [escapeTags]
    split
    · next slash =>
      subst slash
      rw [ih, List.replicate_succ', List.append_assoc]
      rfl
    · next other =>
      rw [stripTags_backslashes, stripTags]
      by_cases tag : (c = '[' && opensTag rest) = true
      · have odd : (2 * pending + 1) % 2 = 1 := by omega
        have half : (2 * pending + 1) / 2 = pending := by omega
        simp [other, tag, opensTag_escapeTags, odd, half, ih]
      · simp [other, tag, opensTag_escapeTags, ih]

/-- Escaped text reads back as it was. -/
theorem stripTags_escapeTags (cs : List Char) : stripTags false 0 (escapeTags 0 cs) = cs :=
  stripTags_escapeTags_from 0 cs

end Workflow.Terminal
