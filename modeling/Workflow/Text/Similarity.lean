/-!
Similarity of texts: twice the length of what two texts share in blocks, over their joint length.
The longest common block is taken first, and then the longest ones on both sides of it.
-/
namespace Workflow.Text

/-- The length of the common beginning of two texts. -/
def sharedLength : List Char → List Char → Nat
  | c :: cs, d :: ds => if c = d then sharedLength cs ds + 1 else 0
  | _, _ => 0

/-- A common block: where it starts in both texts, and its length. -/
structure Block where
  left : Nat
  right : Nat
  size : Nat

/-- The longest common block; of equal ones the earliest in the first text, then in the second. -/
def longestBlock (left right : List Char) : Block :=
  let starts := (List.range left.length).flatMap fun i =>
    (List.range right.length).map fun j => (⟨i, j, 0⟩ : Block)
  starts.foldl (fun best start =>
    let size := sharedLength (left.drop start.left) (right.drop start.right)
    if best.size < size then ⟨start.left, start.right, size⟩ else best) ⟨0, 0, 0⟩

/-- How many characters the blocks have together. The length of the first text serves as fuel. -/
def sharedInBlocks : Nat → List Char → List Char → Nat
  | 0, _, _ => 0
  | fuel + 1, left, right =>
    let block := longestBlock left right
    if block.size = 0 then 0
    else
      sharedInBlocks fuel (left.take block.left) (right.take block.right) + block.size +
        sharedInBlocks fuel (left.drop (block.left + block.size))
          (right.drop (block.right + block.size))

/-- A similarity as a fraction of naturals. -/
structure Similarity where
  shared : Nat
  total : Nat

def similarity (left right : String) : Similarity :=
  ⟨2 * sharedInBlocks (left.length + 1) left.toList right.toList, left.length + right.length⟩

/-- At least six tenths. -/
def Similarity.isClose (s : Similarity) : Bool := 6 * s.total ≤ 10 * s.shared

/-- What two texts share is no longer than the shorter one, so texts of very different lengths
cannot be close. -/
def mayBeClose (left right : String) : Bool :=
  6 * (left.length + right.length) ≤ 20 * min left.length right.length

def Similarity.le (s t : Similarity) : Bool := s.shared * t.total ≤ t.shared * s.total

/-- Whether a text comes before another one, by its characters. -/
def precedes (left right : String) : Bool :=
  List.lex left.toList right.toList fun c d => c.toNat < d.toNat

/-- The candidates that are close to a word, the closest first, and at most three. -/
def closeMatches (word : String) (candidates : List String) : List String :=
  let comparable := candidates.filter (mayBeClose · word)
  let close := (comparable.map fun c => (c, similarity c word)).filter (·.2.isClose)
  let ranked := close.mergeSort fun a b =>
    b.2.le a.2 && (!a.2.le b.2 || !precedes a.1 b.1)
  (ranked.take 3).map (·.1)

end Workflow.Text
