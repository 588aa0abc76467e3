import ConceptMap.Text.Basic
import Std.Data.HashMap

/-!
# Similar texts

How alike two texts are: twice the number of matched characters over the total length.  The matched
characters are found by taking the longest common block, then matching what lies before it on both
sides, and what lies behind it.  In a long reference text very frequent characters do not begin a
block; they only extend one.
-/

namespace ConceptMap
namespace Similarity

/-- A block of equal characters: where it starts in the two texts, and its length. -/
structure Block where
  /-- Start in the candidate. -/
  left : Nat
  /-- Start in the reference. -/
  right : Nat
  /-- Number of characters. -/
  size : Nat
deriving DecidableEq, Repr

/-- How often each character occurs in a text, by its code point. -/
def tally (text : Text) : Std.HashMap Nat Nat :=
  text.foldl
    (fun counts character =>
      counts.insert character.toNat (counts.getD character.toNat 0 + 1))
    ∅

/-- How often a character may occur in a reference and still begin a block: in a text of at least
two hundred characters, once in a hundred and once more. -/
def mostOccurrences (reference : Text) : Nat :=
  if reference.length < 200 then reference.length else reference.length / 100 + 1

/-- The positions of each rare character of a reference, in ascending order, by its code point. -/
def positions (rare : Char → Bool) (reference : Text) : Std.HashMap Nat (List Nat) :=
  reference.zipIdx.foldr
    (fun (character, position) places =>
      if rare character then
        places.insert character.toNat (position :: places.getD character.toNat [])
      else places)
    ∅

/-- A run of equal characters up to some position of the candidate. -/
structure Run where
  /-- The position behind it in the reference. -/
  stop : Nat
  /-- Number of characters. -/
  length : Nat
deriving DecidableEq, Repr

/-- The runs that end with the next character of the candidate, which stands at the given positions
of the reference, given the runs that end before it; all are in ascending order. -/
def extendRuns : (places : List Nat) → List Run → List Run
  | [], _ => []
  | place :: places, runs =>
      match runs.dropWhile fun run => run.stop < place with
      | [] => ⟨place + 1, 1⟩ :: extendRuns places []
      | run :: later =>
          let length := if run.stop = place then run.length + 1 else 1
          ⟨place + 1, length⟩ :: extendRuns places (run :: later)

/-- The better of a block and the runs that end before position `left` of the candidate; the first
of equally long ones is kept. -/
def bestRun (left : Nat) (best : Block) (runs : List Run) : Block :=
  runs.foldl
    (fun best run =>
      if best.size < run.length then ⟨left - run.length, run.stop - run.length, run.length⟩
      else best)
    best

/-- The best block among the runs that end in the rest of the candidate, from position `left`. -/
def longestRunFrom (places : Char → List Nat) :
    (left : Nat) → List Run → Block → Text → Block
  | _, _, best, [] => best
  | left, runs, best, character :: rest =>
      let extended := extendRuns (places character) runs
      longestRunFrom places (left + 1) extended (bestRun (left + 1) best extended) rest

/-- The longest common run of rare characters; of several, the first in the candidate, and of
those, the first in the reference. -/
def longestRun (rare : Char → Bool) (candidate reference : Text) : Block :=
  let places := positions rare reference
  longestRunFrom (fun character => places.getD character.toNat []) 0 [] ⟨0, 0, 0⟩ candidate

/-- How many characters two texts share at their start. -/
def sharedStart : Text → Text → Nat
  | first :: rest, second :: others => if first = second then sharedStart rest others + 1 else 0
  | _, _ => 0

/-- A block made longer at both ends, by whatever characters agree there. -/
def Block.extend (block : Block) (candidate reference : Text) : Block :=
  let back :=
    sharedStart (candidate.take block.left).reverse (reference.take block.right).reverse
  let forward :=
    sharedStart (candidate.drop (block.left + block.size))
      (reference.drop (block.right + block.size))
  ⟨block.left - back, block.right - back, back + block.size + forward⟩

/-- The longest common block of two texts. -/
def longestBlock (rare : Char → Bool) (candidate reference : Text) : Block :=
  (longestRun rare candidate reference).extend candidate reference

/-- The number of matched characters, where every round takes one block and leaves two shorter
candidates; `rounds` is at least the length of the candidate. -/
def matchedWithin (rare : Char → Bool) : (rounds : Nat) → Text → Text → Nat
  | 0, _, _ => 0
  | rounds + 1, candidate, reference =>
      let block := longestBlock rare candidate reference
      if block.size = 0 then 0
      else
        matchedWithin rare rounds (candidate.take block.left) (reference.take block.right) +
          block.size +
          matchedWithin rare rounds (candidate.drop (block.left + block.size))
            (reference.drop (block.right + block.size))

/-- The number of characters of a candidate that are matched in a reference. -/
def matched (candidate reference : Text) : Nat :=
  let counts := tally reference
  let most := mostOccurrences reference
  matchedWithin (fun character => !(most < counts.getD character.toNat 0)) candidate.length
    candidate
    reference

/-- A likeness as a fraction. -/
structure Score where
  /-- Numerator. -/
  part : Nat
  /-- Denominator, never zero. -/
  whole : Nat
deriving DecidableEq, Repr

/-- One score is lower than another one. -/
def Score.isBelow (score other : Score) : Bool :=
  score.part * other.whole < other.part * score.whole

/-- The likeness of two texts; two empty texts are alike. -/
def score (candidate reference : Text) : Score :=
  let total := candidate.length + reference.length
  if total = 0 then ⟨1, 1⟩ else ⟨2 * matched candidate reference, total⟩

/-- The least score of a suggestion. -/
def threshold : Score := ⟨3, 5⟩

/-- The greatest number of suggestions. -/
def limit : Nat := 3

/-- A candidate with its score. -/
structure Suggestion where
  /-- The candidate. -/
  text : Text
  /-- Its likeness to the reference. -/
  score : Score
deriving DecidableEq, Repr

/-- The order of suggestions: the higher score first, and of equal scores the text that comes later
by code points. -/
def Suggestion.isBefore (first second : Suggestion) : Bool :=
  second.score.isBelow first.score ||
    (!first.score.isBelow second.score && !decide (first.text < second.text))

/-- The candidates most like a reference text, best first; repeated candidates are kept. -/
def suggestions (reference : Text) (candidates : List Text) : List Text :=
  let scored := candidates.map fun candidate =>
    ({ text := candidate, score := score candidate reference } : Suggestion)
  let close := scored.filter fun suggestion => !suggestion.score.isBelow threshold
  ((close.mergeSort Suggestion.isBefore).take limit).map (·.text)

end Similarity
end ConceptMap
