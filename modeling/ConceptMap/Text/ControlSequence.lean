import ConceptMap.Text.Basic

/-!
# Control sequences

Terminals take an escape character and a bracket for the start of a control sequence, which sets
colours or moves the cursor: parameters follow, and a letter ends it.  Printed lines are rid of
these sequences; an escape character that starts none of them stays.
-/

namespace ConceptMap
namespace ControlSequence

/-- The characters between the bracket of a sequence and its last letter. -/
def isParameter (character : Char) : Bool :=
  character.isDigit || character = ';' || character = '?'

/-- The length of the control sequence at the head of a text, or zero if there is none. -/
def lengthAtHead : Text → Nat
  | '\x1b' :: '[' :: rest =>
      let parameters := rest.takeWhile isParameter
      match rest.drop parameters.length with
      | [] => 0
      | final :: _ => if final.isAlpha then parameters.length + 3 else 0
  | _ => 0

/-- The text without its control sequences, after a number of characters that are left out. -/
def removeFrom : (hidden : Nat) → Text → Text
  | _, [] => []
  | hidden + 1, _ :: rest => removeFrom hidden rest
  | 0, character :: rest =>
      match lengthAtHead (character :: rest) with
      | 0 => character :: removeFrom 0 rest
      | length + 1 => removeFrom length rest

/-- The text without its control sequences.  What moves together by this is not looked at again. -/
def remove (text : Text) : Text := removeFrom 0 text

theorem lengthAtHead_of_ne {character : Char} (rest : Text) (differs : character ≠ '\x1b') :
    lengthAtHead (character :: rest) = 0 := by
  rw [lengthAtHead]
  intro more shape
  exact absurd (List.cons.inj shape).1 differs

/-- A text without escape characters is printed as it is. -/
theorem remove_eq_self {text : Text} (plain : '\x1b' ∉ text) : remove text = text := by
  unfold remove
  induction text with
  | nil => rfl
  | cons character rest ih =>
      rw [List.mem_cons, not_or] at plain
      rw [removeFrom, lengthAtHead_of_ne rest (Ne.symm plain.1)]
      simp [ih plain.2]

end ControlSequence
end ConceptMap
