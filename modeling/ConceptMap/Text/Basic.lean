/-!
# Texts

A text is a list of Unicode scalar values.  Lines, ids, labels and documents are all texts, so that
cutting, trimming and counting are operations on lists.  A string literal stands for its list of
characters.
-/

namespace ConceptMap

/-- A text: the list of its Unicode scalar values, in order. -/
abbrev Text := List Char

namespace Text

/-- A string literal is read as the text of its characters. -/
instance : Coe String Text := ⟨String.toList⟩

/-- The decimal digits of a natural number, without leading zeros. -/
def ofNat (number : Nat) : Text := Nat.toDigits 10 number

/-- The decimal digits of an integer, after a minus sign when it is negative. -/
def ofInt : Int → Text
  | .ofNat number => ofNat number
  | .negSucc number => '-' :: ofNat (number + 1)

/-- The text between two copies of a character. -/
def between (mark : Char) (text : Text) : Text := mark :: (text ++ [mark])

/-- The texts one after another, with a separator between neighbours. -/
def join (separator : Text) : List Text → Text
  | [] => []
  | [only] => only
  | first :: second :: rest => first ++ separator ++ join separator (second :: rest)

/-- The texts before and after the first occurrence of a nonempty token, if it occurs. -/
def cut (token : Text) : Text → Option (Text × Text)
  | [] => none
  | character :: rest =>
      if token.isPrefixOf (character :: rest) then
        some ([], (character :: rest).drop token.length)
      else
        (cut token rest).map fun (before, after) => (character :: before, after)

/-- A nonempty token occurs somewhere in the text. -/
def mentions (token text : Text) : Bool := (cut token text).isSome

/-- ASCII letters in lower case; every other character as it is. -/
def lowerAscii (text : Text) : Text := text.map Char.toLower

@[simp]
theorem join_nil (separator : Text) : join separator [] = [] := rfl

@[simp]
theorem join_singleton (separator only : Text) : join separator [only] = only := rfl

@[simp]
theorem join_cons_cons (separator first second : Text) (rest : List Text) :
    join separator (first :: second :: rest) =
      first ++ separator ++ join separator (second :: rest) := rfl

@[simp]
theorem cut_nil (token : Text) : cut token [] = none := rfl

/-- Putting the token back between the two halves of a cut gives the text again. -/
theorem eq_append_of_cut {token text before after : Text}
    (found : cut token text = some (before, after)) : text = before ++ token ++ after := by
  induction text generalizing before after with
  | nil => simp at found
  | cons character rest ih =>
      rw [cut] at found
      split at found
      next starts =>
        obtain ⟨tail, tail_eq⟩ := List.isPrefixOf_iff_prefix.1 starts
        simp only [Option.some.injEq, Prod.mk.injEq] at found
        obtain ⟨rfl, rfl⟩ := found
        rw [← tail_eq]
        simp
      next =>
        simp only [Option.map_eq_some_iff, Prod.mk.injEq] at found
        obtain ⟨⟨front, back⟩, front_cut, rfl, rfl⟩ := found
        rw [ih front_cut]
        simp

end Text
end ConceptMap
