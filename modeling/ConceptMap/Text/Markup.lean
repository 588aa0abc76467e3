import ConceptMap.Text.Basic

/-!
# Escaping markup

Table cells are read by a renderer that takes bracketed words such as `[bold]` for style tags.  A
backslash before the bracket makes it plain text, and backslashes in front of a tag are doubled so
that they stay what they are.
-/

namespace ConceptMap
namespace Markup

/-- The characters with which a tag may begin after its bracket. -/
def startsTag (character : Char) : Bool :=
  ('a' ≤ character && character ≤ 'z') || character == '#' || character == '/' || character == '@'

/-- The rest of a tag up to its closing bracket, and what follows; an opening bracket on the way
means that there is no tag. -/
def closeTag : Text → Option (Text × Text)
  | [] => none
  | '[' :: _ => none
  | ']' :: rest => some ([']'], rest)
  | character :: rest => (closeTag rest).map fun (tag, after) => (character :: tag, after)

/-- The tag at the head of a text, and what follows it. -/
def tag? : Text → Option (Text × Text)
  | '[' :: first :: rest =>
      if startsTag first then
        (closeTag rest).map fun (tag, after) => ('[' :: first :: tag, after)
      else none
  | _ => none

/-- Escapes the tags of a text that follows a number of backslashes not yet written. -/
def escapeTags : (backslashes : Nat) → Text → Text
  | backslashes, [] => List.replicate backslashes '\\'
  | backslashes, '\\' :: rest => escapeTags (backslashes + 1) rest
  | backslashes, character :: rest =>
      let mark := if (tag? (character :: rest)).isSome then 2 * backslashes + 1 else backslashes
      List.replicate mark '\\' ++ character :: escapeTags 0 rest

/-- A text as a table cell that shows it unchanged.  A single backslash at the end is doubled, as
it would otherwise escape what comes next. -/
def escape (text : Text) : Text :=
  let escaped := escapeTags 0 text
  match escaped.reverse with
  | '\\' :: '\\' :: _ => escaped
  | '\\' :: _ => escaped ++ ['\\']
  | _ => escaped

/-- What a cell shows without its styles, where `hidden` says that a tag is being passed over, and
a number of backslashes has been read but not yet shown. -/
def plainFrom : (hidden : Bool) → (backslashes : Nat) → Text → Text
  | _, backslashes, [] => List.replicate backslashes '\\'
  | true, _, ']' :: rest => plainFrom false 0 rest
  | true, _, _ :: rest => plainFrom true 0 rest
  | false, backslashes, '\\' :: rest => plainFrom false (backslashes + 1) rest
  | false, backslashes, character :: rest =>
      if (tag? (character :: rest)).isSome then
        List.replicate (backslashes / 2) '\\' ++
          (if backslashes % 2 = 1 then character :: plainFrom false 0 rest
          else plainFrom true 0 rest)
      else List.replicate backslashes '\\' ++ character :: plainFrom false 0 rest

/-- What a cell shows without its styles. -/
def plain (cell : Text) : Text := plainFrom false 0 cell

theorem closeTag_replicate (count : Nat) (rest : Text) :
    (closeTag (List.replicate count '\\' ++ rest)).isSome = (closeTag rest).isSome := by
  induction count with
  | zero => rfl
  | succ count ih => simpa [List.replicate_succ, closeTag] using ih

/-- Escaping does not move the end of a tag. -/
theorem closeTag_escapeTags (backslashes : Nat) (text : Text) :
    (closeTag (escapeTags backslashes text)).isSome = (closeTag text).isSome := by
  fun_induction escapeTags backslashes text with
  | case1 backslashes => simpa using closeTag_replicate backslashes []
  | case2 backslashes rest ih => simpa [closeTag] using ih
  | case3 backslashes character rest _ mark ih =>
      rw [closeTag_replicate]
      by_cases opens : character = '['
      · simp [opens, closeTag]
      · by_cases closes : character = ']'
        · simp [closes, closeTag]
        · simpa [closeTag, opens, closes] using ih

theorem tag?_escapeTags (character : Char) (rest : Text) :
    (tag? (character :: escapeTags 0 rest)).isSome = (tag? (character :: rest)).isSome := by
  by_cases opens : character = '['
  · subst opens
    cases rest with
    | nil => rfl
    | cons first more =>
        by_cases slash : first = '\\'
        · subst slash
          have none_here : (tag? ('[' :: '\\' :: more)).isSome = false := rfl
          have shape : ∃ tail, escapeTags 1 more = '\\' :: tail := by
            clear none_here
            suffices every : ∀ (text : Text) (count : Nat),
                ∃ tail, escapeTags (count + 1) text = '\\' :: tail from every more 0
            intro text
            induction text with
            | nil =>
                exact fun count =>
                  ⟨List.replicate count '\\', by simp [escapeTags, List.replicate_succ]⟩
            | cons next later ih =>
                intro count
                by_cases again : next = '\\'
                · subst again
                  simpa [escapeTags] using ih (count + 1)
                · rw [escapeTags]
                  · split
                    · exact ⟨_, by rw [show 2 * (count + 1) + 1 = (2 * count + 2) + 1 by omega,
                        List.replicate_succ]; rfl⟩
                    · exact ⟨_, by rw [List.replicate_succ]; rfl⟩
                  · exact again
          obtain ⟨tail, tail_eq⟩ := shape
          rw [none_here, escapeTags, tail_eq]
          rfl
        · rw [escapeTags]
          · by_cases starts : startsTag first
            · have first_ne : first ≠ '[' := by rintro rfl; exact absurd starts (by decide)
              have no_tag : (tag? (first :: more)).isSome = false := by
                simp [tag?, first_ne]
              simp only [no_tag, Bool.false_eq_true, if_false, List.replicate_zero, List.nil_append]
              simpa [tag?, starts] using closeTag_escapeTags 0 more
            · have no_tag : (tag? ('[' :: first :: more)).isSome = false := by simp [tag?, starts]
              rw [no_tag]
              split
              · simp [tag?, List.replicate_succ, show startsTag '\\' = false by decide]
              · simp [tag?, starts]
          · exact slash
  · simp [tag?, opens]

theorem plainFrom_replicate (count backslashes : Nat) (rest : Text) :
    plainFrom false backslashes (List.replicate count '\\' ++ rest) =
      plainFrom false (backslashes + count) rest := by
  induction count generalizing backslashes with
  | zero => rfl
  | succ count ih =>
      rw [List.replicate_succ, List.cons_append, plainFrom, ih]
      congr 1
      omega

/-- Escaping the tags of a text keeps what the text shows. -/
theorem plainFrom_escapeTags (backslashes : Nat) (text : Text) :
    plainFrom false 0 (escapeTags backslashes text) = List.replicate backslashes '\\' ++ text := by
  fun_induction escapeTags backslashes text with
  | case1 backslashes => simpa [plainFrom] using plainFrom_replicate backslashes 0 []
  | case2 backslashes rest ih => rw [ih, List.replicate_succ']; simp
  | case3 backslashes character rest slash mark ih =>
      rw [plainFrom_replicate, plainFrom, tag?_escapeTags, ih]
      · by_cases tagged : (tag? (character :: rest)).isSome
        · have half : (2 * backslashes + 1) / 2 = backslashes := by omega
          simp [mark, tagged, half]
        · simp [mark, tagged]
      · exact slash

end Markup
end ConceptMap
