import ConceptMap.Export.Dot
import ConceptMap.Proofs.Text.Lines

/-!
# Tokens of DOT documents

A DOT document is read from left to right.  A double quote opens a name, a backslash in a name takes
the character behind it along, and the next double quote closes the name.  What is written as tokens
is read as the same tokens, whatever the names are.
-/

namespace ConceptMap
namespace Dot

/-- A piece of a document. -/
inductive Token where
  /-- A character outside of names. -/
  | mark (character : Char)
  /-- A quoted name, as the text that it stands for. -/
  | name (text : Text)
deriving DecidableEq, Repr

/-- A token as it is written. -/
def Token.render : Token → Text
  | .mark character => [character]
  | .name text => Dot.name text

/-- Tokens as they are written. -/
def render (tokens : List Token) : Text := tokens.flatMap Token.render

/-- The characters of a text, each as a mark. -/
def marks (text : Text) : List Token := text.map .mark

/-- The text that the inside of a name stands for. -/
def unescape : Text → Text
  | [] => []
  | '\\' :: '\\' :: rest => '\\' :: unescape rest
  | '\\' :: '"' :: rest => '"' :: unescape rest
  | '\\' :: 'n' :: rest => '\n' :: unescape rest
  | character :: rest => character :: unescape rest

/-- Reads on, outside of names or behind as much of the inside of a name. -/
def scanFrom : (inside : Option Text) → Text → Option (List Token)
  | none, [] => some []
  | none, '"' :: rest => scanFrom (some []) rest
  | none, character :: rest => (scanFrom none rest).map (.mark character :: ·)
  | some _, [] => none
  | some inside, '"' :: rest => (scanFrom none rest).map (.name (unescape inside) :: ·)
  | some inside, '\\' :: taken :: rest => scanFrom (some (inside ++ ['\\', taken])) rest
  | some inside, character :: rest => scanFrom (some (inside ++ [character])) rest

/-- The tokens of a text, unless a name is not closed. -/
def scan (text : Text) : Option (List Token) := scanFrom none text

variable {character : Char} {text rest inside : Text} {tokens : List Token}

theorem render_marks (text : Text) : render (marks text) = text := by
  rw [render, marks, List.flatMap_map]
  exact List.flatMap_singleton' text

theorem render_append (first second : List Token) :
    render (first ++ second) = render first ++ render second :=
  List.flatMap_append

theorem render_cons (token : Token) (tokens : List Token) :
    render (token :: tokens) = token.render ++ render tokens := rfl

theorem escape_cons : escape (character :: rest) = escapeChar character ++ escape rest := rfl

/-- A character is taken along by a backslash, or stands for itself. -/
theorem escapeChar_cases (character : Char) :
    (∃ taken, escapeChar character = ['\\', taken] ∧ taken ≠ '\n' ∧
      ∀ rest, unescape ('\\' :: taken :: rest) = character :: unescape rest) ∨
      escapeChar character = [character] ∧
        character ≠ '\\' ∧ character ≠ '"' ∧ character ≠ '\n' := by
  fun_cases escapeChar character with
  | case1 => exact .inl ⟨'\\', rfl, by decide, fun _ => rfl⟩
  | case2 => exact .inl ⟨'"', rfl, by decide, fun _ => rfl⟩
  | case3 => exact .inl ⟨'n', rfl, by decide, fun _ => rfl⟩
  | case4 _ backslash quote newline => exact .inr ⟨rfl, backslash, quote, newline⟩

theorem unescape_escape_append (text rest : Text) :
    unescape (escape text ++ rest) = text ++ unescape rest := by
  induction text with
  | nil => rfl
  | cons character text ih =>
      rw [escape_cons, List.append_assoc]
      rcases escapeChar_cases character with ⟨taken, escaped, -, resolved⟩ | ⟨itself, backslash, -⟩
      · rw [escaped, List.cons_append, List.singleton_append, resolved, ih]
        rfl
      · rw [itself, List.singleton_append, unescape, ih]
        · rfl
        all_goals exact fun _ escaped => absurd escaped backslash

theorem unescape_escape (text : Text) : unescape (escape text) = text := by
  simpa [unescape] using unescape_escape_append text []

/-- Inside a name the escaped text is passed over, up to the quote that closes the name. -/
theorem scanFrom_escape (inside text rest : Text) :
    scanFrom (some inside) (escape text ++ '"' :: rest) =
      (scan rest).map (.name (unescape (inside ++ escape text)) :: ·) := by
  induction text generalizing inside with
  | nil => simp [scanFrom, scan]
  | cons character text ih =>
      rw [escape_cons]
      rcases escapeChar_cases character with
        ⟨taken, escaped, -, -⟩ | ⟨itself, backslash, quote, -⟩
      · rw [escaped, List.append_assoc, List.cons_append, List.singleton_append, scanFrom, ih,
          List.append_assoc]
      · rw [itself, List.singleton_append, List.cons_append, scanFrom, ih, List.append_assoc]
        · rfl
        · exact quote
        · exact fun _ _ escaped => absurd escaped backslash

theorem scan_name_append (text rest : Text) :
    scan (name text ++ rest) = (scan rest).map (.name text :: ·) := by
  have name_eq : name text ++ rest = '"' :: (escape text ++ '"' :: rest) := by
    simp [name, Text.between]
  rw [name_eq, scan, scanFrom, scanFrom_escape, List.nil_append, unescape_escape]

theorem scan_cons_of_ne (plain : character ≠ '"') :
    scan (character :: rest) = (scan rest).map (.mark character :: ·) := by
  rw [scan, scanFrom]
  · rfl
  · exact plain

/-- Tokens are read as they were written, unless a mark looks like the start of a name. -/
theorem scan_render (plain : Token.mark '"' ∉ tokens) : scan (render tokens) = some tokens := by
  induction tokens with
  | nil => rfl
  | cons token tokens ih =>
      rw [List.mem_cons, not_or] at plain
      have rest_eq := ih plain.2
      rw [render_cons]
      cases token with
      | mark character =>
          have differs : character ≠ '"' := fun quote => plain.1 (quote ▸ rfl)
          rw [Token.render, List.singleton_append, scan_cons_of_ne differs, rest_eq]
          rfl
      | name text =>
          rw [Token.render, scan_name_append, rest_eq]
          rfl

/-! ## Lines -/

theorem newline_not_mem_escape (text : Text) : '\n' ∉ escape text := by
  intro found
  obtain ⟨character, -, inside⟩ := List.mem_flatMap.1 found
  rcases escapeChar_cases character with ⟨taken, escaped, other, -⟩ | ⟨itself, -, -, other⟩
  · simp [escaped, other.symm] at inside
  · simp [itself, other.symm] at inside

/-- A line feed in a written document comes from a mark. -/
theorem newline_not_mem_render (single : Token.mark '\n' ∉ tokens) : '\n' ∉ render tokens := by
  intro found
  obtain ⟨token, token_mem, inside⟩ := List.mem_flatMap.1 found
  cases token with
  | mark character =>
      obtain rfl := List.mem_singleton.1 inside
      exact single token_mem
  | name text =>
      have escaped := newline_not_mem_escape text
      simp [Token.render, name, Text.between, escaped] at inside

/-- Lines of tokens are written as lines. -/
theorem render_intercalate (lines : List (List Token)) :
    render ([Token.mark '\n'].intercalate lines) = Text.joinLines (lines.map render) := by
  induction lines with
  | nil => rfl
  | cons first rest ih =>
      cases rest with
      | nil => simp [Text.joinLines]
      | cons second rest =>
          rw [List.intercalate_cons_cons, render_append, render_append, ih]
          rfl

end Dot
end ConceptMap
