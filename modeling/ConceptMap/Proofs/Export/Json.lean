import ConceptMap.Export.Payload
import ConceptMap.Proofs.Text.ControlSequence

/-!
# The characters of JSON documents

A JSON document consists of printable ASCII characters and line feeds, whatever is in the texts that
it contains.
-/

namespace ConceptMap
namespace Json

/-- The character is a line feed or a printable ASCII character. -/
def IsPlain (character : Char) : Prop :=
  character = '\n' ∨ 0x20 ≤ character.toNat ∧ character.toNat ≤ 0x7E

instance (character : Char) : Decidable (IsPlain character) :=
  inferInstanceAs (Decidable (_ ∨ _))

/-- The text consists of such characters. -/
def Plain (text : Text) : Prop := ∀ character ∈ text, IsPlain character

instance (text : Text) : Decidable (Plain text) :=
  List.decidableBAll IsPlain text

@[simp]
theorem plain_append {first second : Text} :
    Plain (first ++ second) ↔ Plain first ∧ Plain second := by
  simp [Plain, or_imp, forall_and]

@[simp]
theorem plain_cons {character : Char} {rest : Text} :
    Plain (character :: rest) ↔ IsPlain character ∧ Plain rest := by
  simp [Plain]

@[simp]
theorem plain_nil : Plain [] := by simp [Plain]

theorem plain_ofNat (number : Nat) : Plain (Text.ofNat number) := by
  intro digit found
  have decimal : digit.isDigit = true :=
    Nat.isDigit_of_mem_toDigits (by decide) (by decide) found
  simp only [Char.isDigit, Bool.and_eq_true, decide_eq_true_eq, ge_iff_le, UInt32.le_iff_toNat_le]
    at decimal
  have low : 48 ≤ digit.toNat := decimal.1
  have high : digit.toNat ≤ 57 := decimal.2
  right
  omega

theorem plain_ofInt (number : Int) : Plain (Text.ofInt number) := by
  cases number with
  | ofNat number => exact plain_ofNat number
  | negSucc number => exact plain_cons.2 ⟨by decide, plain_ofNat _⟩

theorem plain_hexDigits (width number : Nat) : Plain (Text.hexDigits width number) := by
  induction width generalizing number with
  | zero => exact plain_nil
  | succ width ih =>
      have digits : ∀ digit < 16, IsPlain (Nat.digitChar digit) := by decide
      exact plain_append.2 ⟨ih _, plain_cons.2 ⟨digits _ (Nat.mod_lt _ (by decide)), plain_nil⟩⟩

theorem plain_unitEscape (unit : Nat) : Plain (unitEscape unit) :=
  plain_append.2 ⟨by decide, plain_hexDigits 4 unit⟩

theorem plain_escapeChar (character : Char) : Plain (escapeChar character) := by
  simp only [escapeChar]
  split
  next => decide
  split
  next => decide
  split
  next => decide
  split
  next => decide
  split
  next => decide
  split
  next => decide
  split
  next => decide
  split
  next printable => exact plain_cons.2 ⟨.inr printable, plain_nil⟩
  split
  next => exact plain_unitEscape _
  next => exact plain_append.2 ⟨plain_unitEscape _, plain_unitEscape _⟩

theorem plain_renderString (text : Text) : Plain (renderString text) := by
  have escaped : Plain (text.flatMap escapeChar) := by
    intro character found
    obtain ⟨source, -, inside⟩ := List.mem_flatMap.1 found
    exact plain_escapeChar source character inside
  simp [renderString, Text.between, escaped, show IsPlain '"' by decide]

theorem plain_lineStart (depth : Nat) : Plain (lineStart depth) := by
  refine plain_cons.2 ⟨by decide, fun character found => ?_⟩
  rw [List.eq_of_mem_replicate found]
  decide

mutual

theorem plain_renderAt (depth : Nat) : (json : Json) → Plain (json.renderAt depth)
  | .null => show Plain ("null" : Text) by decide
  | .bool true => show Plain ("true" : Text) by decide
  | .bool false => show Plain ("false" : Text) by decide
  | .integer value => plain_ofInt value
  | .string value => plain_renderString value
  | .array [] => show Plain ("[]" : Text) by decide
  | .array (first :: rest) => by
      have items := plain_renderItems (depth + 1) (first :: rest)
      simp [renderAt, items, plain_lineStart, show IsPlain '[' by decide,
        show IsPlain ']' by decide]
  | .object [] => show Plain ['{', '}'] by decide
  | .object (first :: rest) => by
      have fields := plain_renderFields (depth + 1) (first :: rest)
      simp [renderAt, fields, plain_lineStart, show IsPlain '{' by decide,
        show IsPlain '}' by decide]

theorem plain_renderItems (depth : Nat) : (items : List Json) → Plain (renderItems depth items)
  | [] => plain_nil
  | [only] => plain_append.2 ⟨plain_lineStart depth, plain_renderAt depth only⟩
  | first :: second :: rest => by
      have head := plain_renderAt depth first
      have later := plain_renderItems depth (second :: rest)
      simp [renderItems, head, later, plain_lineStart, show IsPlain ',' by decide]

theorem plain_renderFields (depth : Nat) :
    (fields : List (Text × Json)) → Plain (renderFields depth fields)
  | [] => plain_nil
  | [(name, only)] => by
      have value := plain_renderAt depth only
      have colon : Plain (": " : Text) := by decide
      rw [renderFields]
      exact plain_append.2 ⟨plain_append.2 ⟨plain_append.2
        ⟨plain_lineStart depth, plain_renderString name⟩, colon⟩, value⟩
  | (name, first) :: second :: rest => by
      have head := plain_renderAt depth first
      have later := plain_renderFields depth (second :: rest)
      have colon : Plain (": " : Text) := by decide
      rw [renderFields]
      exact plain_append.2 ⟨plain_append.2 ⟨plain_append.2 ⟨plain_append.2
        ⟨plain_lineStart depth, plain_renderString name⟩, colon⟩, head⟩,
          plain_cons.2 ⟨by decide, later⟩⟩

end

/-- A JSON document has no control characters but line feeds. -/
theorem plain_render (json : Json) : Plain json.render := plain_renderAt 0 json

end Json

/-- An export as JSON is printed as it is. -/
theorem Map.free_toJsonText (map : Map) : ControlSequence.Free map.toJsonText := by
  refine ControlSequence.free_of_not_mem fun inside => ?_
  exact absurd (Json.plain_render map.payload.toJson '\x1b' inside) (by decide)

end ConceptMap
