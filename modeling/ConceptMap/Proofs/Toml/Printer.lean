import ConceptMap.Proofs.Export.Json
import ConceptMap.Proofs.Map.Saved
import ConceptMap.Toml.Printer

/-!
# The lines of printed documents

A line of a printed document ends with a line feed, and no carriage return is ever printed: inside a
text it is written as an escape.  So it does not matter whether line endings are unified before the
document is read.
-/

namespace ConceptMap
namespace Toml

theorem not_mem_of_plain {text : Text} (plain : Json.Plain text) : '\r' ∉ text :=
  fun found => absurd (plain _ found) (by decide)

/-! ## Values -/

theorem not_mem_writeChar (character : Char) : '\r' ∉ writeChar character := by
  rw [writeChar]
  split
  next special =>
    rcases special with rfl | rfl
    · decide
    · decide
  split
  next => decide
  split
  next => decide
  next other =>
    split
    next => decide
    split
    next =>
      rw [List.mem_singleton]
      exact fun same => other same.symm
    split
    next => exact not_mem_of_plain (Json.plain_append.2 ⟨by decide, Json.plain_hexDigits _ _⟩)
    next => exact not_mem_of_plain (Json.plain_append.2 ⟨by decide, Json.plain_hexDigits _ _⟩)

theorem not_mem_writeString (text : Text) : '\r' ∉ writeString text := by
  simp [writeString, Text.between, not_mem_writeChar]

theorem not_mem_writeKey (name : Text) : '\r' ∉ writeKey name := by
  rw [writeKey]
  split
  next bare =>
    intro found
    have letters := (Bool.and_eq_true_iff.1 bare).2
    exact absurd (List.all_eq_true.1 letters '\r' found) (by decide)
  next => exact not_mem_writeString name

theorem not_mem_ofNat (number : Nat) : '\r' ∉ Text.ofNat number :=
  not_mem_of_plain (Json.plain_ofNat number)

theorem not_mem_renderDecimal (style : Binary64.ExponentStyle) (decimal : Binary64.Decimal) :
    '\r' ∉ decimal.render style := by
  have digits : '\r' ∉ Text.ofNat decimal.digits := not_mem_ofNat _
  have front (count : Nat) : '\r' ∉ (Text.ofNat decimal.digits).take count :=
    mt List.mem_of_mem_take digits
  have back (count : Nat) : '\r' ∉ (Text.ofNat decimal.digits).drop count :=
    mt List.mem_of_mem_drop digits
  have sign (leading : Int) : '\r' ≠ if leading < 0 then '-' else '+' := by
    split <;> decide
  rw [Binary64.Decimal.render]
  split
  next =>
    simp only [List.mem_append, List.mem_cons, Binary64.ExponentStyle.render, not_or]
    refine ⟨⟨front 1, ?_⟩, by decide, sign _, by simp, not_mem_ofNat _⟩
    split
    next => exact List.not_mem_nil
    next => exact List.not_mem_cons_of_ne_of_not_mem (by decide) (back 1)
  split
  next => simp [digits]
  next =>
    simp only [List.mem_append, List.mem_cons, not_or]
    refine ⟨⟨front _, by simp⟩, by decide, ?_⟩
    split
    next => decide
    next => exact back _

theorem not_mem_renderNumber (style : Binary64.ExponentStyle) (number : Binary64) :
    '\r' ∉ number.render style := by
  cases number with
  | finite negative significand exponent =>
      have magnitude : '\r' ∉ if significand = 0 then ("0.0" : Text)
          else (Binary64.shortest significand exponent).render style := by
        split
        next => decide
        next => exact not_mem_renderDecimal style _
      rw [Binary64.render]
      split
      next => exact List.not_mem_cons_of_ne_of_not_mem (by decide) magnitude
      next => exact magnitude
  | infinite negative =>
      rw [Binary64.render]
      split <;> decide
  | undefined =>
      rw [Binary64.render]
      decide

theorem not_mem_writeDigits (width number : Nat) : '\r' ∉ Digits.write width number := by
  induction width generalizing number with
  | zero => exact List.not_mem_nil
  | succ width ih =>
      have digits : ∀ digit < 10, Nat.digitChar digit ≠ '\r' := by decide
      simp [Digits.write, ih, (digits _ (Nat.mod_lt number (by decide))).symm]

theorem not_mem_renderMoment (moment : Moment) : '\r' ∉ moment.render .document := by
  have day_free (day : Date) : '\r' ∉ day.render := by
    simp [Date.render, not_mem_writeDigits]
  have clock_free (clock : TimeOfDay) : '\r' ∉ clock.render := by
    rw [TimeOfDay.render]
    split <;> simp [not_mem_writeDigits]
  have offset_free (offset : Int) : '\r' ∉ Moment.renderOffset offset := by
    rw [Moment.renderOffset]
    split <;> simp [not_mem_writeDigits]
  cases moment with
  | date day => exact day_free day
  | time clock => exact clock_free clock
  | dateTime day clock offset =>
      simp only [Moment.render, List.mem_append, List.mem_cons, not_or]
      refine ⟨⟨day_free day, by decide, clock_free clock⟩, ?_⟩
      cases offset with
      | none => exact List.not_mem_nil
      | some offset =>
          dsimp only
          split
          next => decide
          next => exact offset_free offset

mutual

theorem not_mem_writeValue : (value : Setting) → '\r' ∉ writeValue value
  | .absent => List.not_mem_nil
  | .bool value => by
      rw [writeValue]
      split <;> decide
  | .integer value => not_mem_of_plain (Json.plain_ofInt value)
  | .number value => not_mem_renderNumber _ value
  | .text value => not_mem_writeString value
  | .moment value => not_mem_renderMoment value
  | .list items => by simp [writeValue, not_mem_writeItems items]
  | .table fields => by simp [writeValue, writeItem, not_mem_writeString]

theorem not_mem_writeItems : (items : List Setting) → '\r' ∉ writeItems items
  | [] => List.not_mem_nil
  | first :: rest => by
      simp [writeItems, writeItem, not_mem_writeValue first, not_mem_writeItems rest]

end

theorem not_mem_writeFields (table : Table) : '\r' ∉ (plainFields table).flatMap writeField := by
  simp [writeField, not_mem_writeKey, not_mem_writeValue]

/-! ## Tables -/

variable {outer name : Text} {table inner : Table} {depth : Nat}

theorem not_mem_qualify (free : '\r' ∉ outer) (name : Text) : '\r' ∉ qualify outer name := by
  rw [qualify]
  split
  next => exact not_mem_writeKey name
  next => simp [free, not_mem_writeKey]

theorem not_mem_of_mem_tablesAt (free : '\r' ∉ outer)
    (found : (name, inner) ∈ tablesAt depth outer table) : '\r' ∉ name := by
  induction depth generalizing outer table with
  | zero =>
      obtain ⟨rfl, rfl⟩ := Prod.mk.inj (List.mem_singleton.1 found)
      exact free
  | succ depth ih =>
      obtain ⟨⟨middle, fields⟩, within, deeper⟩ := List.mem_flatMap.1 found
      refine ih ?_ deeper
      obtain ⟨⟨label, value⟩, -, opened⟩ := List.mem_filterMap.1 within
      cases value with
      | table =>
          obtain ⟨rfl, rfl⟩ := Prod.mk.inj (Option.some.inj opened)
          exact not_mem_qualify free label
      | _ => cases opened

theorem not_mem_of_mem_allTables (free : '\r' ∉ outer)
    (found : (name, inner) ∈ allTables outer table) : '\r' ∉ name := by
  obtain ⟨depth, -, within⟩ := List.mem_flatMap.1 found
  exact not_mem_of_mem_tablesAt free within

theorem not_mem_spaced {body : Text} (free : '\r' ∉ body) : '\r' ∉ spaced body := by
  rw [spaced]
  split <;> simp [free]

theorem not_mem_writeBody (levels : Nat) (free : '\r' ∉ name) (table : Table) :
    '\r' ∉ writeBody levels name table := by
  induction levels generalizing name table with
  | zero => exact not_mem_writeFields table
  | succ levels ih =>
      rw [writeBody, List.mem_append, not_or]
      refine ⟨not_mem_writeFields table, fun found => ?_⟩
      obtain ⟨⟨label, value⟩, -, series⟩ := List.mem_flatMap.1 found
      cases value with
      | list items =>
          dsimp only at series
          split at series
          next =>
            obtain ⟨item, -, member⟩ := List.mem_flatMap.1 series
            cases item with
            | table fields =>
                -- a header in two brackets, the body of the member, and the tables inside it
                have full_free : '\r' ∉ qualify name label := not_mem_qualify free label
                have body_free := not_mem_spaced (ih full_free fields)
                simp only [List.mem_append, full_free, body_free, or_false] at member
                rcases member with (marks | marks) | deeper
                · exact absurd marks (by decide)
                · exact absurd marks (by decide)
                · obtain ⟨⟨inner_name, inner_table⟩, listed, written⟩ := List.mem_flatMap.1 deeper
                  have inner_free := not_mem_of_mem_allTables full_free listed
                  have written_free := ih inner_free inner_table
                  dsimp only at written
                  split at written
                  next => cases written
                  next => simp [inner_free, written_free] at written
            | _ => cases member
          next => cases series
      | _ => cases series

theorem not_mem_addTable {written body : Text} (free : '\r' ∉ written) (name_free : '\r' ∉ name)
    (body_free : '\r' ∉ body) : '\r' ∉ addTable written name body := by
  have gap_free : '\r' ∉ (if written.isEmpty || ['\n', '\n'].isSuffixOf written then []
      else ['\n'] : Text) := by
    split <;> decide
  rw [addTable]
  simp only [List.mem_append, List.mem_cons, not_or]
  exact ⟨⟨free, gap_free⟩, by decide, ⟨name_free, by decide⟩, body_free⟩

/-- No carriage return is printed. -/
theorem not_mem_print (table : Table) : '\r' ∉ print table := by
  rw [print]
  refine List.foldlRecOn (motive := fun written => '\r' ∉ written) _ _
    (not_mem_writeBody _ List.not_mem_nil table) ?_
  rintro written free ⟨name, inner⟩ listed
  have name_free := not_mem_of_mem_allTables List.not_mem_nil listed
  dsimp only
  split
  next => exact free
  next => exact not_mem_addTable free name_free (not_mem_writeBody _ name_free inner)

/-- A printed document is not changed when its line endings are unified. -/
theorem unifyNewlines_print (table : Table) : Text.unifyNewlines (print table) = print table :=
  Text.unifyNewlines_eq_self (not_mem_print table)

end Toml
end ConceptMap
