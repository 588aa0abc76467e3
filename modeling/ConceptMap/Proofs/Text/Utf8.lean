import ConceptMap.Text.Utf8
import Mathlib.Tactic.IntervalCases

/-!
# Written bytes are read again

The bytes of a text spell that text.  Reading them comes back to where no sequence is in progress
behind every character, so that one character after another is found again.
-/

namespace ConceptMap
namespace Utf8

variable {position code : Nat} {rest : List UInt8}

theorem toNat_ofNat_of_lt {value : Nat} (small : value < 256) :
    (UInt8.ofNat value).toNat = value := by
  rw [UInt8.toNat_ofNat']
  omega

section Sequences

variable {bytes : List UInt8} {bits later low high value : Nat}

/-- A byte in its range goes on with a sequence. -/
theorem decodeFrom_continue (small : value < 256) (least : low ≤ value) (greatest : value ≤ high) :
    decodeFrom position (some ⟨bytes, bits, later + 1, low, high⟩) (.ofNat value :: rest) =
      decodeFrom (position + 1)
        (some ⟨bytes ++ [.ofNat value], bits * 64 + (value - 0x80), later, 0x80, 0xBF⟩) rest := by
  rw [decodeFrom, toNat_ofNat_of_lt small, if_pos ⟨least, greatest⟩]

/-- The last byte completes a character. -/
theorem decodeFrom_complete (small : value < 256) (least : low ≤ value) (greatest : value ≤ high) :
    decodeFrom position (some ⟨bytes, bits, 0, low, high⟩) (.ofNat value :: rest) =
      (decodeFrom (position + 1) none rest).map (Char.ofNat (bits * 64 + (value - 0x80)) :: ·) := by
  rw [decodeFrom, toNat_ofNat_of_lt small, if_pos ⟨least, greatest⟩]

theorem decodeFrom_lead {tails : Nat}
    (announced : lead (.ofNat value) = some ⟨bits, tails + 1, low, high⟩) :
    decodeFrom position none (.ofNat value :: rest) =
      decodeFrom (position + 1) (some ⟨[.ofNat value], bits, tails, low, high⟩) rest := by
  rw [decodeFrom, announced]

end Sequences

/-! ## First bytes -/

/-- Two bytes are announced with the upper bits. -/
theorem lead_two (low : 2 ≤ code) (high : code < 32) :
    lead (.ofNat (0xC0 + code)) = some ⟨code, 1, 0x80, 0xBF⟩ := by
  have value_eq := toNat_ofNat_of_lt (show 0xC0 + code < 256 by omega)
  have bits_eq : 0xC0 + code - 0xC0 = code := by omega
  simp only [lead, value_eq, bits_eq]
  rw [if_neg (by omega), if_neg (by omega), if_pos (by omega)]

/-- Three bytes are announced so that the second one can only give a character of three bytes. -/
theorem exists_lead_three (high : code < 16) :
    ∃ least greatest, lead (.ofNat (0xE0 + code)) = some ⟨code, 2, least, greatest⟩ ∧
      least = (if code = 0 then 0xA0 else 0x80) ∧
        greatest = (if code = 0xD then 0x9F else 0xBF) := by
  have value_eq := toNat_ofNat_of_lt (show 0xE0 + code < 256 by omega)
  refine ⟨_, _, ?_, rfl, rfl⟩
  simp only [lead, value_eq]
  rw [if_neg (by omega), if_neg (by omega), if_neg (by omega)]
  by_cases first : code = 0
  · subst first
    rfl
  · rw [if_neg (by omega), if_neg first]
    by_cases surrogates : code = 0xD
    · subst surrogates
      rfl
    · rw [if_neg (by omega), if_pos (by omega), if_neg surrogates]
      have bits_eq : 0xE0 + code - 0xE0 = code := by omega
      rw [bits_eq]

/-- Four bytes are announced so that the second one can only give a character of four bytes. -/
theorem exists_lead_four (high : code ≤ 4) :
    ∃ least greatest, lead (.ofNat (0xF0 + code)) = some ⟨code, 3, least, greatest⟩ ∧
      least = (if code = 0 then 0x90 else 0x80) ∧ greatest = (if code = 4 then 0x8F else 0xBF) := by
  refine ⟨_, _, ?_, rfl, rfl⟩
  interval_cases code <;> rfl

/-! ## Characters -/

theorem decodeFrom_two (position : Nat) (rest : List UInt8) (low : 0x80 ≤ code)
    (high : code < 0x800) :
    decodeFrom position none (.ofNat (0xC0 + code / 64) :: .ofNat (0x80 + code % 64) :: rest) =
      (decodeFrom (position + 2) none rest).map (Char.ofNat code :: ·) := by
  have bits_eq : code / 64 * 64 + (0x80 + code % 64 - 0x80) = code := by omega
  rw [decodeFrom_lead (lead_two (by omega) (by omega)),
    decodeFrom_complete (by omega) (by omega) (by omega), bits_eq]

theorem decodeFrom_three (position : Nat) (rest : List UInt8) (low : 0x800 ≤ code)
    (high : code < 0x10000) (not_surrogate : code < 0xD800 ∨ 0xDFFF < code) :
    decodeFrom position none (.ofNat (0xE0 + code / 4096) :: .ofNat (0x80 + code / 64 % 64) ::
        .ofNat (0x80 + code % 64) :: rest) =
      (decodeFrom (position + 3) none rest).map (Char.ofNat code :: ·) := by
  obtain ⟨least, greatest, announced, least_eq, greatest_eq⟩ :=
    exists_lead_three (show code / 4096 < 16 by omega)
  have inside : least ≤ 0x80 + code / 64 % 64 ∧ 0x80 + code / 64 % 64 ≤ greatest := by
    rw [least_eq, greatest_eq]
    constructor <;> split <;> omega
  have bits_eq : (code / 4096 * 64 + (0x80 + code / 64 % 64 - 0x80)) * 64 +
      (0x80 + code % 64 - 0x80) = code := by omega
  rw [decodeFrom_lead announced, decodeFrom_continue (by omega) inside.1 inside.2,
    decodeFrom_complete (by omega) (by omega) (by omega), bits_eq]

theorem decodeFrom_four (position : Nat) (rest : List UInt8) (low : 0x10000 ≤ code)
    (high : code < 0x110000) :
    decodeFrom position none (.ofNat (0xF0 + code / 262144) :: .ofNat (0x80 + code / 4096 % 64) ::
        .ofNat (0x80 + code / 64 % 64) :: .ofNat (0x80 + code % 64) :: rest) =
      (decodeFrom (position + 4) none rest).map (Char.ofNat code :: ·) := by
  obtain ⟨least, greatest, announced, least_eq, greatest_eq⟩ :=
    exists_lead_four (show code / 262144 ≤ 4 by omega)
  have inside : least ≤ 0x80 + code / 4096 % 64 ∧ 0x80 + code / 4096 % 64 ≤ greatest := by
    rw [least_eq, greatest_eq]
    constructor <;> split <;> omega
  have bits_eq : ((code / 262144 * 64 + (0x80 + code / 4096 % 64 - 0x80)) * 64 +
      (0x80 + code / 64 % 64 - 0x80)) * 64 + (0x80 + code % 64 - 0x80) = code := by omega
  rw [decodeFrom_lead announced, decodeFrom_continue (by omega) inside.1 inside.2,
    decodeFrom_continue (by omega) (by omega) (by omega),
    decodeFrom_complete (by omega) (by omega) (by omega), bits_eq]

/-- The bytes of a character are read as it, whatever comes behind them. -/
theorem decodeFrom_encodeChar (position : Nat) (character : Char) (rest : List UInt8) :
    decodeFrom position none (encodeChar character ++ rest) =
      (decodeFrom (position + (encodeChar character).length) none rest).map (character :: ·) := by
  have valid : character.toNat.isValidChar := character.valid
  have again : Char.ofNat character.toNat = character := Char.ofNat_toNat character
  simp only [Nat.isValidChar] at valid
  simp only [encodeChar]
  split
  next single =>
    have value_eq := toNat_ofNat_of_lt (show character.toNat < 256 by omega)
    have announced : lead (.ofNat character.toNat) = some ⟨character.toNat, 0, 0, 0⟩ := by
      simp only [lead, value_eq]
      rw [if_pos (by omega)]
    simp only [List.singleton_append, decodeFrom, announced, again, List.length_singleton]
  next not_one =>
    split
    next two =>
      have read := decodeFrom_two position rest (Nat.not_lt.1 not_one) two
      rw [again] at read
      exact read
    next not_two =>
      split
      next three =>
        have read := decodeFrom_three position rest (Nat.not_lt.1 not_two) three (by omega)
        rw [again] at read
        exact read
      next not_three =>
        have below : character.toNat < 0x110000 := by omega
        have read := decodeFrom_four position rest (Nat.not_lt.1 not_three) below
        rw [again] at read
        exact read

theorem decode_encode (text : Text) : decode (encode text) = .ok text := by
  have from_any (position : Nat) : decodeFrom position none (encode text) = .ok text := by
    induction text generalizing position with
    | nil => rfl
    | cons character rest ih =>
        rw [encode, List.flatMap_cons, decodeFrom_encodeChar, ← encode, ih]
        rfl
  exact from_any 0

end Utf8
end ConceptMap
