import ConceptMap.Proofs.CommandLine.Commands
import ConceptMap.Proofs.Map.Request

/-!
# Numbers among the arguments

A number that is given as an argument has no more digits than can be written, so that only the
settings can bring in a distance limit that cannot.
-/

namespace ConceptMap

theorem Numeral.isWritable_iff {number : Int} :
    isWritable number ↔ number.natAbs < 10 ^ mostDigits := by
  have some_digits : 0 < mostDigits := by decide
  rw [isWritable, decide_eq_true_eq, Text.ofNat, Nat.length_toDigits_le_iff (by decide) some_digits]

namespace CommandLine

end CommandLine
end ConceptMap
