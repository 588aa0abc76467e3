import ConceptMap.Text.Basic

/-!
# First occurrences of a token

Cutting a text at a token finds the first place where the token stands, and fails exactly when the
token does not occur.  A character that the token does not contain keeps occurrences apart.
-/

namespace ConceptMap
namespace Text

/-- The token stands between the two texts, and nowhere further left. -/
structure FirstCut (token text before after : Text) : Prop where
  text_eq : text = before ++ token ++ after
  first : ∀ earlier later, text = earlier ++ token ++ later → before.length ≤ earlier.length

variable {token text before after : Text}

/-- A text has at most one first occurrence of a token. -/
theorem FirstCut.unique {otherBefore otherAfter : Text} (left : FirstCut token text before after)
    (right : FirstCut token text otherBefore otherAfter) :
    before = otherBefore ∧ after = otherAfter := by
  have length_eq : before.length = otherBefore.length :=
    Nat.le_antisymm (left.first _ _ right.text_eq) (right.first _ _ left.text_eq)
  have parts_eq := left.text_eq.symm.trans right.text_eq
  rw [List.append_assoc, List.append_assoc] at parts_eq
  obtain ⟨before_eq, rest_eq⟩ := List.append_inj parts_eq length_eq
  exact ⟨before_eq, List.append_cancel_left rest_eq⟩

/-- What `cut` finds is the first occurrence. -/
theorem firstCut_of_cut (found : cut token text = some (before, after)) :
    FirstCut token text before after := by
  refine ⟨eq_append_of_cut found, ?_⟩
  induction text generalizing before after with
  | nil => simp at found
  | cons character rest ih =>
      intro earlier later text_eq
      rw [cut] at found
      split at found
      next starts =>
        simp only [Option.some.injEq, Prod.mk.injEq] at found
        simp [← found.1]
      next starts =>
        simp only [Option.map_eq_some_iff, Prod.mk.injEq] at found
        obtain ⟨⟨front, back⟩, front_cut, rfl, rfl⟩ := found
        cases earlier with
        | nil =>
            rw [List.nil_append] at text_eq
            exact absurd (List.isPrefixOf_iff_prefix.2 ⟨later, text_eq.symm⟩) starts
        | cons head earlier =>
            simp only [List.cons_append, List.cons.injEq] at text_eq
            have shorter := ih front_cut earlier later (by simpa using text_eq.2)
            simpa using shorter

theorem exists_cut_of_infix (nonempty : token ≠ []) (occurs : token <:+: text) :
    ∃ before after, cut token text = some (before, after) := by
  induction text with
  | nil => exact absurd (List.infix_nil.1 occurs) nonempty
  | cons character rest ih =>
      rw [cut]
      split
      next => exact ⟨_, _, rfl⟩
      next starts =>
        rcases List.infix_cons_iff.1 occurs with here | later
        · exact absurd (List.isPrefixOf_iff_prefix.2 here) starts
        · obtain ⟨before, after, found⟩ := ih later
          exact ⟨character :: before, after, by rw [found]; rfl⟩

/-- A nonempty token is mentioned exactly when it occurs. -/
theorem mentions_iff (nonempty : token ≠ []) : mentions token text = true ↔ token <:+: text := by
  rw [mentions, Option.isSome_iff_exists]
  constructor
  · rintro ⟨⟨before, after⟩, found⟩
    exact ⟨before, after, (eq_append_of_cut found).symm⟩
  · intro occurs
    obtain ⟨before, after, found⟩ := exists_cut_of_infix nonempty occurs
    exact ⟨_, found⟩

/-- Cutting finds exactly the first occurrence of a nonempty token. -/
theorem cut_eq_some_iff (nonempty : token ≠ []) :
    cut token text = some (before, after) ↔ FirstCut token text before after := by
  constructor
  · exact firstCut_of_cut
  · intro here
    obtain ⟨front, back, found⟩ :=
      exists_cut_of_infix nonempty ⟨before, after, here.text_eq.symm⟩
    obtain ⟨rfl, rfl⟩ := (firstCut_of_cut found).unique here
    exact found

/-- No occurrence of a token reaches across a character that it does not contain. -/
theorem not_prefix_append_cons {separator : Char} (separate : separator ∉ token)
    (absent : ¬ token <:+: before) (rest : Text) :
    ¬ token <+: before ++ separator :: rest := by
  intro starts
  have margin : before ++ [separator] <+: before ++ separator :: rest := ⟨rest, by simp⟩
  rcases List.prefix_or_prefix_of_prefix starts margin with inside | across
  · rcases List.prefix_concat_iff.1 inside with token_eq | inside
    · exact separate (by simp [token_eq])
    · exact absent inside.isInfix
  · exact separate (across.subset (by simp))

theorem cut_token_append (nonempty : token ≠ []) (after : Text) :
    cut token (token ++ after) = some ([], after) := by
  obtain ⟨head, tail, rfl⟩ := List.exists_cons_of_ne_nil nonempty
  have starts : (head :: tail).isPrefixOf (head :: (tail ++ after)) = true :=
    List.isPrefixOf_iff_prefix.2 ⟨after, rfl⟩
  rw [List.cons_append, cut, if_pos starts]
  simp

/-- A token behind a separating character is the first one, if it does not occur before that. -/
theorem cut_append_separator {separator : Char} (nonempty : token ≠ [])
    (separate : separator ∉ token) (absent : ¬ token <:+: before) (after : Text) :
    cut token (before ++ separator :: (token ++ after)) =
      some (before ++ [separator], after) := by
  induction before with
  | nil =>
      have outside : ¬ token <+: separator :: (token ++ after) :=
        not_prefix_append_cons separate absent _
      rw [List.nil_append, cut, if_neg (mt List.isPrefixOf_iff_prefix.1 outside),
        cut_token_append nonempty]
      rfl
  | cons character rest ih =>
      have outside := not_prefix_append_cons separate absent (token ++ after)
      rw [List.cons_append] at outside ⊢
      rw [cut, if_neg (mt List.isPrefixOf_iff_prefix.1 outside),
        ih fun occurs => absent (List.infix_cons occurs)]
      rfl

end Text
end ConceptMap
