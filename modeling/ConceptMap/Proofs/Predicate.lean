import ConceptMap.Predicate
import ConceptMap.Proofs.Text.Token
import ConceptMap.Proofs.Text.Trim

/-!
# Predicate lines

A line states a predicate exactly when it falls apart at its first `--` and at the first `->`
behind that into three pieces which, once trimmed, are neither empty nor contain a token.  What a
line states is well-formed, and a well-formed predicate is stated by the line that renders it.
-/

namespace ConceptMap
namespace Predicate

open Text

/-- Neither `--` nor `->` occurs in the text. -/
def TokenFree (text : Text) : Prop := ¬ dashes <:+: text ∧ ¬ arrow <:+: text

/-- The line divides at its first `--` and at the first `->` behind it, and its pieces, once
trimmed, are the parts of the predicate: not empty, and without tokens. -/
inductive States (line : Text) : Predicate → Prop where
  | divided {source rest relationship target : Text}
      (at_dashes : FirstCut dashes line source rest)
      (at_arrow : FirstCut arrow rest relationship target)
      (parts : ∀ part ∈ [source, relationship, target], trim part ≠ [] ∧ TokenFree (trim part)) :
      States line ⟨trim source, trim relationship, trim target⟩

instance (text : Text) : Decidable (IsPart text) :=
  decidable_of_iff
    (text ≠ [] ∧ IsTrimmed text ∧ '\n' ∉ text ∧ hasToken text = false)
    ⟨fun ⟨nonempty, trimmed, one_line, free⟩ => ⟨nonempty, trimmed, one_line, free⟩,
      fun ⟨nonempty, trimmed, one_line, free⟩ => ⟨nonempty, trimmed, one_line, free⟩⟩

instance (predicate : Predicate) : Decidable predicate.WellFormed :=
  decidable_of_iff
    (IsPart predicate.source ∧ IsPart predicate.relationship ∧ IsPart predicate.target)
    ⟨fun ⟨source, relationship, target⟩ => ⟨source, relationship, target⟩,
      fun ⟨source, relationship, target⟩ => ⟨source, relationship, target⟩⟩

theorem dashes_ne_nil : dashes ≠ [] := by simp [dashes]

theorem arrow_ne_nil : arrow ≠ [] := by simp [arrow]

theorem hasToken_eq_false_iff {text : Text} : hasToken text = false ↔ TokenFree text := by
  rw [hasToken, Bool.or_eq_false_iff, TokenFree, ← mentions_iff dashes_ne_nil,
    ← mentions_iff arrow_ne_nil, Bool.not_eq_true, Bool.not_eq_true]

theorem isPart_iff {text : Text} :
    IsPart text ↔ text ≠ [] ∧ trim text = text ∧ '\n' ∉ text ∧
      ¬ dashes <:+: text ∧ ¬ arrow <:+: text := by
  constructor
  · rintro ⟨nonempty, trimmed, one_line, free⟩
    exact ⟨nonempty, trimmed, one_line, hasToken_eq_false_iff.1 free⟩
  · rintro ⟨nonempty, trimmed, one_line, free⟩
    exact ⟨nonempty, trimmed, one_line, hasToken_eq_false_iff.2 free⟩

theorem divide_eq_some_iff {line source relationship target : Text} :
    divide line = some (source, relationship, target) ↔
      ∃ rest, FirstCut dashes line source rest ∧ FirstCut arrow rest relationship target := by
  simp only [divide, Option.bind_eq_bind, Option.bind_eq_some_iff, Prod.exists, Option.pure_def,
    Option.some.injEq, Prod.mk.injEq, ← cut_eq_some_iff dashes_ne_nil,
    ← cut_eq_some_iff arrow_ne_nil]
  constructor
  · rintro ⟨_, rest, dashes_found, _, _, arrow_found, rfl, rfl, rfl⟩
    exact ⟨rest, dashes_found, arrow_found⟩
  · rintro ⟨rest, dashes_found, arrow_found⟩
    exact ⟨_, rest, dashes_found, _, _, arrow_found, rfl, rfl, rfl⟩

theorem tokenPart?_eq_none_iff {predicate : Predicate} :
    predicate.tokenPart? = none ↔
      ∀ part ∈ [predicate.source, predicate.relationship, predicate.target], TokenFree part := by
  simp [tokenPart?, hasToken_eq_false_iff]

/-- A line is read as a predicate exactly when it is one line and states the predicate. -/
theorem parse_eq_ok_iff {line : Text} {predicate : Predicate} :
    parse line = .ok predicate ↔ '\n' ∉ line ∧ States line predicate := by
  constructor
  · intro parsed
    rw [parse] at parsed
    split at parsed
    next => simp at parsed
    next one_line =>
      refine ⟨by simpa using one_line, ?_⟩
      split at parsed
      next => simp at parsed
      next source relationship target divided =>
        obtain ⟨rest, at_dashes, at_arrow⟩ := divide_eq_some_iff.1 divided
        simp only at parsed
        split at parsed
        next => simp at parsed
        next filled =>
          split at parsed
          next => simp at parsed
          next free =>
            rw [tokenPart?_eq_none_iff] at free
            obtain rfl := Except.ok.inj parsed
            refine .divided at_dashes at_arrow ?_
            simp_all
  · rintro ⟨one_line, ⟨at_dashes, at_arrow, parts⟩⟩
    have divided := divide_eq_some_iff.2 ⟨_, at_dashes, at_arrow⟩
    rw [parse, if_neg (by simpa using one_line), divided]
    simp only
    rw [if_neg (by simp_all), tokenPart?_eq_none_iff.2 (by simp_all)]

/-- A line feed is reported exactly when there is one. -/
theorem parse_eq_lineFeed_iff {line : Text} : parse line = .error .lineFeed ↔ '\n' ∈ line := by
  rw [parse]
  split
  next broken => simpa using broken
  next one_line =>
    have absent : '\n' ∉ line := by simpa using one_line
    simp only [absent, iff_false]
    split
    next => simp
    next =>
      split
      next => simp
      next => split <;> simp

/-- A line states at most one predicate. -/
theorem States.unique {line : Text} {first second : Predicate} (left : States line first)
    (right : States line second) : first = second := by
  obtain ⟨left_dashes, left_arrow, _⟩ := left
  obtain ⟨right_dashes, right_arrow, _⟩ := right
  obtain ⟨rfl, rfl⟩ := left_dashes.unique right_dashes
  obtain ⟨rfl, rfl⟩ := left_arrow.unique right_arrow
  rfl

/-- The parts that a single line states are well-formed. -/
theorem States.wellFormed {line : Text} {predicate : Predicate} (states : States line predicate)
    (one_line : '\n' ∉ line) : predicate.WellFormed := by
  obtain @⟨source, rest, relationship, target, at_dashes, at_arrow, parts⟩ := states
  rw [at_dashes.text_eq, at_arrow.text_eq] at one_line
  simp only [List.mem_append, not_or] at one_line
  obtain ⟨⟨source_free, _⟩, ⟨relationship_free, _⟩, target_free⟩ := one_line
  have isPart {part : Text} (found : part ∈ [source, relationship, target])
      (free : '\n' ∉ part) : IsPart (trim part) :=
    { ne_nil := (parts part found).1
      trimmed := isTrimmed_trim part
      no_lineFeed := mt mem_of_mem_trim free
      no_token := hasToken_eq_false_iff.2 (parts part found).2 }
  exact ⟨isPart (by simp) source_free, isPart (by simp) relationship_free,
    isPart (by simp) target_free⟩

/-! ## Rendered predicates -/

theorem render_eq (predicate : Predicate) :
    predicate.render =
      predicate.source ++ ' ' :: (dashes ++
        (' ' :: predicate.relationship ++ ' ' :: (arrow ++ ' ' :: predicate.target))) := by
  simp [render, dashes, arrow]

theorem IsPart.tokenFree {part : Text} (isPart : IsPart part) : TokenFree part :=
  hasToken_eq_false_iff.1 isPart.no_token

theorem allBlank_space : AllBlank [' '] := by simp [AllBlank, isBlank]

variable {predicate : Predicate}

/-- A well-formed predicate is what its own line states. -/
theorem WellFormed.states_render (wellFormed : predicate.WellFormed) :
    States predicate.render predicate := by
  have at_dashes := firstCut_of_cut (cut_append_separator dashes_ne_nil
    (by decide : ' ' ∉ dashes) wellFormed.source.tokenFree.1
    (' ' :: predicate.relationship ++ ' ' :: (arrow ++ ' ' :: predicate.target)))
  have arrow_absent : ¬ arrow <:+: ' ' :: predicate.relationship := by
    rw [List.infix_cons_iff, not_or]
    exact ⟨by simp [arrow], wellFormed.relationship.tokenFree.2⟩
  have at_arrow := firstCut_of_cut (cut_append_separator arrow_ne_nil (by decide : ' ' ∉ arrow)
    arrow_absent (' ' :: predicate.target))
  rw [← render_eq] at at_dashes
  have source_eq : trim (predicate.source ++ [' ']) = predicate.source :=
    (trim_append_of_allBlank allBlank_space _).trans wellFormed.source.trimmed
  have relationship_eq : trim (' ' :: predicate.relationship ++ [' ']) = predicate.relationship :=
    (trim_append_of_allBlank allBlank_space _).trans
      ((trim_allBlank_append allBlank_space _).trans wellFormed.relationship.trimmed)
  have target_eq : trim (' ' :: predicate.target) = predicate.target :=
    (trim_allBlank_append allBlank_space _).trans wellFormed.target.trimmed
  have stated := States.divided at_dashes at_arrow (by
    simp only [List.mem_cons, List.not_mem_nil, or_false, forall_eq_or_imp, forall_eq, source_eq,
      relationship_eq, target_eq]
    exact ⟨⟨wellFormed.source.ne_nil, wellFormed.source.tokenFree⟩,
      ⟨wellFormed.relationship.ne_nil, wellFormed.relationship.tokenFree⟩,
      ⟨wellFormed.target.ne_nil, wellFormed.target.tokenFree⟩⟩)
  rwa [source_eq, relationship_eq, target_eq] at stated

theorem WellFormed.not_mem_render (wellFormed : predicate.WellFormed) :
    '\n' ∉ predicate.render := by
  simp [render_eq, dashes, arrow, wellFormed.source.no_lineFeed,
    wellFormed.relationship.no_lineFeed, wellFormed.target.no_lineFeed]

theorem WellFormed.isTrimmed_render (wellFormed : predicate.WellFormed) :
    IsTrimmed predicate.render := by
  have trimmed := isTrimmed_append wellFormed.source.ne_nil wellFormed.target.ne_nil
    wellFormed.source.trimmed wellFormed.target.trimmed
    (" -- " ++ predicate.relationship ++ " -> ")
  simpa [render] using trimmed

theorem getLast?_render (nonempty : predicate.target ≠ []) :
    predicate.render.getLast? = predicate.target.getLast? := by
  rw [render, List.getLast?_append_of_ne_nil _ nonempty]

/-- The target ends where the stated line does. -/
theorem States.getLast?_target {line : Text} (states : States line predicate)
    (trimmed : IsTrimmed line) : predicate.target.getLast? = line.getLast? := by
  obtain @⟨source, rest, relationship, target, at_dashes, at_arrow, parts⟩ := states
  have target_nonempty : trim target ≠ [] := (parts target (by simp)).1
  obtain ⟨front, back, front_blank, back_blank, target_eq⟩ := exists_append_trim_append target
  have line_eq := at_dashes.text_eq
  rw [at_arrow.text_eq, target_eq] at line_eq
  have back_eq : back = [] := by
    by_contra back_nonempty
    have last_eq : line.getLast? = some (back.getLast back_nonempty) := by
      rw [line_eq]
      simp [List.getLast?_append, List.getLast?_eq_some_getLast back_nonempty]
    have not_blank := (isTrimmed_iff.1 trimmed).2 _ last_eq
    simp [back_blank _ (List.getLast_mem back_nonempty)] at not_blank
  rw [line_eq, back_eq]
  simp [List.getLast?_append, List.getLast?_eq_some_getLast target_nonempty]

end Predicate
end ConceptMap
