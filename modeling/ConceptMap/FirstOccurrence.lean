/-!
# First occurrences

Lists of concepts, labels and predicates are read with repetitions; the first occurrence of each
key counts and fixes its place.
-/

namespace ConceptMap

/-- The members of a list whose key has not occurred before, in order. -/
def firstOccurrences {α κ : Type} [DecidableEq κ] (key : α → κ) : List α → List α
  | [] => []
  | first :: rest =>
      first :: (firstOccurrences key rest).filter fun other => key other ≠ key first

section
variable {α κ : Type} [DecidableEq κ] {key : α → κ}

@[simp]
theorem firstOccurrences_nil : firstOccurrences key [] = [] := rfl

theorem mem_of_mem_firstOccurrences {member : α} {list : List α}
    (found : member ∈ firstOccurrences key list) : member ∈ list := by
  induction list with
  | nil => simp at found
  | cons first rest ih =>
      simp only [firstOccurrences, List.mem_cons, List.mem_filter] at found ⊢
      exact found.imp id fun kept => ih kept.1

/-- Every key of the list is kept. -/
theorem exists_mem_firstOccurrences {member : α} {list : List α} (found : member ∈ list) :
    ∃ kept ∈ firstOccurrences key list, key kept = key member := by
  induction list with
  | nil => simp at found
  | cons first rest ih =>
      by_cases same : key member = key first
      · exact ⟨first, by simp [firstOccurrences], same.symm⟩
      · rcases List.mem_cons.1 found with rfl | found
        · exact absurd rfl same
        · obtain ⟨kept, kept_mem, kept_key⟩ := ih found
          exact ⟨kept, by simp [firstOccurrences, kept_mem, kept_key, same], kept_key⟩

theorem mem_map_firstOccurrences {list : List α} {value : κ} :
    value ∈ (firstOccurrences key list).map key ↔ value ∈ list.map key := by
  constructor
  · simp only [List.mem_map]
    rintro ⟨member, found, rfl⟩
    exact ⟨member, mem_of_mem_firstOccurrences found, rfl⟩
  · simp only [List.mem_map]
    rintro ⟨member, found, rfl⟩
    exact exists_mem_firstOccurrences found

/-- No key is kept twice. -/
theorem nodup_map_firstOccurrences (list : List α) :
    ((firstOccurrences key list).map key).Nodup := by
  induction list with
  | nil => simp
  | cons first rest ih =>
      simp only [firstOccurrences, List.map_cons, List.nodup_cons]
      refine ⟨?_, ih.sublist (List.filter_sublist.map key)⟩
      simp [List.mem_filter]

end

end ConceptMap
