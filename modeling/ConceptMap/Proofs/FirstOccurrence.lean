import ConceptMap.FirstOccurrence

/-!
# First occurrences of mapped lists

Keeping first occurrences commutes with mapping and with leaving keys out, and it leaves a list
without repetitions as it is.  Where no key is repeated, looking a key up finds its only member.
-/

namespace ConceptMap

variable {α β κ : Type} [DecidableEq κ]

theorem map_filter_key (change : α → β) (key : β → κ) (value : κ) (list : List α) :
    (list.filter fun member => key (change member) ≠ value).map change =
      (list.map change).filter fun member => key member ≠ value := by
  rw [List.filter_map]
  rfl

/-- Members can be changed before or after repetitions are left out. -/
theorem map_firstOccurrences (change : α → β) (key : β → κ) (list : List α) :
    (firstOccurrences (fun member => key (change member)) list).map change =
      firstOccurrences key (list.map change) := by
  induction list with
  | nil => rfl
  | cons first rest ih =>
      rw [firstOccurrences, List.map_cons, map_filter_key, ih]
      rfl

theorem firstOccurrences_eq_self {key : α → κ} {list : List α} (distinct : (list.map key).Nodup) :
    firstOccurrences key list = list := by
  induction list with
  | nil => rfl
  | cons first rest ih =>
      rw [List.map_cons, List.nodup_cons] at distinct
      rw [firstOccurrences, ih distinct.2, List.filter_eq_self.2]
      intro other found
      simp only [ne_eq, decide_not, Bool.not_eq_true', decide_eq_false_iff_not]
      exact fun same => distinct.1 (same ▸ List.mem_map_of_mem found)

/-- Members can be left out by their keys before or after repetitions are. -/
theorem filter_firstOccurrences (key : α → κ) (keep : κ → Bool) (list : List α) :
    (firstOccurrences key list).filter (fun member => keep (key member)) =
      firstOccurrences key (list.filter fun member => keep (key member)) := by
  induction list with
  | nil => rfl
  | cons first rest ih =>
      rw [firstOccurrences, List.filter_cons, List.filter_cons, List.filter_filter]
      split
      next kept =>
        rw [firstOccurrences, ← ih, List.filter_filter]
        simp only [Bool.and_comm]
      next dropped =>
        rw [← ih]
        refine List.filter_congr fun member _ => ?_
        by_cases same : key member = key first
        · simp [same, dropped]
        · simp [same]

/-- What comes behind a list changes nothing at its front. -/
theorem firstOccurrences_isPrefix_append (key : α → κ) (front back : List α) :
    firstOccurrences key front <+: firstOccurrences key (front ++ back) := by
  induction front with
  | nil => exact List.nil_prefix
  | cons first rest ih =>
      rw [List.cons_append, firstOccurrences, firstOccurrences, List.prefix_cons_inj]
      exact ih.filter _

/-- Of the list behind, those members are left whose keys the list in front does not have. -/
theorem firstOccurrences_append (key : α → κ) (front back : List α) :
    firstOccurrences key (front ++ back) = firstOccurrences key front ++
      (firstOccurrences key back).filter fun member => key member ∉ front.map key := by
  induction front with
  | nil =>
      rw [List.nil_append, firstOccurrences, List.nil_append, List.filter_eq_self.2]
      simp
  | cons first rest ih =>
      rw [List.cons_append, firstOccurrences, firstOccurrences, ih, List.filter_append,
        List.filter_filter, List.cons_append]
      congr 2
      refine List.filter_congr fun member _ => ?_
      simp only [List.map_cons, List.mem_cons, not_or, Bool.decide_and]

theorem firstOccurrences_sublist (key : α → κ) (list : List α) :
    (firstOccurrences key list).Sublist list := by
  induction list with
  | nil => exact List.Sublist.slnil
  | cons first rest ih => exact (List.filter_sublist.trans ih).cons_cons first

/-- In a list in the order of its lines what is kept of a key has the smallest line. -/
theorem le_of_mem_firstOccurrences {key : α → κ} {line : α → Nat} {list : List α}
    (sorted : list.Pairwise fun member other => line member ≤ line other) {kept other : α}
    (first : kept ∈ firstOccurrences key list) (found : other ∈ list)
    (same : key other = key kept) : line kept ≤ line other := by
  induction list with
  | nil => simp at found
  | cons head rest ih =>
      rw [List.pairwise_cons] at sorted
      rw [firstOccurrences, List.mem_cons, List.mem_filter] at first
      rcases first with rfl | ⟨kept_later, apart⟩
      · rcases List.mem_cons.1 found with rfl | found_later
        · exact Nat.le_refl _
        · exact sorted.1 other found_later
      · rcases List.mem_cons.1 found with rfl | found_later
        · simp [same] at apart
        · exact ih sorted.2 kept_later found_later

theorem mem_firstOccurrences_id {list : List κ} {member : κ} :
    member ∈ firstOccurrences id list ↔ member ∈ list := by
  have mapped : member ∈ (firstOccurrences id list).map id ↔ member ∈ list.map id :=
    mem_map_firstOccurrences
  simpa using mapped

theorem nodup_firstOccurrences_id (list : List κ) : (firstOccurrences id list).Nodup := by
  have distinct : ((firstOccurrences id list).map id).Nodup := nodup_map_firstOccurrences list
  simpa using distinct

/-- In another order the same keys are kept. -/
theorem perm_map_firstOccurrences {key : α → κ} {list other : List α} (perm : list.Perm other) :
    ((firstOccurrences key list).map key).Perm ((firstOccurrences key other).map key) := by
  refine (List.perm_ext_iff_of_nodup (nodup_map_firstOccurrences list)
    (nodup_map_firstOccurrences other)).2 fun value => ?_
  rw [mem_map_firstOccurrences, mem_map_firstOccurrences]
  exact (perm.map key).mem_iff

/-- Where no key is repeated, at most one member of a key can be found. -/
theorem find?_key_and_eq_some_iff {key : α → κ} {list : List α} (distinct : (list.map key).Nodup)
    (keep : α → Prop) [DecidablePred keep] {value : κ} {member : α} :
    (list.find? fun other => key other = value ∧ keep other) = some member ↔
      member ∈ list ∧ key member = value ∧ keep member := by
  constructor
  · intro found
    exact ⟨List.mem_of_find?_eq_some found, by simpa using List.find?_some found⟩
  · rintro ⟨member_found, rfl, kept⟩
    induction list with
    | nil => simp at member_found
    | cons first rest ih =>
        rw [List.map_cons, List.nodup_cons] at distinct
        rcases List.mem_cons.1 member_found with rfl | later
        · rw [List.find?_cons_of_pos (by simpa using kept)]
        · have other_key : key first ≠ key member := fun same =>
            distinct.1 (same ▸ List.mem_map_of_mem later)
          rw [List.find?_cons_of_neg (by simp [other_key])]
          exact ih distinct.2 later

theorem find?_key_eq_some_iff {key : α → κ} {list : List α} (distinct : (list.map key).Nodup)
    {value : κ} {member : α} :
    (list.find? fun other => key other = value) = some member ↔
      member ∈ list ∧ key member = value := by
  simpa using find?_key_and_eq_some_iff distinct fun _ => True

end ConceptMap
