import ConceptMap.Proofs.Graph.Distance
import Mathlib.Data.List.Nodup
import Mathlib.Logic.Function.Iterate

/-!
# Searching with a queue

Members wait in a queue until their successors are looked at, first come, first served.  Such a
search goes through the layers of an exploration one behind the other.  So it comes to an end in
every graph, and what it has met by then are the ids that walks lead to, each once, in ascending
order of their distances.
-/

namespace ConceptMap

section
variable {α : Type} [DecidableEq α]

/-- The members that have not been seen, each once, in order. -/
def newcomers (seen members : List α) : List α :=
  firstOccurrences id (members.filter fun member => !seen.contains member)

/-- Nothing is left to be met behind the layers of as many rounds. -/
def Exhausts (successors : α → List α) : (rounds : Nat) → (seen layer : List α) → Prop
  | 0, seen, layer => unseen successors seen layer = []
  | rounds + 1, seen, layer =>
      Exhausts successors rounds (seen ++ unseen successors seen layer)
        (unseen successors seen layer)

variable {seen members : List α} {first : α}

theorem newcomers_cons_of_mem (known : first ∈ seen) :
    newcomers seen (first :: members) = newcomers seen members := by
  rw [newcomers, List.filter_cons_of_neg (by simpa using known), newcomers]

theorem newcomers_cons_of_not_mem (new : first ∉ seen) :
    newcomers seen (first :: members) = first :: newcomers (seen ++ [first]) members := by
  have later_eq : (members.filter fun member => !(seen ++ [first]).contains member) =
      (members.filter fun member => !seen.contains member).filter fun member => member ≠ first := by
    rw [List.filter_filter]
    refine List.filter_congr fun member _ => ?_
    simp [Bool.and_comm]
  rw [newcomers, List.filter_cons_of_pos (by simpa using new), firstOccurrences, newcomers,
    later_eq]
  congr 1
  exact filter_firstOccurrences id (fun member => member ≠ first) _

end

/-- A search in progress. -/
structure Search (α : Type) where
  /-- The members that have been met, each with its distance. -/
  met : List (α × Nat)
  /-- Those of them whose successors have not been looked at. -/
  queue : List (α × Nat)

namespace Search

variable {α : Type} [DecidableEq α]

/-- A search begins with one member, from which distances are measured. -/
def start (first : α) : Search α := ⟨[(first, 0)], [(first, 0)]⟩

/-- A member that has not been met joins the queue. -/
def meet (distance : Nat) (search : Search α) (member : α) : Search α :=
  if member ∈ search.met.map Prod.fst then search
  else ⟨search.met ++ [(member, distance)], search.queue ++ [(member, distance)]⟩

/-- The first member leaves the queue.  If the search goes on from its distance, the successors are
met one step further away. -/
def step (successors : α → List α) (goesOn : Nat → Bool) (search : Search α) : Search α :=
  match search.queue with
  | [] => search
  | (member, distance) :: rest =>
      (if goesOn distance then successors member else []).foldl (meet (distance + 1))
        { search with queue := rest }

/-- After some steps the queue is empty, and these members have been met. -/
def EndsWith (successors : α → List α) (goesOn : Nat → Bool) (search : Search α)
    (entries : List (α × Nat)) : Prop :=
  ∃ steps, (step successors goesOn)^[steps] search = ⟨entries, []⟩

variable {successors : α → List α} {goesOn : Nat → Bool} {met entries : List (α × Nat)}
  {layer : List α} {distance rounds : Nat} {search later : Search α}

theorem EndsWith.of_iterate {steps : Nat}
    (gone : (step successors goesOn)^[steps] search = later)
    (ends : later.EndsWith successors goesOn entries) :
    search.EndsWith successors goesOn entries := by
  obtain ⟨more, ended⟩ := ends
  exact ⟨more + steps, by rw [Function.iterate_add_apply, gone, ended]⟩

theorem foldl_meet (distance : Nat) (members : List α) (met queue : List (α × Nat)) :
    members.foldl (meet distance) ⟨met, queue⟩ =
      ⟨met ++ (newcomers (met.map Prod.fst) members).map (·, distance),
        queue ++ (newcomers (met.map Prod.fst) members).map (·, distance)⟩ := by
  induction members generalizing met queue with
  | nil => simp [newcomers]
  | cons first rest ih =>
      rw [List.foldl_cons, meet]
      split
      next known => rw [ih, newcomers_cons_of_mem known]
      next new =>
        rw [ih, newcomers_cons_of_not_mem new]
        simp

/-- As many steps as a layer has members meet the successors of all of them. -/
theorem iterate_layer (successors : α → List α) (goesOn : Nat → Bool) (distance : Nat)
    (layer : List α) (met next : List (α × Nat)) :
    (step successors goesOn)^[layer.length] ⟨met, layer.map (·, distance) ++ next⟩ =
      (if goesOn distance then layer.flatMap successors else []).foldl (meet (distance + 1))
        ⟨met, next⟩ := by
  induction layer generalizing met next with
  | nil => simp
  | cons member rest ih =>
      have first_step :
          step successors goesOn ⟨met, (member :: rest).map (·, distance) ++ next⟩ =
            (if goesOn distance then successors member else []).foldl (meet (distance + 1))
              ⟨met, rest.map (·, distance) ++ next⟩ := rfl
      rw [List.length_cons, Function.iterate_succ_apply, first_step, foldl_meet,
        List.append_assoc, ih]
      split
      next => rw [List.flatMap_cons, List.foldl_append, foldl_meet _ (successors member)]
      next => simp [newcomers]

theorem iterate_inner_layer (goes : goesOn distance) :
    (step successors goesOn)^[layer.length] ⟨met, layer.map (·, distance)⟩ =
      ⟨met ++ (unseen successors (met.map Prod.fst) layer).map (·, distance + 1),
        (unseen successors (met.map Prod.fst) layer).map (·, distance + 1)⟩ := by
  have gone := iterate_layer successors goesOn distance layer met []
  rw [List.append_nil, if_pos goes, foldl_meet] at gone
  exact gone

theorem endsWith_last_layer
    (nothing : goesOn distance → unseen successors (met.map Prod.fst) layer = []) :
    EndsWith successors goesOn ⟨met, layer.map (·, distance)⟩ met := by
  refine ⟨layer.length, ?_⟩
  by_cases goes : goesOn distance = true
  · rw [iterate_inner_layer goes, nothing goes, List.map_nil, List.append_nil]
  · have gone := iterate_layer successors goesOn distance layer met []
    rw [List.append_nil, if_neg goes, List.foldl_nil] at gone
    exact gone

/-- A search meets one layer behind the other, until it does not go on or nothing is left to be
met. -/
theorem endsWith_layers (front : List (α × Nat)) (layer : List α)
    (inside : ∀ round < rounds, goesOn (distance + round))
    (stops : goesOn (distance + rounds) →
      Exhausts successors rounds (front.map Prod.fst ++ layer) layer) :
    EndsWith successors goesOn ⟨front ++ layer.map (·, distance), layer.map (·, distance)⟩
      (front ++
        withDepth distance (layers successors rounds (front.map Prod.fst ++ layer) layer)) := by
  have seen_eq (front : List (α × Nat)) (layer : List α) (distance : Nat) :
      (front ++ layer.map (·, distance)).map Prod.fst = front.map Prod.fst ++ layer := by
    simp [Function.comp_def]
  induction rounds generalizing front distance layer with
  | zero =>
      rw [Exhausts, ← seen_eq front layer distance] at stops
      rw [layers, withDepth, withDepth, List.append_nil]
      exact endsWith_last_layer stops
  | succ rounds ih =>
      have goes : goesOn distance := inside 0 (Nat.succ_pos rounds)
      have inside_later (round : Nat) (below : round < rounds) :
          goesOn (distance + 1 + round) := by
        rw [Nat.add_right_comm]
        exact inside (round + 1) (Nat.succ_lt_succ below)
      have stops_later (goes_later : goesOn (distance + 1 + rounds)) :=
        stops (by rwa [Nat.add_right_comm] at goes_later)
      rw [Exhausts, ← seen_eq front layer distance] at stops_later
      rw [← seen_eq front layer distance, layers]
      split
      next met =>
        rw [withDepth, withDepth, List.append_nil]
        exact endsWith_last_layer fun _ => met
      next first rest met =>
        refine .of_iterate (iterate_inner_layer goes) ?_
        rw [met] at stops_later ⊢
        rw [withDepth, ← List.append_assoc]
        exact ih _ _ inside_later stops_later

end Search

/-! ## The order of layers -/

section
variable {α : Type} {depth : Nat} {list : List (List α)} {entry : α × Nat}

theorem map_fst_withDepth (depth : Nat) (list : List (List α)) :
    (withDepth depth list).map Prod.fst = list.flatten := by
  induction list generalizing depth with
  | nil => rfl
  | cons layer rest ih => simp [withDepth, ih, Function.comp_def]

theorem le_of_mem_withDepth (found : entry ∈ withDepth depth list) : depth ≤ entry.2 := by
  induction list generalizing depth with
  | nil => simp [withDepth] at found
  | cons layer rest ih =>
      rw [withDepth, List.mem_append] at found
      rcases found with here | later
      · obtain ⟨member, -, rfl⟩ := List.mem_map.1 here
        exact le_rfl
      · have deeper := ih later
        omega

theorem pairwise_withDepth (depth : Nat) (list : List (List α)) :
    (withDepth depth list).Pairwise fun before after => before.2 ≤ after.2 := by
  induction list generalizing depth with
  | nil => exact .nil
  | cons layer rest ih =>
      rw [withDepth, List.pairwise_append]
      refine ⟨List.pairwise_map.2 (List.pairwise_of_forall fun _ _ => le_rfl), ih (depth + 1), ?_⟩
      intro before here after later
      obtain ⟨member, -, rfl⟩ := List.mem_map.1 here
      have deeper := le_of_mem_withDepth later
      omega

variable [DecidableEq α] {successors : α → List α} {rounds : Nat} {seen layer : List α}

theorem mem_layers_cases {member : α}
    (found : member ∈ (layers successors rounds seen layer).flatten) :
    member ∈ layer ∨ member ∉ seen := by
  induction rounds generalizing seen layer with
  | zero => simpa [layers] using Or.inl found
  | succ rounds ih =>
      rw [layers] at found
      split at found
      next => simpa using Or.inl found
      next first rest met =>
        rw [List.flatten_cons, List.mem_append] at found
        rcases found with here | later
        · exact .inl here
        · right
          rcases ih later with new | new
          · rw [← met, mem_unseen] at new
            exact new.2
          · exact fun known => new (List.mem_append_left _ known)

/-- Successors may differ in the member itself, since a step from a member to itself meets
nothing. -/
theorem unseen_congr {others : α → List α}
    (agree : ∀ member, (successors member).filter (· ≠ member) =
      (others member).filter (· ≠ member)) (known : layer ⊆ seen) :
    unseen successors seen layer = unseen others seen layer := by
  have apart {member : α} (seen_member : member ∈ seen) (list : List α) :
      (list.filter fun next => !seen.contains next) =
        (list.filter (· ≠ member)).filter fun next => !seen.contains next := by
    rw [List.filter_filter]
    refine List.filter_congr fun next _ => ?_
    by_cases same : next = member
    · simp [same, seen_member]
    · simp [same]
  rw [unseen, unseen, List.filter_flatMap, List.filter_flatMap]
  congr 1
  refine List.flatMap_congr fun member here => ?_
  rw [apart (known here), agree, ← apart (known here)]

theorem layers_congr {others : α → List α}
    (agree : ∀ member, (successors member).filter (· ≠ member) =
      (others member).filter (· ≠ member)) (known : layer ⊆ seen) :
    layers successors rounds seen layer = layers others rounds seen layer := by
  induction rounds generalizing seen layer with
  | zero => rfl
  | succ rounds ih =>
      rw [layers, layers, unseen_congr agree known]
      split
      next => rfl
      next first rest met => rw [ih (List.subset_append_right _ _)]

/-- No member is in two layers. -/
theorem nodup_flatten_layers (distinct : layer.Nodup) (known : layer ⊆ seen) :
    (layers successors rounds seen layer).flatten.Nodup := by
  induction rounds generalizing seen layer with
  | zero => simpa [layers] using distinct
  | succ rounds ih =>
      rw [layers]
      split
      next => simpa using distinct
      next first rest met =>
        have next_distinct : (first :: rest).Nodup := met ▸ nodup_firstOccurrences_id _
        rw [List.flatten_cons, List.nodup_append]
        refine ⟨distinct, ih next_distinct (List.subset_append_right _ _), ?_⟩
        rintro member here other later rfl
        rcases mem_layers_cases later with new | new
        · rw [← met, mem_unseen] at new
          exact new.2 (known here)
        · exact new (List.mem_append_left _ (known here))

theorem nodup_map_fst_layers (successors : α → List α) (rounds : Nat) (first : α) :
    ((withDepth 0 (layers successors rounds [first] [first])).map Prod.fst).Nodup := by
  rw [map_fst_withDepth]
  exact nodup_flatten_layers (List.nodup_singleton first) (List.Subset.refl _)

end

namespace Graph

/-- The table has the distances of all ids that walks lead to, and no other entries. -/
structure Measures (graph : Graph) (bidirectional : Bool) (start : Text)
    (table : List (Text × Nat)) : Prop where
  /-- No id has two entries. -/
  distinct : (table.map Prod.fst).Nodup
  /-- The entry of an id is the least length of a walk that leads there. -/
  mem_iff : ∀ id distance,
    (id, distance) ∈ table ↔ graph.IsDistance bidirectional start distance id
  /-- An id has no entry if no walk leads there. -/
  absent_iff : ∀ id,
    id ∉ table.map Prod.fst ↔ ∀ length, ¬graph.Walk bidirectional start length id

variable {graph : Graph} {bidirectional : Bool} {start : Text} {successors : Text → List Text}
  {rounds more : Nat} {seen layer : List Text}

theorem measures_of_mem_iff {table : List (Text × Nat)} (distinct : (table.map Prod.fst).Nodup)
    (mem_iff : ∀ id distance,
      (id, distance) ∈ table ↔ graph.IsDistance bidirectional start distance id) :
    graph.Measures bidirectional start table where
  distinct := distinct
  mem_iff := mem_iff
  absent_iff id := by
    constructor
    · intro absent length walk
      obtain ⟨distance, -, least⟩ := walk.exists_isDistance
      exact absent (List.mem_map_of_mem ((mem_iff id distance).2 least))
    · intro unreached present
      obtain ⟨⟨_, distance⟩, found, rfl⟩ := List.mem_map.1 present
      exact unreached distance ((mem_iff _ distance).1 found).1

/-- Two tables of the same distances differ in their order at most. -/
theorem Measures.perm {table other : List (Text × Nat)}
    (measures : graph.Measures bidirectional start table)
    (other_measures : graph.Measures bidirectional start other) : table.Perm other := by
  have table_nodup : table.Nodup := List.Nodup.of_map Prod.fst measures.distinct
  have other_nodup : other.Nodup := List.Nodup.of_map Prod.fst other_measures.distinct
  refine (List.perm_ext_iff_of_nodup table_nodup other_nodup).2 ?_
  rintro ⟨id, distance⟩
  rw [measures.mem_iff, other_measures.mem_iff]

theorem measures_distancesAlong (lists : graph.Lists bidirectional successors) (start : Text) :
    graph.Measures bidirectional start (graph.distancesAlong successors start) :=
  measures_of_mem_iff (nodup_map_fst_layers _ _ _) fun _ _ => mem_distancesAlong lists

/-- Where no id is as far away as the rounds go, they leave nothing to be met. -/
theorem Explored.exhausts (explored : graph.Explored bidirectional start rounds seen layer)
    (lists : graph.Lists bidirectional successors)
    (nothing : ∀ id, ¬graph.IsDistance bidirectional start (rounds + more + 1) id) :
    Exhausts successors more seen layer := by
  induction more generalizing rounds seen layer with
  | zero =>
      rw [Exhausts, List.eq_nil_iff_forall_not_mem]
      intro id met
      exact nothing id ((explored.mem_unseen_iff lists).1 met)
  | succ more ih =>
      apply ih (explored.next lists)
      rwa [Nat.add_assoc rounds, Nat.add_comm 1]

/-- In every graph a search that goes on from every distance comes to an end. -/
theorem endsWith_distancesAlong (lists : graph.Lists bidirectional successors) (start : Text) :
    (Search.start start).EndsWith successors (fun _ => true)
      (graph.distancesAlong successors start) := by
  refine Search.endsWith_layers [] [start] (fun _ _ => rfl) fun _ => ?_
  refine explored_start.exhausts lists fun id far => ?_
  have bounded := far.le_length_endpoints
  omega

end Graph
end ConceptMap
