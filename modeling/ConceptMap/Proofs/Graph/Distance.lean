import ConceptMap.Graph.Distance
import ConceptMap.Proofs.FirstOccurrence
import Mathlib.Data.List.Perm.Subperm
import Mathlib.Data.Nat.Find
import Mathlib.Order.Bounds.Basic

/-!
# Distances are exact

The distance of an id is the least length of a walk that leads to it.  Exploring a graph round by
round finds just that, in whatever order the successors of an id are gone through: the layer of a
round holds the ids that are as far away as rounds have passed.
-/

namespace ConceptMap

theorem mem_unseen {α : Type} [DecidableEq α] {successors : α → List α} {seen layer : List α}
    {member : α} :
    member ∈ unseen successors seen layer ↔
      (∃ before ∈ layer, member ∈ successors before) ∧ member ∉ seen := by
  rw [unseen, mem_firstOccurrences_id, List.mem_filter, List.mem_flatMap]
  simp

namespace Graph

/-- The distance is the length of a walk that leads there, and of no longer one than need be. -/
def IsDistance (graph : Graph) (bidirectional : Bool) (start : Text) (distance : Nat) (id : Text) :
    Prop :=
  IsLeast {length | graph.Walk bidirectional start length id} distance

variable {graph : Graph} {bidirectional : Bool} {start id : Text} {distance length : Nat}

theorem walk_zero_iff : graph.Walk bidirectional start 0 id ↔ id = start := by
  constructor
  · rintro ⟨⟩
    rfl
  · rintro rfl
    exact .stay

theorem walk_succ_iff :
    graph.Walk bidirectional start (length + 1) id ↔
      ∃ middle, graph.Walk bidirectional start length middle ∧
        graph.Step bidirectional middle id := by
  constructor
  · rintro (_ | ⟨walk, step⟩)
    exact ⟨_, walk, step⟩
  · rintro ⟨middle, walk, step⟩
    exact .step walk step

/-- A walk stays a walk where every step can still be made. -/
theorem Walk.mono {wider : Graph} {wider_mode : Bool}
    (steps : ∀ before after, graph.Step bidirectional before after →
      wider.Step wider_mode before after)
    (walk : graph.Walk bidirectional start length id) : wider.Walk wider_mode start length id := by
  induction walk with
  | stay => exact .stay
  | step _ last ih => exact .step ih (steps _ _ last)

theorem Step.mem_endpoints {before after : Text} (step : graph.Step bidirectional before after) :
    after ∈ graph.endpoints := by
  obtain ⟨edge, edge_mem, ⟨-, rfl⟩ | ⟨-, -, rfl⟩⟩ := step
  · exact List.mem_flatMap.2 ⟨edge, edge_mem, by simp⟩
  · exact List.mem_flatMap.2 ⟨edge, edge_mem, by simp⟩

theorem isDistance_zero_iff : graph.IsDistance bidirectional start 0 id ↔ id = start := by
  constructor
  · intro here
    exact walk_zero_iff.1 here.1
  · intro here
    exact ⟨walk_zero_iff.2 here, fun _ _ => Nat.zero_le _⟩

/-- Where a walk leads there is a distance. -/
theorem Walk.exists_isDistance (walk : graph.Walk bidirectional start length id) :
    ∃ distance ≤ length, graph.IsDistance bidirectional start distance id := by
  classical
  have walks : ∃ length, graph.Walk bidirectional start length id := ⟨length, walk⟩
  exact ⟨Nat.find walks, Nat.find_min' walks walk, Nat.find_spec walks,
    fun _ other => Nat.find_min' walks other⟩

/-- Distances depend on the steps alone. -/
theorem isDistance_congr {other : Graph}
    (steps : ∀ before after, graph.Step bidirectional before after ↔
      other.Step bidirectional before after) :
    graph.IsDistance bidirectional start distance id ↔
      other.IsDistance bidirectional start distance id := by
  have walk_iff (length : Nat) :
      graph.Walk bidirectional start length id ↔ other.Walk bidirectional start length id :=
    ⟨Walk.mono fun _ _ => (steps _ _).1, Walk.mono fun _ _ => (steps _ _).2⟩
  simp only [IsDistance, walk_iff]

/-- The last step of a shortest walk starts one step less away. -/
theorem IsDistance.exists_before (far : graph.IsDistance bidirectional start (distance + 1) id) :
    ∃ middle, graph.IsDistance bidirectional start distance middle ∧
      graph.Step bidirectional middle id := by
  obtain ⟨middle, walk, step⟩ := walk_succ_iff.1 far.1
  refine ⟨middle, ⟨walk, fun shorter other => ?_⟩, step⟩
  have longer : distance + 1 ≤ shorter + 1 := far.2 (Walk.step other step)
  omega

/-! ## Exploring -/

/-- The list of an id has the ids that are one step away, in any order. -/
def Lists (graph : Graph) (bidirectional : Bool) (successors : Text → List Text) : Prop :=
  ∀ before after, after ∈ successors before ↔ graph.Step bidirectional before after

theorem lists_successors (graph : Graph) (bidirectional : Bool) :
    graph.Lists bidirectional (graph.successors bidirectional) :=
  fun _ _ => mem_successors

/-- What is known after as many rounds: the ids that a walk of no more steps leads to, and among
them those that are just as far away. -/
structure Explored (graph : Graph) (bidirectional : Bool) (start : Text) (rounds : Nat)
    (seen layer : List Text) : Prop where
  seen_iff : ∀ id, id ∈ seen ↔ ∃ length ≤ rounds, graph.Walk bidirectional start length id
  layer_iff : ∀ id, id ∈ layer ↔ graph.IsDistance bidirectional start rounds id

variable {successors : Text → List Text} {rounds : Nat} {seen layer : List Text}

theorem explored_start : graph.Explored bidirectional start 0 [start] [start] where
  seen_iff id := by simp [walk_zero_iff]
  layer_iff id := by simp [isDistance_zero_iff]

/-- Another round meets the ids that are one step further away. -/
theorem Explored.mem_unseen_iff (explored : graph.Explored bidirectional start rounds seen layer)
    (lists : graph.Lists bidirectional successors) :
    id ∈ unseen successors seen layer ↔ graph.IsDistance bidirectional start (rounds + 1) id := by
  rw [mem_unseen, explored.seen_iff]
  constructor
  · rintro ⟨⟨before, here, next⟩, unreached⟩
    have walk := ((explored.layer_iff before).1 here).1
    refine ⟨Walk.step walk ((lists before id).1 next), fun length other => ?_⟩
    by_contra shorter
    exact unreached ⟨length, by omega, other⟩
  · intro far
    obtain ⟨before, here, step⟩ := far.exists_before
    refine ⟨⟨before, (explored.layer_iff before).2 here, (lists before id).2 step⟩, ?_⟩
    rintro ⟨length, near, walk⟩
    have far_le : rounds + 1 ≤ length := far.2 walk
    omega

theorem Explored.next (explored : graph.Explored bidirectional start rounds seen layer)
    (lists : graph.Lists bidirectional successors) :
    graph.Explored bidirectional start (rounds + 1) (seen ++ unseen successors seen layer)
      (unseen successors seen layer) where
  seen_iff id := by
    rw [List.mem_append, explored.mem_unseen_iff lists, explored.seen_iff]
    constructor
    · rintro (⟨length, near, walk⟩ | far)
      · exact ⟨length, by omega, walk⟩
      · exact ⟨rounds + 1, le_rfl, far.1⟩
    · rintro ⟨length, near, walk⟩
      obtain ⟨distance, distance_le, least⟩ := walk.exists_isDistance
      by_cases before : distance ≤ rounds
      · exact .inl ⟨distance, before, least.1⟩
      · obtain rfl : distance = rounds + 1 := by omega
        exact .inr least
  layer_iff _ := explored.mem_unseen_iff lists

/-- Nothing is further away than the first distance at which nothing is met. -/
theorem not_isDistance_of_gap {gap : Nat}
    (nothing : ∀ id, ¬graph.IsDistance bidirectional start gap id) (beyond : gap ≤ distance) :
    ¬graph.IsDistance bidirectional start distance id := by
  induction distance generalizing id with
  | zero =>
      obtain rfl : gap = 0 := by omega
      exact nothing id
  | succ distance ih =>
      intro far
      by_cases here : gap = distance + 1
      · exact nothing id (here ▸ far)
      · obtain ⟨middle, near, -⟩ := far.exists_before
        exact ih (by omega) near

theorem Explored.mem_map_layer_iff
    (explored : graph.Explored bidirectional start rounds seen layer) :
    (id, distance) ∈ layer.map (·, rounds) ↔
      distance = rounds ∧ graph.IsDistance bidirectional start rounds id := by
  simp [explored.layer_iff, and_comm, eq_comm]

/-- The layers of an exploration hold the ids whose distances the rounds cover. -/
theorem Explored.mem_withDepth_layers
    (explored : graph.Explored bidirectional start rounds seen layer)
    (lists : graph.Lists bidirectional successors) {more : Nat} :
    (id, distance) ∈ withDepth rounds (layers successors more seen layer) ↔
      (rounds ≤ distance ∧ distance ≤ rounds + more) ∧
        graph.IsDistance bidirectional start distance id := by
  induction more generalizing rounds seen layer with
  | zero =>
      rw [layers, withDepth, withDepth, List.append_nil, explored.mem_map_layer_iff]
      constructor
      · rintro ⟨rfl, here⟩
        exact ⟨⟨le_rfl, le_rfl⟩, here⟩
      · rintro ⟨covered, here⟩
        obtain rfl : distance = rounds := by omega
        exact ⟨rfl, here⟩
  | succ more ih =>
      have next := explored.next lists
      have split_iff :
          (rounds ≤ distance ∧ distance ≤ rounds + (more + 1)) ∧
              graph.IsDistance bidirectional start distance id ↔
            (distance = rounds ∧ graph.IsDistance bidirectional start rounds id) ∨
              (rounds + 1 ≤ distance ∧ distance ≤ rounds + 1 + more) ∧
                graph.IsDistance bidirectional start distance id := by
        constructor
        · rintro ⟨covered, here⟩
          by_cases now : distance = rounds
          · exact .inl ⟨now, now ▸ here⟩
          · exact .inr ⟨by omega, here⟩
        · rintro (⟨rfl, here⟩ | ⟨covered, here⟩)
          · exact ⟨by omega, here⟩
          · exact ⟨by omega, here⟩
      rw [layers, split_iff, ← explored.mem_map_layer_iff]
      split
      next met =>
        -- nothing is met one round later, so that no distance is left for the rounds behind
        have nothing (other : Text) : ¬graph.IsDistance bidirectional start (rounds + 1) other := by
          rw [← next.layer_iff, met]
          simp
        rw [withDepth, withDepth, List.append_nil]
        constructor
        · exact .inl
        · rintro (here | ⟨covered, here⟩)
          · exact here
          · exact absurd here (not_isDistance_of_gap nothing covered.1)
      next first rest met =>
        rw [met] at next
        rw [withDepth, List.mem_append, ih next]

/-! ## Enough rounds -/

/-- On the way to a distance lie as many different ends of edges. -/
theorem IsDistance.exists_endpoints (far : graph.IsDistance bidirectional start distance id) :
    ∃ ids : List Text, ids.Nodup ∧ ids.length = distance ∧ ids ⊆ graph.endpoints ∧
      ∀ other ∈ ids, ∃ near ≤ distance, graph.IsDistance bidirectional start near other := by
  induction distance generalizing id with
  | zero => exact ⟨[], by simp⟩
  | succ distance ih =>
      obtain ⟨middle, near, step⟩ := far.exists_before
      obtain ⟨ids, distinct, length_eq, ends, within⟩ := ih near
      have outside : id ∉ ids := by
        intro inside
        obtain ⟨nearer, nearer_le, least⟩ := within id inside
        have same : nearer = distance + 1 := least.unique far
        omega
      refine ⟨id :: ids, List.nodup_cons.2 ⟨outside, distinct⟩, by simp [length_eq],
        List.cons_subset.2 ⟨step.mem_endpoints, ends⟩, ?_⟩
      intro other found
      rcases List.mem_cons.1 found with rfl | found
      · exact ⟨distance + 1, le_rfl, far⟩
      · obtain ⟨nearer, nearer_le, least⟩ := within other found
        exact ⟨nearer, by omega, least⟩

theorem IsDistance.le_length_endpoints
    (far : graph.IsDistance bidirectional start distance id) :
    distance ≤ graph.endpoints.length := by
  obtain ⟨ids, distinct, rfl, ends, -⟩ := far.exists_endpoints
  exact (List.subperm_of_subset distinct ends).length_le

/-- The distances found by an exploration that goes through the successors in a given way. -/
def distancesAlong (graph : Graph) (successors : Text → List Text) (start : Text) :
    List (Text × Nat) :=
  withDepth 0 (layers successors graph.endpoints.length [start] [start])

theorem mem_distancesAlong (lists : graph.Lists bidirectional successors) :
    (id, distance) ∈ graph.distancesAlong successors start ↔
      graph.IsDistance bidirectional start distance id := by
  rw [distancesAlong, explored_start.mem_withDepth_layers lists]
  constructor
  · exact fun found => found.2
  · intro far
    have bounded := far.le_length_endpoints
    exact ⟨by omega, far⟩

/-- Looking an id up gives its distance, since an id has no more than one. -/
theorem lookup_distancesAlong_eq_some_iff (lists : graph.Lists bidirectional successors) :
    (graph.distancesAlong successors start).lookup id = some distance ↔
      graph.IsDistance bidirectional start distance id := by
  have isDistance_of_lookup {found_distance : Nat}
      (found : (graph.distancesAlong successors start).lookup id = some found_distance) :
      graph.IsDistance bidirectional start found_distance id := by
    obtain ⟨before, after, entries_eq, -⟩ := List.lookup_eq_some_iff.1 found
    exact (mem_distancesAlong lists).1 (by simp [entries_eq])
  constructor
  · exact isDistance_of_lookup
  · intro far
    have entry := (mem_distancesAlong lists).2 far
    have listed : ((graph.distancesAlong successors start).lookup id).isSome :=
      List.lookup_isSome_iff.2 ⟨_, entry, beq_self_eq_true id⟩
    obtain ⟨other, found⟩ := Option.isSome_iff_exists.1 listed
    rw [found, (isDistance_of_lookup found).unique far]

theorem distance?_eq_some_iff :
    graph.distance? bidirectional start id = some distance ↔
      graph.IsDistance bidirectional start distance id :=
  lookup_distancesAlong_eq_some_iff (lists_successors graph bidirectional)

end Graph
end ConceptMap
