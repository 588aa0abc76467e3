import ConceptMap.Map.Operation
import ConceptMap.Proofs.Graph.Search
import ConceptMap.Proofs.Map.Visible

/-!
# Distances in a map

The distance of a node is the least length of a walk from the active concept to it.  It is infinite
if no concept is active or no walk leads there.
-/

namespace ConceptMap
namespace Map

variable {map : Map} {node : NodeName} {distance : Nat}

theorem distanceOf_eq_some_iff :
    map.distanceOf (some node) = .ok (some distance) ↔
      ∃ active ∈ map.view.active,
        map.graph.IsDistance map.view.bidirectional active.id distance (map.refer node).id := by
  rw [distanceOf_some, Except.ok.injEq, distance?_eq_some_iff]

theorem distanceOf_eq_none_iff :
    map.distanceOf (some node) = .ok none ↔
      map.view.active = none ∨ ∃ active ∈ map.view.active, ∀ length,
        ¬map.graph.Walk map.view.bidirectional active.id length (map.refer node).id := by
  rw [distanceOf_some, Except.ok.injEq, distance?_eq_none_iff]
  cases map.view.active with
  | none => simp
  | some active => simp

/-- The distances from an id are the least lengths of walks.  In whatever order the ids one step
from another one are gone through, a search with a queue comes to an end and meets each id that a
walk leads to once, with its distance.  What a caller is told of a node is its distance from the
active concept. -/
theorem distances_exact (map : Map) :
    (∀ bidirectional start,
      map.graph.Measures bidirectional start (map.graph.distancesFrom bidirectional start) ∧
        ∀ successors, map.graph.Lists bidirectional successors →
          ∃ entries, (Search.start start).EndsWith successors (fun _ => true) entries ∧
            entries.Perm (map.graph.distancesFrom bidirectional start)) ∧
      ∀ node,
        (∀ distance, map.distanceOf (some node) = .ok (some distance) ↔
          ∃ active ∈ map.view.active,
            map.graph.IsDistance map.view.bidirectional active.id distance (map.refer node).id) ∧
        (map.distanceOf (some node) = .ok none ↔
          map.view.active = none ∨ ∃ active ∈ map.view.active, ∀ length,
            ¬map.graph.Walk map.view.bidirectional active.id length (map.refer node).id) := by
  refine ⟨fun bidirectional start => ?_, fun node => ⟨?_, distanceOf_eq_none_iff⟩⟩
  · have measures : map.graph.Measures bidirectional start
        (map.graph.distancesFrom bidirectional start) :=
      Graph.measures_distancesAlong (Graph.lists_successors map.graph bidirectional) start
    refine ⟨measures, fun successors lists => ?_⟩
    exact ⟨_, Graph.endsWith_distancesAlong lists start,
      (Graph.measures_distancesAlong lists start).perm measures⟩
  · exact fun distance => distanceOf_eq_some_iff

/-- Two edges lead the same way, one back to the start and one to a detached node, and one concept
is joined to itself only. -/
theorem distances_exact_of_cycle :
    let map := (Map.ofDeclarations "m"
        { predicates := [⟨"a", "r", "b"⟩, ⟨"a", "s", "b"⟩, ⟨"b", "r", "c"⟩, ⟨"c", "r", "a"⟩,
            ⟨"d", "r", "d"⟩] }).after
      [.addEdge (some (.id "c")) (some (.own ⟨"z", none⟩)) "r", .setActive (some (.id "a")),
        .setBidirectional false]
    let reversed (id : Text) : List Text := (map.graph.successors false id).reverse
    let table : List (Text × Nat) := [("a", 0), ("b", 1), ("c", 2), ("z", 3)]
    (∃ entries, (Search.start ("a" : Text)).EndsWith reversed (fun _ => true) entries ∧
      entries.Perm table) ∧
    (∀ length, ¬map.graph.Walk false "a" length "d") ∧
    map.distanceOf (some (.id "z")) = .ok (some 3) ∧
      map.distanceOf (some (.id "d")) = .ok none := by
  intro map reversed table
  have distances_eq : map.graph.distancesFrom false "a" = table := by decide
  have lists : map.graph.Lists false reversed :=
    fun _ _ => List.mem_reverse.trans Graph.mem_successors
  have exact := (distances_exact map).1 false "a"
  rw [distances_eq] at exact
  exact ⟨exact.2 reversed lists, (exact.1.absent_iff "d").1 (by decide), by decide, by decide⟩

end Map
end ConceptMap
