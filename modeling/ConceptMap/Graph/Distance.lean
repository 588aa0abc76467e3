import ConceptMap.Graph

/-!
# Distances

Exploring a graph from one node gives layers: first the node itself, then in every round the nodes
that are one step from the last layer and have not been seen.  The number of a layer is the
distance of its nodes, the least length of a walk that leads to them.
-/

namespace ConceptMap

section
variable {α : Type} [DecidableEq α]

/-- The members one step from a layer that have not been seen, each once, in the order in which
they are met. -/
def unseen (successors : α → List α) (seen layer : List α) : List α :=
  firstOccurrences id ((layer.flatMap successors).filter fun member => !seen.contains member)

/-- The layer given and those behind it, for a number of rounds or until nothing new is met. -/
def layers (successors : α → List α) : (rounds : Nat) → (seen layer : List α) → List (List α)
  | 0, _, layer => [layer]
  | rounds + 1, seen, layer =>
      match unseen successors seen layer with
      | [] => [layer]
      | first :: rest =>
          layer :: layers successors rounds (seen ++ first :: rest) (first :: rest)

/-- The members of layers, each with the number of its layer, counted from `depth`. -/
def withDepth : (depth : Nat) → List (List α) → List (α × Nat)
  | _, [] => []
  | depth, layer :: rest => layer.map (·, depth) ++ withDepth (depth + 1) rest

end

namespace Graph

/-- The ids one step away from an id. -/
def successors (graph : Graph) (bidirectional : Bool) (id : Text) : List Text :=
  (graph.adjacent bidirectional id).map NodeRef.id

/-- The ids in which edges end. -/
def endpoints (graph : Graph) : List Text :=
  graph.edges.flatMap fun edge => [edge.source.id, edge.target.id]

/-- The ids that a walk from `start` leads to, each with its distance.  A layer behind the first
has an endpoint that no earlier layer has, so there are no more layers than endpoints. -/
def distancesFrom (graph : Graph) (bidirectional : Bool) (start : Text) : List (Text × Nat) :=
  withDepth 0 (layers (graph.successors bidirectional) graph.endpoints.length [start] [start])

/-- The distance of an id from another one; none if no walk leads there. -/
def distance? (graph : Graph) (bidirectional : Bool) (start id : Text) : Option Nat :=
  (graph.distancesFrom bidirectional start).lookup id

/-- One step along an edge, or against it when direction does not count. -/
def Step (graph : Graph) (bidirectional : Bool) (start finish : Text) : Prop :=
  ∃ edge ∈ graph.edges, (edge.source.id = start ∧ edge.target.id = finish) ∨
    (bidirectional = true ∧ edge.target.id = start ∧ edge.source.id = finish)

/-- A walk of a number of steps. -/
inductive Walk (graph : Graph) (bidirectional : Bool) (start : Text) : Nat → Text → Prop where
  /-- No step. -/
  | stay : Walk graph bidirectional start 0 start
  /-- One more step. -/
  | step {length : Nat} {middle finish : Text} :
      Walk graph bidirectional start length middle → graph.Step bidirectional middle finish →
      Walk graph bidirectional start (length + 1) finish

/-- The successors of an id are where a step leads. -/
theorem mem_successors {graph : Graph} {bidirectional : Bool} {start finish : Text} :
    finish ∈ graph.successors bidirectional start ↔ graph.Step bidirectional start finish := by
  unfold successors adjacent Step
  simp only [List.mem_map, List.mem_flatMap]
  constructor
  · rintro ⟨node, ⟨edge, edge_mem, ahead⟩, rfl⟩
    refine ⟨edge, edge_mem, ?_⟩
    simp only [Edge.ahead, List.mem_append] at ahead
    rcases ahead with ahead | ahead
    · split at ahead <;> simp_all
    · split at ahead <;> simp_all
  · rintro ⟨edge, edge_mem, ⟨rfl, rfl⟩ | ⟨rfl, rfl, rfl⟩⟩
    · exact ⟨edge.target, ⟨edge, edge_mem, by simp [Edge.ahead]⟩, rfl⟩
    · exact ⟨edge.source, ⟨edge, edge_mem, by simp [Edge.ahead]⟩, rfl⟩

end Graph
end ConceptMap
