import ConceptMap.Map

/-!
# Sketches

An indented sketch of what surrounds the active concept.  Each node stands on a line, two spaces
deeper for every step away; the edges that lead on from it follow on lines of their own, unless it
lies at the greatest distance.
-/

namespace ConceptMap
namespace Map

/-- The arrow and the other end of an edge, seen from a node.  An edge is drawn backwards only if
it does not also leave the node. -/
def arrow? (bidirectional : Bool) (id : Text) (edge : Edge) : Option Text :=
  if edge.source.id = id then some ('-' :: edge.relationship ++ "-> " ++ edge.target.id)
  else if bidirectional && edge.target.id = id then
    some ("<-" ++ edge.relationship ++ "- " ++ edge.source.id)
  else none

/-- The lines of a node at a depth. -/
def sketchLines (map : Map) (id : Text) (depth : Nat) : List Text :=
  let indent := List.replicate (2 * depth) ' '
  let arrows :=
    if map.view.maxDistance ≤ depth then []
    else map.graph.edges.filterMap (arrow? map.view.bidirectional id)
  (indent ++ id) :: arrows.map fun arrow => indent ++ "  |" ++ arrow

/-- The nodes of a sketch with their depths, in the order in which they are met. -/
def sketchNodes (map : Map) (active : NodeRef) : List (Text × Nat) :=
  withDepth 0 (layers (map.graph.successors map.view.bidirectional) map.view.maxDistance
    [active.id] [active.id])

/-- The sketch of what surrounds the active concept. -/
def sketch (map : Map) : Text :=
  match map.view.active with
  | none => "No active concept."
  | some active =>
      Text.joinLines ((map.sketchNodes active).flatMap fun (id, depth) =>
        map.sketchLines id depth)

end Map
end ConceptMap
