import ConceptMap.Declarations

/-!
# Graphs

Concepts are nodes, and predicates are labelled directed edges between them.  A graph keeps nodes
and edges in the order in which their ids first occurred.  An edge holds its ends by reference: to
the node that the graph registers under an id, or to a detached node of its own.
-/

namespace ConceptMap

/-- A concept with its definition, if it has one. -/
structure Node where
  /-- The name of the concept. -/
  id : Text
  /-- What the concept means. -/
  definition : Option Text := none
deriving DecidableEq, Repr

/-- A node as others hold it. -/
inductive NodeRef where
  /-- The node that the graph registers under this id; its definition is the graph's. -/
  | registered (id : Text)
  /-- A node that the graph does not know; its definition never changes. -/
  | detached (node : Node)
deriving DecidableEq, Repr

/-- The id of the node that is held. -/
def NodeRef.id : NodeRef → Text
  | .registered id => id
  | .detached node => node.id

/-- Two nodes count as equal when they have the same id. -/
def NodeRef.same (first second : NodeRef) : Bool := first.id = second.id

/-- A relationship between two nodes. -/
structure Edge where
  /-- The node that the relationship starts from. -/
  source : NodeRef
  /-- The label of the relationship. -/
  relationship : Text
  /-- The node that the relationship leads to. -/
  target : NodeRef
deriving DecidableEq, Repr

namespace Edge

/-- The id of an edge, made of its ends and its label. -/
def id (edge : Edge) : Text := linkId edge.source.id edge.relationship edge.target.id

/-- Two edges count as equal when they have the same id. -/
def same (first second : Edge) : Bool := first.id = second.id

/-- The edge as a predicate. -/
def predicate (edge : Edge) : Predicate :=
  ⟨edge.source.id, edge.relationship, edge.target.id⟩

/-- The node has this id at one of the ends. -/
def touches (edge : Edge) (id : Text) : Bool := edge.source.id = id || edge.target.id = id

/-- The nodes that the edge leads to from a node: its target, and against its direction also its
source. -/
def ahead (bidirectional : Bool) (id : Text) (edge : Edge) : List NodeRef :=
  (if edge.source.id = id then [edge.target] else []) ++
    (if bidirectional && edge.target.id = id then [edge.source] else [])

end Edge

/-- Nodes and edges, each with distinct ids, in the order in which the ids first occurred. -/
structure Graph where
  /-- The registered nodes. -/
  nodes : List Node := []
  /-- The edges. -/
  edges : List Edge := []
deriving DecidableEq, Repr

namespace Graph

/-- The registered node of an id. -/
def node? (graph : Graph) (id : Text) : Option Node := graph.nodes.find? (·.id = id)

/-- The edge of an id. -/
def edge? (graph : Graph) (id : Text) : Option Edge := graph.edges.find? (·.id = id)

/-- The node of an id as others hold it: the registered one, or else a new detached node. -/
def refer (graph : Graph) (id : Text) : NodeRef :=
  if (graph.node? id).isSome then .registered id else .detached { id }

/-- The node that is held, with its present definition. -/
def resolve (graph : Graph) : NodeRef → Node
  | .registered id => (graph.node? id).getD { id }
  | .detached node => node

/-- Registers a node.  If the id is taken, a given definition replaces that of its node. -/
def addNode (graph : Graph) (id : Text) (definition : Option Text) : Graph :=
  if (graph.node? id).isSome then
    match definition with
    | none => graph
    | some text =>
        { graph with
          nodes := graph.nodes.map fun node =>
            if node.id = id then { node with definition := some text } else node }
  else
    { graph with nodes := graph.nodes ++ [⟨id, definition⟩] }

/-- Registers an edge; one with the same id is replaced where it stands.  Its ends are not
registered. -/
def addEdge (graph : Graph) (edge : Edge) : Graph :=
  if (graph.edge? edge.id).isSome then
    { graph with edges := graph.edges.map fun other => if other.id = edge.id then edge else other }
  else
    { graph with edges := graph.edges ++ [edge] }

/-- The labels of the edges, each at its first occurrence. -/
def relationships (graph : Graph) : List Text :=
  firstOccurrences id (graph.edges.map (·.relationship))

/-- The nodes one step away from an id, edge by edge, with repetitions. -/
def adjacent (graph : Graph) (bidirectional : Bool) (id : Text) : List NodeRef :=
  graph.edges.flatMap (Edge.ahead bidirectional id)

/-- The nodes one step away from an id, each once. -/
def neighbors (graph : Graph) (bidirectional : Bool) (id : Text) : List NodeRef :=
  firstOccurrences NodeRef.id (graph.adjacent bidirectional id)

/-- The graph that declarations describe.  Only related concepts become nodes; definitions of
others are dropped. -/
def ofDeclarations (declarations : Declarations) : Graph :=
  let nodes := declarations.concepts.map fun concept =>
    ({ id := concept, definition := declarations.definition? concept } : Node)
  declarations.predicates.foldl
    (fun graph predicate =>
      graph.addEdge
        ⟨.registered predicate.source, predicate.relationship, .registered predicate.target⟩)
    { nodes }

@[simp]
theorem addNode_edges (graph : Graph) (id : Text) (definition : Option Text) :
    (graph.addNode id definition).edges = graph.edges := by
  unfold addNode
  split
  · cases definition <;> rfl
  · rfl

@[simp]
theorem addEdge_nodes (graph : Graph) (edge : Edge) : (graph.addEdge edge).nodes = graph.nodes := by
  unfold addEdge
  split <;> rfl

end Graph
end ConceptMap
