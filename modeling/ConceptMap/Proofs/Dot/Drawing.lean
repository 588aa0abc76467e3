import ConceptMap.Proofs.Dot.Token

/-!
# Reading DOT documents

A DOT document shows a drawing: the name of a map, nodes with what is said of them, and edges.  Each
line of the document has marks between its names that tell what the line is about, so that the
drawing can be read back, and two exports of different drawings are different texts.
-/

namespace ConceptMap
namespace Dot

/-- A node as it is drawn. -/
structure DrawnNode where
  /-- The name of the concept. -/
  id : Text
  /-- Its definition, unless that is missing or empty. -/
  tooltip : Option Text
  /-- It is the active concept. -/
  active : Bool
deriving DecidableEq, Repr

/-- What a document shows. -/
structure Drawing where
  /-- The name of the map. -/
  name : Text
  /-- The nodes, in order. -/
  nodes : List DrawnNode
  /-- The edges, in order. -/
  edges : List Predicate
deriving DecidableEq, Repr

/-- The part of a line that gives the definition of a node. -/
def tooltipTokens : Option Text → List Token
  | none => []
  | some text => marks ", tooltip=" ++ [.name text]

/-- The line of a node. -/
def DrawnNode.line (node : DrawnNode) : List Token :=
  marks "  " ++ .name node.id :: marks " [label=" ++ .name node.id ::
    tooltipTokens node.tooltip ++ marks (if node.active then (", penwidth=2];" : Text) else "];")

/-- The line of an edge between two concepts. -/
def predicateLine (predicate : Predicate) : List Token :=
  marks "  " ++ .name predicate.source :: marks " -> " ++ .name predicate.target ::
    marks " [label=" ++ .name predicate.relationship :: marks "];"

/-- The line that opens a document. -/
def nameLine (name : Text) : List Token := marks "digraph " ++ .name name :: marks [' ', '{']

namespace Drawing

/-- The lines of a document. -/
def lines (drawing : Drawing) : List (List Token) :=
  nameLine drawing.name :: marks "  rankdir=LR;" ::
    (drawing.nodes.map DrawnNode.line ++ drawing.edges.map predicateLine ++ [marks ['}']])

/-- A document, from left to right. -/
def tokens (drawing : Drawing) : List Token := [Token.mark '\n'].intercalate drawing.lines

end Drawing

/-! ## Lines -/

/-- The names in a line. -/
def namesOf (line : List Token) : List Text :=
  line.filterMap fun
    | .name text => some text
    | .mark _ => none

/-- The marks in a line. -/
def marksOf (line : List Token) : Text :=
  line.filterMap fun
    | .name _ => none
    | .mark character => some character

@[simp]
theorem namesOf_append (first second : List Token) :
    namesOf (first ++ second) = namesOf first ++ namesOf second := List.filterMap_append

@[simp]
theorem namesOf_cons_name (text : Text) (line : List Token) :
    namesOf (.name text :: line) = text :: namesOf line := rfl

@[simp]
theorem namesOf_nil : namesOf [] = [] := rfl

@[simp]
theorem namesOf_marks (text : Text) : namesOf (marks text) = [] := by
  simp [namesOf, marks]

@[simp]
theorem marksOf_append (first second : List Token) :
    marksOf (first ++ second) = marksOf first ++ marksOf second := List.filterMap_append

@[simp]
theorem marksOf_cons_name (text : Text) (line : List Token) :
    marksOf (.name text :: line) = marksOf line := rfl

@[simp]
theorem marksOf_nil : marksOf [] = [] := rfl

@[simp]
theorem marksOf_marks (text : Text) : marksOf (marks text) = text := by
  simp [marksOf, marks]

theorem mem_marksOf {character : Char} {line : List Token} :
    character ∈ marksOf line ↔ Token.mark character ∈ line := by
  rw [marksOf, List.mem_filterMap]
  constructor
  · rintro ⟨token, found, here⟩
    cases token with
    | name => simp at here
    | mark other =>
        obtain rfl : other = character := Option.some.inj here
        exact found
  · intro found
    exact ⟨_, found, rfl⟩

/-- The marks in the line of a node. -/
def nodeMarks (tooltip active : Bool) : Text :=
  "   [label=" ++ (if tooltip then (", tooltip=" : Text) else []) ++
    (if active then (", penwidth=2];" : Text) else "];")

/-- The marks in the line of an edge. -/
def edgeMarks : Text := "   ->  [label=];"

variable {line : List Token}

theorem marksOf_line (node : DrawnNode) :
    marksOf node.line = nodeMarks node.tooltip.isSome node.active := by
  obtain ⟨id, tooltip, active⟩ := node
  cases tooltip with
  | none =>
      simp only [DrawnNode.line, tooltipTokens, marksOf_append, marksOf_cons_name, marksOf_marks,
        marksOf_nil]
      rfl
  | some text =>
      simp only [DrawnNode.line, tooltipTokens, marksOf_append, marksOf_cons_name, marksOf_marks,
        marksOf_nil]
      rfl

theorem namesOf_line (node : DrawnNode) :
    namesOf node.line = node.id :: node.id :: node.tooltip.toList := by
  obtain ⟨id, tooltip, active⟩ := node
  cases tooltip with
  | none =>
      simp only [DrawnNode.line, tooltipTokens, namesOf_append, namesOf_cons_name, namesOf_marks,
        namesOf_nil]
      rfl
  | some text =>
      simp only [DrawnNode.line, tooltipTokens, namesOf_append, namesOf_cons_name, namesOf_marks,
        namesOf_nil]
      rfl

theorem marksOf_predicateLine (predicate : Predicate) :
    marksOf (predicateLine predicate) = edgeMarks := by
  simp only [predicateLine, marksOf_append, marksOf_cons_name, marksOf_marks]
  rfl

theorem namesOf_predicateLine (predicate : Predicate) :
    namesOf (predicateLine predicate) =
      [predicate.source, predicate.target, predicate.relationship] := by
  simp only [predicateLine, namesOf_append, namesOf_cons_name, namesOf_marks]
  rfl

/-! ## Reading -/

/-- Whether the marks are those of the active node or of another one. -/
def activeOf? (tooltip : Bool) (marks : Text) : Option Bool :=
  [false, true].find? fun active => marks = nodeMarks tooltip active

/-- The node that a line is about. -/
def readNode? (line : List Token) : Option DrawnNode :=
  match namesOf line with
  | [id, _] => (activeOf? false (marksOf line)).map fun active => ⟨id, none, active⟩
  | [id, _, text] => (activeOf? true (marksOf line)).map fun active => ⟨id, some text, active⟩
  | _ => none

/-- The predicate of the edge that a line is about. -/
def readEdge? (line : List Token) : Option Predicate :=
  match namesOf line with
  | [source, target, relationship] =>
      if marksOf line = edgeMarks then some ⟨source, relationship, target⟩ else none
  | _ => none

/-- The name that a line gives. -/
def readName? (line : List Token) : Option Text :=
  match namesOf line with
  | [name] => some name
  | _ => none

/-- The drawing that lines show. -/
def Drawing.ofLines? (lines : List (List Token)) : Option Drawing := do
  let name ← lines.head?.bind readName?
  return { name, nodes := lines.filterMap readNode?, edges := lines.filterMap readEdge? }

/-- The drawing that a document shows. -/
def read? (text : Text) : Option Drawing := do
  let tokens ← scan text
  Drawing.ofLines? (tokens.splitOn (.mark '\n'))

theorem activeOf?_nodeMarks (tooltip active : Bool) :
    activeOf? tooltip (nodeMarks tooltip active) = some active := by
  revert tooltip active
  decide

theorem activeOf?_edgeMarks (tooltip : Bool) : activeOf? tooltip edgeMarks = none := by
  revert tooltip
  decide

theorem edgeMarks_ne_nodeMarks (tooltip active : Bool) : nodeMarks tooltip active ≠ edgeMarks := by
  revert tooltip active
  decide

theorem readNode?_line (node : DrawnNode) : readNode? node.line = some node := by
  rw [readNode?, namesOf_line, marksOf_line]
  obtain ⟨id, tooltip, active⟩ := node
  cases tooltip with
  | none => simp [activeOf?_nodeMarks]
  | some text => simp [activeOf?_nodeMarks]

theorem readNode?_predicateLine (predicate : Predicate) :
    readNode? (predicateLine predicate) = none := by
  rw [readNode?, namesOf_predicateLine, marksOf_predicateLine, activeOf?_edgeMarks]
  rfl

theorem readEdge?_predicateLine (predicate : Predicate) :
    readEdge? (predicateLine predicate) = some predicate := by
  rw [readEdge?, namesOf_predicateLine, marksOf_predicateLine]
  rfl

theorem readEdge?_line (node : DrawnNode) : readEdge? node.line = none := by
  rw [readEdge?, namesOf_line, marksOf_line]
  obtain ⟨id, tooltip, active⟩ := node
  cases tooltip with
  | none => rfl
  | some text => simp [edgeMarks_ne_nodeMarks]

theorem marksOf_nameLine (name : Text) : marksOf (nameLine name) = "digraph  \x7b" := by
  simp only [nameLine, marksOf_append, marksOf_cons_name, marksOf_marks]
  rfl

theorem namesOf_nameLine (name : Text) : namesOf (nameLine name) = [name] := by
  simp only [nameLine, namesOf_append, namesOf_cons_name, namesOf_marks]
  rfl

theorem readNode?_nameLine (name : Text) : readNode? (nameLine name) = none := by
  rw [readNode?, namesOf_nameLine]

theorem readEdge?_nameLine (name : Text) : readEdge? (nameLine name) = none := by
  rw [readEdge?, namesOf_nameLine]

theorem readName?_nameLine (name : Text) : readName? (nameLine name) = some name := by
  rw [readName?, namesOf_nameLine]

theorem readNode?_marks (text : Text) : readNode? (marks text) = none := by
  rw [readNode?, namesOf_marks]

theorem readEdge?_marks (text : Text) : readEdge? (marks text) = none := by
  rw [readEdge?, namesOf_marks]

/-- No character is a line feed or a double quote. -/
def IsClean (text : Text) : Prop := '\n' ∉ text ∧ '"' ∉ text

instance (text : Text) : Decidable (IsClean text) :=
  inferInstanceAs (Decidable ('\n' ∉ text ∧ '"' ∉ text))

theorem isClean_nodeMarks (tooltip active : Bool) : IsClean (nodeMarks tooltip active) := by
  revert tooltip active
  decide

theorem mem_of_mem_intercalate {token separator : Token} {lines : List (List Token)}
    (found : token ∈ [separator].intercalate lines) :
    token = separator ∨ ∃ line ∈ lines, token ∈ line := by
  induction lines with
  | nil => simp at found
  | cons first rest ih =>
      cases rest with
      | nil => exact .inr ⟨first, by simp, by simpa using found⟩
      | cons second rest =>
          rw [List.intercalate_cons_cons, List.mem_append, List.mem_append,
            List.mem_singleton] at found
          rcases found with (here | rfl) | later
          · exact .inr ⟨first, by simp, here⟩
          · exact .inl rfl
          · exact (ih later).imp_right fun ⟨line, line_mem, inside⟩ =>
              ⟨line, List.mem_cons_of_mem _ line_mem, inside⟩

namespace Drawing

variable (drawing : Drawing)

theorem filterMap_readNode?_lines : drawing.lines.filterMap readNode? = drawing.nodes := by
  have every_node : readNode? ∘ DrawnNode.line = some := funext readNode?_line
  have of_edges : drawing.edges.filterMap (readNode? ∘ predicateLine) = [] :=
    List.filterMap_eq_nil_iff.2 fun predicate _ => readNode?_predicateLine predicate
  rw [lines, List.filterMap_cons_none (readNode?_nameLine _),
    List.filterMap_cons_none (readNode?_marks _), List.filterMap_append, List.filterMap_append,
    List.filterMap_map, List.filterMap_map, every_node, List.filterMap_some, of_edges,
    List.filterMap_cons_none (readNode?_marks _), List.filterMap_nil, List.append_nil,
    List.append_nil]

theorem filterMap_readEdge?_lines : drawing.lines.filterMap readEdge? = drawing.edges := by
  have of_nodes : drawing.nodes.filterMap (readEdge? ∘ DrawnNode.line) = [] :=
    List.filterMap_eq_nil_iff.2 fun node _ => readEdge?_line node
  have every_edge : readEdge? ∘ predicateLine = some := funext readEdge?_predicateLine
  rw [lines, List.filterMap_cons_none (readEdge?_nameLine _),
    List.filterMap_cons_none (readEdge?_marks _), List.filterMap_append, List.filterMap_append,
    List.filterMap_map, List.filterMap_map, of_nodes, every_edge, List.filterMap_some,
    List.filterMap_cons_none (readEdge?_marks _), List.filterMap_nil, List.append_nil,
    List.nil_append]

/-- The lines of a drawing show the drawing. -/
theorem ofLines?_lines : ofLines? drawing.lines = some drawing := by
  have name_eq : drawing.lines.head?.bind readName? = some drawing.name :=
    readName?_nameLine drawing.name
  rw [ofLines?, name_eq, filterMap_readNode?_lines, filterMap_readEdge?_lines]
  rfl

/-- In the lines of a drawing no mark is a line feed or a double quote. -/
theorem isClean_of_mem_lines {line : List Token} (found : line ∈ drawing.lines) :
    IsClean (marksOf line) := by
  rw [lines, List.mem_cons, List.mem_cons, List.mem_append, List.mem_append, List.mem_map,
    List.mem_map, List.mem_singleton] at found
  rcases found with rfl | rfl | (⟨node, -, rfl⟩ | ⟨predicate, -, rfl⟩) | rfl
  · rw [marksOf_nameLine]
    decide
  · rw [marksOf_marks]
    decide
  · rw [marksOf_line]
    exact isClean_nodeMarks _ _
  · rw [marksOf_predicateLine]
    decide
  · rw [marksOf_marks]
    decide

theorem quote_not_mem_tokens : Token.mark '"' ∉ drawing.tokens := by
  intro found
  rcases mem_of_mem_intercalate found with newline | ⟨line, line_mem, inside⟩
  · exact absurd newline (by decide)
  · exact (drawing.isClean_of_mem_lines line_mem).2 (mem_marksOf.2 inside)

theorem scan_render_tokens : scan (render drawing.tokens) = some drawing.tokens :=
  scan_render drawing.quote_not_mem_tokens

theorem splitOn_tokens : drawing.tokens.splitOn (.mark '\n') = drawing.lines := by
  refine List.splitOn_intercalate _ (fun line found inside => ?_) (List.cons_ne_nil _ _)
  exact (drawing.isClean_of_mem_lines found).1 (mem_marksOf.2 inside)

/-- A drawing is read as it was written. -/
theorem read?_render_tokens : read? (render drawing.tokens) = some drawing := by
  rw [read?, scan_render_tokens]
  have lines_eq := drawing.splitOn_tokens
  simp only [Option.bind_eq_bind, Option.bind_some, lines_eq, ofLines?_lines]

theorem splitLines_render_tokens :
    Text.splitLines (render drawing.tokens) = drawing.lines.map render := by
  rw [tokens, render_intercalate]
  apply Text.splitLines_joinLines_of_not_mem (by simp [lines])
  rw [List.forall_mem_map]
  intro line found
  exact newline_not_mem_render fun inside =>
    (drawing.isClean_of_mem_lines found).1 (mem_marksOf.2 inside)

theorem length_splitLines_render_tokens :
    (Text.splitLines (render drawing.tokens)).length =
      3 + drawing.nodes.length + drawing.edges.length := by
  rw [splitLines_render_tokens, List.length_map, lines, List.length_cons, List.length_cons,
    List.length_append, List.length_append, List.length_map, List.length_map, List.length_singleton]
  omega

end Drawing
end Dot

namespace Map

/-- The node as it is drawn in the export of a map. -/
def drawnNode (map : Map) (node : NodeRef) : Dot.DrawnNode :=
  { id := node.id
    tooltip := (map.graph.resolve node).definition.filter fun text => !text.isEmpty
    active := map.isActive node.id }

/-- What the export of a map shows. -/
def drawing (map : Map) : Dot.Drawing :=
  { name := map.name
    nodes := map.shownNodes.map map.drawnNode
    edges := map.shownEdges.map Edge.predicate }

theorem join_attributes (map : Map) (node : NodeRef) :
    Text.join ", " (Dot.attributes map node) =
      "label=" ++ Dot.name node.id ++
        (Dot.render (Dot.tooltipTokens (map.drawnNode node).tooltip) ++
          if map.isActive node.id then (", penwidth=2" : Text) else []) := by
  have tooltip_eq : (", tooltip=" : Text) = ", " ++ "tooltip=" := rfl
  have border_eq : (", penwidth=2" : Text) = ", " ++ "penwidth=2" := rfl
  have of_border : (if map.isActive node.id then [("penwidth=2" : Text)] else []).flatMap
      ((", " : Text) ++ ·) = if map.isActive node.id then (", penwidth=2" : Text) else [] := by
    cases map.isActive node.id <;> rfl
  rw [Dot.attributes, Text.join_cons, List.flatMap_append, of_border, drawnNode]
  congr 2
  cases (map.graph.resolve node).definition with
  | none => rfl
  | some text =>
      cases text with
      | nil => rfl
      | cons character rest =>
          have filter_eq : (some (character :: rest)).filter (fun text => !text.isEmpty) =
            some (character :: rest) := rfl
          rw [filter_eq, Dot.tooltipTokens, Dot.render_append, Dot.render_marks, tooltip_eq,
            Dot.render_cons, List.append_assoc]
          rfl

theorem nodeLine_eq_render (map : Map) (node : NodeRef) :
    Dot.nodeLine map node = Dot.render (map.drawnNode node).line := by
  have label_eq : (" [label=" : Text) = " [" ++ "label=" := rfl
  have end_eq : (if map.isActive node.id then (", penwidth=2];" : Text) else "];") =
      (if map.isActive node.id then (", penwidth=2" : Text) else []) ++ "];" := by
    cases map.isActive node.id <;> rfl
  have active_eq : (map.drawnNode node).active = map.isActive node.id := rfl
  have id_eq : (map.drawnNode node).id = node.id := rfl
  rw [Dot.nodeLine, join_attributes, Dot.DrawnNode.line, label_eq, active_eq, end_eq, id_eq]
  simp only [Dot.render_append, Dot.render_cons, Dot.render_marks, Dot.Token.render,
    List.append_assoc]

theorem edgeLine_eq_render (edge : Edge) :
    Dot.edgeLine edge = Dot.render (Dot.predicateLine edge.predicate) := by
  simp only [Dot.edgeLine, Dot.predicateLine, Edge.predicate, Dot.render_append, Dot.render_cons,
    Dot.render_marks, Dot.Token.render, List.append_assoc]

theorem openLine_eq_render (map : Map) :
    Dot.openLine map = Dot.render (Dot.nameLine map.name) := by
  rw [Dot.nameLine, Dot.render_append, Dot.render_cons, Dot.render_marks, Dot.render_marks,
    Dot.Token.render, ← List.append_assoc]
  rfl

theorem toDot_eq_render (map : Map) : map.toDot = Dot.render map.drawing.tokens := by
  have nodeLines_eq : map.shownNodes.map (Dot.nodeLine map) =
      map.drawing.nodes.map fun node => Dot.render node.line := by
    rw [drawing, List.map_map]
    exact List.map_congr_left fun node _ => map.nodeLine_eq_render node
  have edgeLines_eq : map.shownEdges.map Dot.edgeLine =
      map.drawing.edges.map fun predicate => Dot.render (Dot.predicateLine predicate) := by
    rw [drawing, List.map_map]
    exact List.map_congr_left fun edge _ => edgeLine_eq_render edge
  rw [Dot.Drawing.tokens, Dot.render_intercalate, toDot, Dot.Drawing.lines, openLine_eq_render,
    nodeLines_eq, edgeLines_eq]
  simp only [List.map_cons, List.map_append, List.map_map, List.map_nil, Dot.render_marks]
  rfl

/-- The export of a map has a line for each node and each edge and three more.  It is written as the
tokens of the drawing of the map and is scanned as the same tokens, so that each name ends where it
was closed; and it is read as the drawing, so that it differs from the export of any other one. -/
theorem toDot_reads (map : Map) :
    (Text.splitLines map.toDot).length = 3 + map.shownNodes.length + map.shownEdges.length ∧
      map.toDot = Dot.render map.drawing.tokens ∧
      Dot.scan map.toDot = some map.drawing.tokens ∧ Dot.read? map.toDot = some map.drawing ∧
      ∀ other : Map, map.toDot = other.toDot ↔ map.drawing = other.drawing := by
  have read_eq (map : Map) : Dot.read? map.toDot = some map.drawing := by
    rw [toDot_eq_render, Dot.Drawing.read?_render_tokens]
  refine ⟨?_, map.toDot_eq_render, ?_, read_eq map, fun other => ⟨fun same => ?_, fun same => ?_⟩⟩
  · rw [toDot_eq_render, Dot.Drawing.length_splitLines_render_tokens, drawing, List.length_map,
      List.length_map]
  · rw [toDot_eq_render, Dot.Drawing.scan_render_tokens]
  · have texts_eq := congrArg Dot.read? same
    rw [read_eq, read_eq] at texts_eq
    exact Option.some.inj texts_eq
  · rw [toDot_eq_render, toDot_eq_render, same]

end Map
end ConceptMap
