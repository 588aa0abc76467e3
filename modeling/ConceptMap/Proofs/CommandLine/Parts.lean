import ConceptMap.Proofs.CommandLine.Looking
import ConceptMap.Proofs.CommandLine.Rows

/-!
# Runs with parts of their own

What a run prints of a map depends on the visible nodes and edges and on the distances.  Here these
are handed to the commands, and a run of the program is one that is handed those of the map.
-/

namespace ConceptMap
namespace CommandLine

section Present

variable (map : Map) (nodes : List NodeRef) (edges : List Edge) (distance : Text → Option Nat)

/-- The lines that say how far around, and how much that is, over given visible nodes and edges. -/
def countLinesWith (limit : Text) : List Text :=
  ["Max distance: " ++ limit ++ " | Bidirectional: " ++ yesNo map.view.bidirectional,
    "Total nodes: " ++ Text.ofNat map.graph.nodes.length ++ " | Visible: " ++
      Text.ofNat nodes.length,
    "Total edges: " ++ Text.ofNat map.graph.edges.length ++ " | Visible: " ++
      Text.ofNat edges.length]

/-- The table of given visible nodes, with given distances. -/
def conceptGridWith : Except Summary.Fault Grid := do
  let measured := nodes.map fun node => (node, distance node.id)
  let rows ← (measured.mergeSort entryBefore).mapM fun (node, distance) =>
    conceptRow map node distance
  return { title := "Concepts", columns := ["Concept", "Distance", "Status", "Definition"], rows }

/-- The table of given visible edges. -/
def relationshipGridWith : Grid :=
  { title := "Relationships"
    columns := ["Source", "Relationship", "Target"]
    rows := edges.map fun edge =>
      [Markup.escape edge.source.id, Markup.escape edge.relationship,
        Markup.escape edge.target.id] }

/-- Prints what a map shows, if that is the given nodes and edges. -/
def presentWith (tree : Bool) : Action Unit := do
  echoLines (titleLines map)
  let limit ← orUnwritable (Numeral.write map.view.maxDistance)
  echoLines (countLinesWith map nodes edges limit)
  match conceptGridWith map nodes distance with
  | .error fault => throw (.summary fault)
  | .ok grid => echoGrid grid
  if !edges.isEmpty then echoGrid (relationshipGridWith edges)
  if tree then
    echo "\nASCII graph:"
    echo map.sketch

theorem present_eq (tree : Bool) :
    present map tree = presentWith map map.visibleNodes map.visibleEdges map.distance? tree := rfl

end Present

/-- Shows a map, around a concept that is picked if nothing is asked for. -/
def showWith (present : Map → Action Unit) (seed : Option Int) (map : Map) : Action Unit := do
  if map.view.isEmpty then
    match map.pick ((← get).host.pick seed map.graph.nodes.length) with
    | none =>
        echo "Concept map is empty."
        throw (.exit 0)
    | some node =>
        record .info ("Picked random active concept '" ++ node.id ++ "'")
        present (map.withView fun view => view.setActive (some node))
  else present map

/-- Leaves a text in a format, in the output or in a file. -/
def deliver (format : Format) (output : Option Path) (text : Text) : Action Unit := do
  match output with
  | none => echo text
  | some path =>
      writeFile path (text ++ format.fileEnd)
      echo ("Exported " ++ format.name ++ " to " ++ path.render)

/-- The map in a file, looked at as is asked for. -/
def readViewed (file : Path) (request : ViewRequest) : Action Map :=
  readMap file >>= fun map => applyRequest map request

/-- What is looked at is the map of the document in the file, in the view that is asked for. -/
theorem looks_readViewed {files : FileTree} (file : Path) (request : ViewRequest) :
    Looks files (readViewed file request) fun viewed =>
      ∃ document preferences, HoldsDocument files file document ∧
        viewed = (Map.ofDeclarations file.stem document.declarations).withView
          (request.change preferences) := by
  apply (looks_readMap file).bind
  rintro map ⟨document, held, rfl⟩
  apply (looks_applyRequest _ request).imp
  rintro viewed ⟨preferences, viewed_eq⟩
  exact ⟨document, preferences, held, viewed_eq⟩

/-- Carries out a command, with parts of its own where it depends on what is visible. -/
def performWith (present : Map → Bool → Action Unit) (render : Map → Format → Text) :
    Invocation → Action Unit
  | .explore file request seed tree =>
      readViewed file request >>= showWith (present · tree) seed
  | .export file request name output =>
      match Format.ofText? name with
      | none => throw (.unknownFormat name)
      | some format =>
          readViewed file request >>= fun map => deliver format output (render map format)
  | invocation => perform invocation

theorem perform_eq : perform = performWith present fun map format => format.render map := by
  funext invocation
  cases invocation with
  | explore file request seed tree =>
      rw [performWith, readViewed, bind_assoc]
      rfl
  | «export» file request name output =>
      rw [perform, performWith, exportMap]
      cases Format.ofText? name with
      | none => rfl
      | some format =>
          simp only [readViewed, bind_assoc]
          rfl
  | _ => rfl

/-- Carries out the arguments of a run. -/
def actWith (perform : Invocation → Action Unit) (arguments : List Text) : Action Unit := do
  let preamble ← orRefuse (readPreamble arguments)
  if preamble.version then
    echo version
  else
    match preamble.rest with
    | [] => throw (.usage .commandMissing)
    | name :: rest =>
        match CommandName.ofText? name with
        | none => actUnknown name preamble.rest
        | some command =>
            setLevel preamble.verbose
            perform (← orRefuse (readCommand (← get).files rest command))

/-- Runs the command line over files, on a host. -/
def runWith (perform : Invocation → Action Unit) (files : FileTree) (host : Host)
    (arguments : List Text) : Outcome :=
  .ofResult ((actWith perform arguments).run.run { files, host })

theorem run_eq : run = runWith perform := rfl

/-! ## From the arguments to the command -/

/-- A run sets the level of the log, reads the arguments of its command and carries it out. -/
theorem runWith_eq_of_preamble {files : FileTree} {verbose : Bool} {arguments rest : List Text}
    {name : Text} {command : CommandName}
    (preamble : readPreamble arguments = .ok ⟨false, verbose, name :: rest⟩)
    (named : CommandName.ofText? name = some command) (perform : Invocation → Action Unit)
    (host : Host) :
    runWith perform files host arguments =
      .ofResult ((setLevel verbose >>= fun _ =>
        orRefuse (readCommand files rest command) >>= perform).run.run { files, host }) := by
  have act_eq : actWith perform arguments = setLevel verbose >>= fun _ =>
      get >>= fun session => orRefuse (readCommand session.files rest command) >>= perform := by
    rw [actWith, preamble]
    simp only [orRefuse, pure_bind, named, Bool.false_eq_true, if_false]
  rw [runWith, act_eq]
  congr 1
  -- the arguments are read after the level is set, from files that this has not touched
  apply (looks_setLevel verbose).run_bind_congr rfl
  intro _ _ session same_files
  have got : (get : Action Session).run.run session = (.ok session, session) := rfl
  rw [run_bind_of_ok got, same_files]

theorem runWith_eq_of_readsAt {files : FileTree} {verbose : Bool} {arguments : List Text}
    {invocation : Invocation} (read : ReadsAt files verbose arguments invocation)
    (perform : Invocation → Action Unit) (host : Host) :
    runWith perform files host arguments =
      .ofResult ((setLevel verbose >>= fun _ => perform invocation).run.run { files, host }) := by
  obtain ⟨name, rest, command, preamble, named, read⟩ := read
  rw [runWith_eq_of_preamble preamble named, read]
  rfl

end CommandLine
end ConceptMap
