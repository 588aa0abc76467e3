import ConceptMap.Proofs.CommandLine.Export
import ConceptMap.Proofs.CommandLine.Parts

/-!
# Runs in any order of sets

A run goes through the sets of a map to find what is visible.  What it shows is the same in every
order, and so is what it exports as JSON, but for the order of the nodes there.  Nor does it matter
in what order, or how often, the selected concepts are named.
-/

namespace ConceptMap

variable {map : Map}

namespace CommandLine

/-- An order of the sets of every map. -/
abbrev SetOrders := (map : Map) → map.SetOrder

section Definitions

variable (orders : SetOrders)

/-- Prints what a map shows, with the sets gone through in the given order. -/
def presentAlong (map : Map) (tree : Bool) : Action Unit :=
  presentWith map (orders map).visibleNodes (orders map).visibleEdges (orders map).distance? tree

/-- A map in a format, with the sets gone through in the given order. -/
def renderAlong (map : Map) : Format → Text
  | .dsl => map.toText
  | .json => (orders map).payload.toJson.render
  | .dot => Text.joinLines (Dot.openLine map :: "  rankdir=LR;" ::
      ((orders map).shownNodes.map (Dot.nodeLine map) ++
        (orders map).shownEdges.map Dot.edgeLine ++ [['}']]))

/-- Runs the command line, with the sets gone through in the given order. -/
def runAlong (files : FileTree) (host : Host) (arguments : List Text) : Outcome :=
  runWith (performWith (presentAlong orders) (renderAlong orders)) files host arguments

end Definitions

/-- The program goes through the sets in one of the orders. -/
theorem runAlong_standard : runAlong Map.SetOrder.standard = run := by
  have distance_eq (map : Map) : (Map.SetOrder.standard map).distance? = map.distance? :=
    funext (Map.SetOrder.standard map).distance?_eq
  have present_along : presentAlong Map.SetOrder.standard = present := by
    funext map tree
    rw [presentAlong, Map.SetOrder.standard_visibleNodes, Map.SetOrder.visibleEdges_eq,
      distance_eq, present_eq]
  have render_along : renderAlong Map.SetOrder.standard = fun map format => format.render map := by
    funext map format
    have nodes_eq : (Map.SetOrder.standard map).shownNodes = map.shownNodes := by
      rw [Map.SetOrder.shownNodes, Map.SetOrder.standard_visibleNodes]
      rfl
    have edges_eq : (Map.SetOrder.standard map).shownEdges = map.shownEdges := by
      rw [Map.SetOrder.shownEdges, Map.SetOrder.visibleEdges_eq]
      rfl
    cases format with
    | dsl => rfl
    | json =>
        rw [renderAlong, Map.SetOrder.payload, nodes_eq, edges_eq, distance_eq]
        rfl
    | dot =>
        rw [renderAlong, nodes_eq, edges_eq]
        rfl
  funext files host arguments
  rw [runAlong, present_along, render_along, ← perform_eq, run_eq]

/-! ## Showing -/

section Shown

variable (orders : SetOrders)

theorem conceptGridWith_eq (order : map.SetOrder) (held : map.HoldsById) :
    conceptGridWith map order.visibleNodes order.distance? =
      conceptGridWith map map.visibleNodes map.distance? := by
  have distance_eq : order.distance? = map.distance? := funext order.distance?_eq
  let entry (node : NodeRef) : NodeRef × Option Nat := (node, map.distance? node.id)
  have perm : (order.visibleNodes.map entry).Perm (map.visibleNodes.map entry) :=
    (order.visibleNodes_perm held).map entry
  -- the nodes are those of the map itself, so that an id belongs to one entry only
  have apart : ∀ first ∈ order.visibleNodes.map entry, ∀ second ∈ order.visibleNodes.map entry,
      first.1.id = second.1.id → first = second := by
    intro first first_mem second second_mem same
    obtain ⟨node, node_mem, rfl⟩ := List.mem_map.1 first_mem
    obtain ⟨other, other_mem, rfl⟩ := List.mem_map.1 second_mem
    have node_eq : node = other := by
      rw [order.eq_registered_of_mem_visibleNodes held node_mem,
        order.eq_registered_of_mem_visibleNodes held other_mem]
      exact congrArg NodeRef.registered same
    rw [node_eq]
  rw [conceptGridWith, conceptGridWith, distance_eq, mergeSort_entries_eq perm apart]

theorem presentAlong_eq (held : map.HoldsById) (tree : Bool) :
    presentAlong orders map tree = present map tree := by
  have length_eq : (orders map).visibleNodes.length = map.visibleNodes.length :=
    ((orders map).visibleNodes_perm held).length_eq
  rw [presentAlong, present_eq, presentWith, presentWith, conceptGridWith_eq _ held,
    Map.SetOrder.visibleEdges_eq]
  simp only [countLinesWith, length_eq]

theorem showWith_eq (held : map.HoldsById) (seed : Option Int) (tree : Bool) :
    showWith (presentAlong orders · tree) seed map = showWith (present · tree) seed map := by
  rw [showWith, showWith]
  split
  next =>
    congr 1
    funext session
    split
    next => rfl
    next node picked => rw [presentAlong_eq orders (held.pick picked)]
  next => rw [presentAlong_eq orders held]

end Shown

/-! ## Naming the selected concepts in another way -/

/-- A request is accepted: if the file holds a document, its map knows the names. -/
def Accepts (files : FileTree) (file : Path) (request : ViewRequest) : Prop :=
  ∀ document, HoldsDocument files file document →
    (Map.ofDeclarations file.stem document.declarations).Knows request

section Selecting

variable {files : FileTree} {file : Path} {request : ViewRequest} {select : List Text}

theorem change_of_same_select (same : ∀ name, name ∈ request.select ↔ name ∈ select)
    (preferences : ViewPreferences) {view : View} (nothing : view.selected = []) :
    ({ request with select } : ViewRequest).change preferences view =
      request.change preferences view := by
  have selected_eq :
      selectNames select view.selected = selectNames request.select view.selected := by
    rw [nothing, selectNames_congr same]
  rw [ViewRequest.change, ViewRequest.change]
  exact congrArg _ selected_eq

theorem request_of_same_select (same : ∀ name, name ∈ request.select ↔ name ∈ select)
    (known : map.Knows request) (nothing : map.view.selected = [])
    (preferences : ViewPreferences) :
    map.request preferences { request with select } = map.request preferences request := by
  have known_too : map.Knows { request with select } :=
    ⟨known.relationship, known.active, fun name found => known.select name ((same name).2 found)⟩
  rw [Map.request_of_knows known, Map.request_of_knows known_too, Map.withView, Map.withView,
    change_of_same_select same preferences nothing]

theorem applyRequest_of_same_select (same : ∀ name, name ∈ request.select ↔ name ∈ select)
    (known : map.Knows request) (nothing : map.view.selected = []) :
    applyRequest map { request with select } = applyRequest map request := by
  unfold applyRequest
  simp only [request_of_same_select same known nothing]

theorem readViewed_of_same_select (same : ∀ name, name ∈ request.select ↔ name ∈ select)
    (accepted : Accepts files file request) {session : Session}
    (same_files : session.files = files) :
    (readViewed file { request with select }).run.run session =
      (readViewed file request).run.run session := by
  apply (looks_readMap file).run_bind_congr same_files
  rintro map ⟨document, held, rfl⟩ between -
  rw [applyRequest_of_same_select same (accepted document held) rfl]

theorem looks_readViewed_holdsById (file : Path) (request : ViewRequest) :
    Looks files (readViewed file request) Map.HoldsById := by
  apply (looks_readViewed file request).imp
  rintro _ ⟨document, preferences, -, rfl⟩
  exact Map.holdsById_ofDeclarations _ document.declarations request preferences

end Selecting

/-! ## Exporting -/

/-- Two exports are alike: they stop alike, or they deliver payloads that differ in the order of
their nodes only, and say the same of it when that goes to a file. -/
inductive ExportsAlike (files : FileTree) (output : Option Path) : Outcome → Outcome → Prop where
  /-- Nothing is delivered. -/
  | stopped (stop : Stop) (session : Session) :
      ExportsAlike files output ⟨some stop, session⟩ ⟨some stop, session⟩
  /-- Two payloads are delivered. -/
  | delivered {first second : Payload} {session other : Session} (alike : first.Alike second)
      (first_delivered : Delivers files first.toJson.render output session)
      (second_delivered : Delivers files second.toJson.render output other)
      (reported : output.isSome → other.output = session.output) :
      ExportsAlike files output ⟨none, session⟩ ⟨none, other⟩

/-- Whether a file can be written does not depend on what is written. -/
theorem write_cases (files : FileTree) (path : Path) :
    (∃ fault, ∀ bytes, files.write path bytes = .error fault) ∨
      ∀ bytes, ∃ after, files.write path bytes = .ok after := by
  by_cases writable : files.Writable path
  · exact .inr writable.exists_write
  · left
    cases located : files.locate path with
    | error fault =>
        refine ⟨fault, fun bytes => ?_⟩
        rw [FileTree.write, located]
        rfl
    | ok place =>
        have occupied : files.entry? place = some .directory := by
          by_contra free
          exact writable ⟨place, located, free⟩
        refine ⟨.isDirectory, fun bytes => ?_⟩
        rw [FileTree.write, located]
        simp only [bind, Except.bind, occupied]
        rfl

theorem Session.echo_output (session : Session) (files : FileTree) (line : Text) :
    ({ session with files }.echo line).output = (session.echo line).output := by
  rw [Session.echo, Session.echo, Session.print, Session.print]
  dsimp only
  cases session.output.getLast? with
  | none => rfl
  | some segment =>
      cases segment with
      | text => rfl
      | grid => rfl

theorem deliver_alike {session : Session} {output : Option Path} {first second : Payload}
    (blank : session.output = []) (alike : first.Alike second) :
    ExportsAlike session.files output
      (.ofResult ((deliver .json output first.toJson.render).run.run session))
      (.ofResult ((deliver .json output second.toJson.render).run.run session)) := by
  have ends (text : Text) : text ++ Format.fileEnd .json = text := List.append_nil text
  cases output with
  | none =>
      have printed (text : Text) : Delivers session.files text none (session.echo text) := by
        refine .printed ?_ (session.echo_files text)
        simp [Session.echo, Session.print, blank]
      exact .delivered alike (printed _) (printed _) (by simp)
  | some path =>
      rcases write_cases session.files path with ⟨fault, failed⟩ | written
      · have stopped (text : Text) : (deliver .json (some path) text).run.run session =
            (.error (.file fault path), session) :=
          run_bind_of_error (writeFile_run_of_error (failed _)) _
        rw [stopped, stopped]
        exact .stopped _ session
      · obtain ⟨first_files, first_write⟩ := written (Utf8.encode first.toJson.render)
        obtain ⟨second_files, second_write⟩ := written (Utf8.encode second.toJson.render)
        have went {text : Text} {files : FileTree}
            (write : session.files.write path (Utf8.encode text) = .ok files) :
            (deliver .json (some path) text).run.run session =
              (.ok (), { session with files }.echo
                ("Exported " ++ Format.name .json ++ " to " ++ path.render)) := by
          have wrote := writeFile_run write
          rw [← ends text] at wrote
          exact run_bind_of_ok wrote _
        rw [went first_write, went second_write]
        refine .delivered alike (.written ?_) (.written ?_) fun _ => ?_
        · rw [Session.echo_files, first_write]
        · rw [Session.echo_files, second_write]
        · exact (session.echo_output second_files _).trans (session.echo_output first_files _).symm

/-! ## Runs -/

section Runs

variable (first second : SetOrders) {files : FileTree} {host : Host} {file : Path}
  {verbose : Bool} {arguments others : List Text} {request : ViewRequest} {select : List Text}

/-- What is shown is the same. -/
theorem runAlong_explore_eq {seed : Option Int} {tree : Bool}
    (read : ReadsAt files verbose arguments (.explore file request seed tree))
    (read_other : ReadsAt files verbose others (.explore file { request with select } seed tree))
    (accepted : Accepts files file request)
    (same : ∀ name, name ∈ request.select ↔ name ∈ select) :
    runAlong first files host arguments = runAlong second files host others := by
  rw [runAlong, runAlong, runWith_eq_of_readsAt read, runWith_eq_of_readsAt read_other]
  congr 1
  apply (looks_setLevel verbose).run_bind_congr rfl
  intro _ _ session same_files
  rw [performWith, performWith,
    run_bind_congr (readViewed_of_same_select same accepted same_files)]
  apply (looks_readViewed_holdsById file request).run_bind_congr same_files
  intro viewed held between _
  rw [showWith_eq first held, showWith_eq second held]

/-- What is exported is the same but for the order of the nodes. -/
theorem runAlong_export_alike {name : Text} {output : Option Path}
    (read : ReadsAt files verbose arguments (.export file request name output))
    (read_other : ReadsAt files verbose others (.export file { request with select } name output))
    (accepted : Accepts files file request) (shown : Format.ofText? name = some .json)
    (same : ∀ name, name ∈ request.select ↔ name ∈ select) :
    ExportsAlike files output (runAlong first files host arguments)
      (runAlong second files host others) := by
  have command_eq (orders : SetOrders) (request : ViewRequest) :
      performWith (presentAlong orders) (renderAlong orders) (.export file request name output) =
        readViewed file request >>= fun map =>
          deliver .json output (orders map).payload.toJson.render := by
    simp only [performWith, shown]
    rfl
  have viewed_eq : (setLevel verbose >>= fun _ => readViewed file { request with select }).run.run
      { files, host } =
        (setLevel verbose >>= fun _ => readViewed file request).run.run { files, host } := by
    apply (looks_setLevel verbose).run_bind_congr rfl
    intro _ _ session same_files
    exact readViewed_of_same_select same accepted same_files
  have looks : Looks files (setLevel verbose >>= fun _ => readViewed file request) Map.HoldsById :=
    (looks_setLevel verbose).bind fun _ _ => looks_readViewed_holdsById file request
  rw [runAlong, runAlong, runWith_eq_of_readsAt read, runWith_eq_of_readsAt read_other, command_eq,
    command_eq, ← bind_assoc, ← bind_assoc, run_bind_congr viewed_eq]
  rcases run_cases (setLevel verbose >>= fun _ => readViewed file request) { files, host } with
    ⟨stop, after, stopped⟩ | ⟨viewed, after, returned⟩
  · rw [run_bind_of_error stopped, run_bind_of_error stopped]
    exact .stopped stop after
  · obtain ⟨work, held⟩ := looks _ viewed after rfl returned
    rw [run_bind_of_ok returned, run_bind_of_ok returned]
    obtain rfl : after.files = files := work.files
    exact deliver_alike work.output (Map.SetOrder.payload_alike held _ _)

end Runs

/-- The program goes through the sets in one of many orders.  In any two of them distances and
visible edges are the same, and so are visible nodes but for the order of those that are there for
the selection only.  What is shown is the same, however the selected concepts are listed, and an
export as JSON is the same but for the order of its nodes. -/
theorem alike_in_any_order (first second : SetOrders) :
    runAlong Map.SetOrder.standard = run ∧
      (∀ map, (Map.SetOrder.standard map).distance? = map.distance? ∧
        (Map.SetOrder.standard map).visibleNodes = map.visibleNodes ∧
          (Map.SetOrder.standard map).visibleEdges = map.visibleEdges) ∧
      (∀ map, (first map).Alike (second map)) ∧
      (∀ (files : FileTree) (host : Host) (file : Path) (verbose : Bool)
        (arguments others : List Text) (request : ViewRequest) (select : List Text)
        (seed : Option Int) (tree : Bool),
        ReadsAt files verbose arguments (.explore file request seed tree) →
        ReadsAt files verbose others (.explore file { request with select } seed tree) →
        Accepts files file request → (∀ name, name ∈ request.select ↔ name ∈ select) →
        runAlong first files host arguments = runAlong second files host others) ∧
      ∀ (files : FileTree) (host : Host) (file : Path) (verbose : Bool)
        (arguments others : List Text) (request : ViewRequest) (select : List Text) (name : Text)
        (output : Option Path),
        ReadsAt files verbose arguments (.export file request name output) →
        ReadsAt files verbose others (.export file { request with select } name output) →
        Accepts files file request → (∀ name, name ∈ request.select ↔ name ∈ select) →
        Format.ofText? name = some .json →
        ExportsAlike files output (runAlong first files host arguments)
          (runAlong second files host others) := by
  refine ⟨runAlong_standard, fun map => ⟨?_, ?_, ?_⟩, fun map => (first map).alike (second map),
    ?_, ?_⟩
  · exact funext (Map.SetOrder.standard map).distance?_eq
  · exact Map.SetOrder.standard_visibleNodes
  · exact (Map.SetOrder.standard map).visibleEdges_eq
  · intro files host file verbose arguments others request select seed tree
    exact runAlong_explore_eq first second
  · intro files host file verbose arguments others request select name output read read_other
      accepted same shown
    exact runAlong_export_alike first second read read_other accepted shown same

/-- Going through the sets backwards, with two concepts selected the other way round and one of them
twice, shows the same.  The exports do differ in the order of the nodes. -/
theorem alike_in_any_order_of_reversed :
    let files := ({} : FileTree).addFile (Path.parse "m.dsl")
      (Utf8.encode "a -- r -> b\nb -- s -> c\nx -- r -> y")
    let host : Host := { settings := Path.parse "home", pick := fun _ _ => 0, explain := id }
    let before := run files host ["export", "m.dsl", "-f", "json", "-s", "a", "-s", "y"]
    let after := runAlong Map.SetOrder.reversed files host
      ["export", "m.dsl", "-f", "json", "-s", "y", "-s", "a", "-s", "y"]
    run files host ["show", "m.dsl", "-a", "b", "-s", "a", "-s", "y"] =
        runAlong Map.SetOrder.reversed files host
          ["show", "m.dsl", "-a", "b", "-s", "y", "-s", "a", "-s", "y"] ∧
      ExportsAlike files none before after ∧ before.session.output ≠ after.session.output := by
  intro files host before after
  let document : Document :=
    { predicates := [⟨1, ⟨"a", "r", "b"⟩⟩, ⟨2, ⟨"b", "s", "c"⟩⟩, ⟨3, ⟨"x", "r", "y"⟩⟩]
      definitions := [] }
  have held : HoldsDocument files (Path.parse "m.dsl") document := by
    decide +kernel
  have accepted {request : ViewRequest}
      (known : (Map.ofDeclarations (Path.parse "m.dsl").stem document.declarations).Knows request) :
      Accepts files (Path.parse "m.dsl") request := by
    intro other held_too
    rw [← held.unique held_too]
    exact known
  have same (name : Text) :
      name ∈ (["a", "y"] : List Text) ↔ name ∈ (["y", "a", "y"] : List Text) := by
    simp only [List.mem_cons, List.not_mem_nil, or_false]
    tauto
  obtain ⟨standard_eq, -, -, shows, exports⟩ :=
    alike_in_any_order Map.SetOrder.standard Map.SetOrder.reversed
  rw [standard_eq] at shows exports
  refine ⟨?_, ?_, by decide +kernel⟩
  · refine shows files host (Path.parse "m.dsl") false _ _
      { active := some "b", select := ["a", "y"] } ["y", "a", "y"] none false ?_ ?_
      (accepted (by decide +kernel)) same
    · exact ⟨"show", ["m.dsl", "-a", "b", "-s", "a", "-s", "y"], .explore, by decide +kernel,
        by decide +kernel, by decide +kernel⟩
    · exact ⟨"show", ["m.dsl", "-a", "b", "-s", "y", "-s", "a", "-s", "y"], .explore,
        by decide +kernel, by decide +kernel, by decide +kernel⟩
  · refine exports files host (Path.parse "m.dsl") false _ _ { select := ["a", "y"] }
      ["y", "a", "y"] "json" none ?_ ?_ (accepted (by decide +kernel)) same (by decide)
    · exact ⟨"export", ["m.dsl", "-f", "json", "-s", "a", "-s", "y"], .export, by decide +kernel,
        by decide +kernel, by decide +kernel⟩
    · exact ⟨"export", ["m.dsl", "-f", "json", "-s", "y", "-s", "a", "-s", "y"], .export,
        by decide +kernel, by decide +kernel, by decide +kernel⟩

end CommandLine
end ConceptMap
