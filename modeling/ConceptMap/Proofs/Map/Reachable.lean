import ConceptMap.Map.Operation
import ConceptMap.Proofs.Graph.Store

/-!
# Reachable maps

A map starts out as that of some declarations and changes by operations.  Its nodes and edges stay
filed under distinct ids.
-/

namespace ConceptMap
namespace Map

/-- The maps that come from declarations by operations; the empty map is that of no
declarations. -/
inductive Reachable : Map → Prop where
  | declared (name : Text) (declarations : Declarations) :
      Reachable (.ofDeclarations name declarations)
  | step {map next : Map} {operation : Operation} (reachable : Reachable map)
      (done : map.perform operation = .ok next) : Reachable next

variable {map next : Map}

/-- What an operation makes of a map when it is not at fault. -/
inductive Performs (map : Map) : Operation → Map → Prop where
  | addNode (id : Text) (definition : Option Text) :
      Performs map (.addNode id definition) (map.addNode id definition)
  | addEdge (source target : NodeName) (relationship : Text) :
      Performs map (.addEdge (some source) (some target) relationship)
        (map.addEdge ⟨map.refer source, relationship, map.refer target⟩)
  | setActive (node : Option NodeName) :
      Performs map (.setActive node) (map.withView (·.setActive (node.map map.refer)))
  | select (node : NodeName) :
      Performs map (.select node) (map.withView (·.select (map.refer node)))
  | deselect (node : NodeName) :
      Performs map (.deselect (some node)) (map.withView (·.deselect (map.refer node)))
  | deselectNothing : Performs map (.deselect none) map
  | setMaxDistance (distance : Int) :
      Performs map (.setMaxDistance distance) (map.withView (·.setMaxDistance distance))
  | setBidirectional (bidirectional : Bool) :
      Performs map (.setBidirectional bidirectional)
        (map.withView (·.setBidirectional bidirectional))
  | setRelationship (relationship : Option Text) :
      Performs map (.setRelationship relationship) (map.withView (·.setRelationship relationship))
  | applySettings {table : Table} {view : View}
      (applied : map.view.applySettings table = .ok view) :
      Performs map (.applySettings table) { map with view }

theorem performs_of_perform {operation : Operation} (done : map.perform operation = .ok next) :
    map.Performs operation next := by
  cases operation with
  | addNode id definition =>
      obtain rfl := Except.ok.inj done
      exact .addNode id definition
  | addEdge source target relationship =>
      cases source with
      | none => cases done
      | some source =>
          cases target with
          | none => cases done
          | some target =>
              obtain rfl := Except.ok.inj done
              exact .addEdge source target relationship
  | setActive node =>
      obtain rfl := Except.ok.inj done
      exact .setActive node
  | select node =>
      obtain rfl := Except.ok.inj done
      exact .select node
  | deselect node =>
      cases node with
      | none =>
          obtain rfl := Except.ok.inj done
          exact .deselectNothing
      | some node =>
          obtain rfl := Except.ok.inj done
          exact .deselect node
  | setMaxDistance distance =>
      obtain rfl := Except.ok.inj done
      exact .setMaxDistance distance
  | setBidirectional bidirectional =>
      obtain rfl := Except.ok.inj done
      exact .setBidirectional bidirectional
  | setRelationship relationship =>
      obtain rfl := Except.ok.inj done
      exact .setRelationship relationship
  | applySettings table =>
      rw [perform] at done
      split at done
      next view applied =>
        obtain rfl := Except.ok.inj done
        exact .applySettings applied
      next => cases done

/-- An operation registers a node or an edge, or only changes the view. -/
theorem perform_cases {operation : Operation} (done : map.perform operation = .ok next) :
    (∃ id definition, operation = .addNode id definition ∧ next = map.addNode id definition) ∨
      (∃ source target relationship edge, operation = .addEdge source target relationship ∧
        map.edgeOf source target relationship = .ok edge ∧ next = map.addEdge edge) ∨
      ∃ view, next = { map with view } := by
  cases performs_of_perform done with
  | addNode id definition => exact .inl ⟨id, definition, rfl, rfl⟩
  | addEdge source target relationship =>
      exact .inr (.inl ⟨some source, some target, relationship, _, rfl, rfl, rfl⟩)
  | _ => exact .inr (.inr ⟨_, rfl⟩)

theorem keyed_perform {operation : Operation} (keyed : map.graph.Keyed)
    (done : map.perform operation = .ok next) : next.graph.Keyed := by
  obtain ⟨id, definition, _, rfl⟩ | ⟨_, _, _, edge, _, _, rfl⟩ | ⟨view, rfl⟩ := perform_cases done
  · exact keyed.addNode id definition
  · exact keyed.addEdge edge
  · exact keyed

theorem Reachable.keyed (reachable : map.Reachable) : map.graph.Keyed := by
  induction reachable with
  | declared name declarations => exact Graph.keyed_ofDeclarations declarations
  | step _ done ih => exact keyed_perform ih done

theorem Reachable.after (reachable : map.Reachable) (operations : List Operation) :
    (map.after operations).Reachable := by
  induction operations generalizing map with
  | nil => exact reachable
  | cons operation rest ih =>
      rw [Map.after]
      split
      next done => exact ih (reachable.step done)
      next => exact ih reachable

end Map
end ConceptMap
