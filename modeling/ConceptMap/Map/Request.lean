import ConceptMap.Map
import ConceptMap.Preferences
import ConceptMap.Text.Similarity

/-!
# Requests

What a user asks to see of a map: an active concept, selected concepts, and how to look at them.
What is left open is settled by the preferences, and names that the map does not know are reported
with the known names most like them.
-/

namespace ConceptMap

/-- What a view is asked to show. -/
structure ViewRequest where
  /-- The active concept. -/
  active : Option Text := none
  /-- The selected concepts. -/
  select : List Text := []
  /-- How far around the active concept. -/
  distance : Option Nat := none
  /-- Whether edges are followed in both directions. -/
  bidirectional : Option Bool := none
  /-- The only relationship to look at; the empty label asks for none. -/
  relationship : Option Text := none
deriving DecidableEq, Repr

/-- The report of a name that is not known, with the known names most like it. -/
def notFoundMessage (kind name : Text) (known : List Text) : Text :=
  let start := kind ++ " '" ++ name ++ "' not found."
  match Similarity.suggestions name known with
  | [] => start
  | similar => start ++ " Did you mean: " ++ Text.join ", " similar ++ "?"

/-- A name that is not known. -/
inductive NotFound where
  /-- No concept has this name. -/
  | concept (name : Text) (known : List Text)
  /-- No edge has this label. -/
  | relationship (label : Text) (known : List Text)
deriving DecidableEq, Repr

/-- The report of a name that is not known. -/
def NotFound.message : NotFound → Text
  | .concept name known => notFoundMessage "Concept" name known
  | .relationship label known => notFoundMessage "Relationship" label known

namespace Map

/-- The registered node of a name. -/
def concept (map : Map) (name : Text) : Except NotFound NodeRef :=
  if (map.graph.node? name).isSome then .ok (.registered name)
  else .error (.concept name (map.graph.nodes.map (·.id)))

/-- Sets the distance limit and the direction mode: as asked for, or else as preferred. -/
def lookFrom (map : Map) (preferences : ViewPreferences) (request : ViewRequest) : Map :=
  map.withView fun view =>
    { view with
      maxDistance := request.distance.getD preferences.maxDistance
      bidirectional := request.bidirectional.getD preferences.bidirectional }

/-- Restricts the view to the relationship that is asked for. -/
def lookAlong (map : Map) (relationship : Option Text) : Except NotFound Map :=
  match relationship with
  | none | some [] => .ok map
  | some label =>
      if map.graph.relationships.any (· = label) then
        .ok (map.withView fun view => view.setRelationship (some label))
      else .error (.relationship label map.graph.relationships)

/-- Makes the concept that is asked for the active one. -/
def lookAt (map : Map) (active : Option Text) : Except NotFound Map :=
  match active with
  | none => .ok map
  | some name =>
      (map.concept name).map fun node => map.withView fun view => view.setActive (some node)

/-- Selects the concepts that are asked for, one after another. -/
def lookAround (map : Map) : List Text → Except NotFound Map
  | [] => .ok map
  | name :: rest => do
      let node ← map.concept name
      lookAround (map.withView fun view => view.select node) rest

/-- The map as it is asked for.  Of several unknown names the relationship is reported first, then
the active concept, then the first selected one. -/
def request (map : Map) (preferences : ViewPreferences) (request : ViewRequest) :
    Except NotFound Map := do
  let restricted ← (map.lookFrom preferences request).lookAlong request.relationship
  let centered ← restricted.lookAt request.active
  centered.lookAround request.select

end Map
end ConceptMap
