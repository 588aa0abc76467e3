import ConceptMap.Map.Request
import ConceptMap.Proofs.FirstOccurrence

/-!
# Requests that are granted

A request is granted exactly when the map knows the names in it.  Then only the view of the map
changes: to what is asked for, and for the rest to what is preferred or was there before.  When it
is refused, a name is told that the map does not know.
-/

namespace ConceptMap

/-- A view after a request.  An open distance limit or direction mode comes from the preferences;
the active concept, the relationship and the selection are those from before as far as the request
says nothing of them. -/
def ViewRequest.change (request : ViewRequest) (preferences : ViewPreferences) (view : View) :
    View :=
  { active := (request.active.map .registered).or view.active
    maxDistance := request.distance.getD preferences.maxDistance
    bidirectional := request.bidirectional.getD preferences.bidirectional
    relationship := (request.relationship.filter fun label => !label.isEmpty).or view.relationship
    selected := request.select.foldl (fun selected name => insertById (.registered name) selected)
      view.selected }

/-- Something is selected in a list in which a node has been put. -/
theorem insertById_ne_nil (node : NodeRef) (nodes : List NodeRef) : insertById node nodes ≠ [] := by
  cases nodes with
  | nil => simp [insertById]
  | cons first rest =>
      rw [insertById]
      split
      next => simp
      next =>
        split
        next => simp
        next => simp

theorem foldl_insertById_ne_nil {nodes : List NodeRef} (nonempty : nodes ≠ []) (names : List Text) :
    names.foldl (fun selected name => insertById (.registered name) selected) nodes ≠ [] := by
  induction names generalizing nodes with
  | nil => simpa using nonempty
  | cons name rest ih => exact ih (insertById_ne_nil _ _)

namespace ViewRequest

variable {request : ViewRequest} {preferences : ViewPreferences}

theorem change_active_eq_none_iff :
    (request.change preferences {}).active = none ↔ request.active = none := by
  simp [change]

theorem change_selected_eq_nil_iff :
    (request.change preferences {}).selected = [] ↔ request.select = [] := by
  rw [change]
  cases request.select with
  | nil => simp
  | cons name rest =>
      have nonempty := foldl_insertById_ne_nil (insertById_ne_nil (.registered name) []) rest
      simpa using nonempty

/-- From the default view a request leads to an empty view exactly when it names no concept. -/
theorem change_isEmpty_iff :
    (request.change preferences {}).isEmpty ↔ request.active = none ∧ request.select = [] := by
  rw [View.isEmpty, Bool.and_eq_true, Option.isNone_iff_eq_none, List.isEmpty_iff,
    change_active_eq_none_iff, change_selected_eq_nil_iff]

theorem change_relationship {label : Text} (restricted : request.relationship = some label)
    (nonempty : label ≠ []) (view : View) :
    (request.change preferences view).relationship = some label := by
  have kept : (!label.isEmpty) = true := by simpa using nonempty
  simp [change, restricted, kept]

end ViewRequest

theorem bind_eq_ok_iff {α β ε : Type} {first : Except ε α} {next : α → Except ε β} {result : β} :
    (first >>= next) = .ok result ↔ ∃ middle, first = .ok middle ∧ next middle = .ok result := by
  cases first with
  | error fault => simp [bind, Except.bind]
  | ok middle => simp [bind, Except.bind]

namespace Map

/-- The map has the concepts of a request, and its relationship if that is not the empty label. -/
structure Knows (map : Map) (request : ViewRequest) : Prop where
  relationship : ∀ label ∈ request.relationship, label ≠ [] → label ∈ map.graph.relationships
  active : ∀ name ∈ request.active, (map.graph.node? name).isSome
  select : ∀ name ∈ request.select, (map.graph.node? name).isSome

theorem knows_iff {map : Map} {request : ViewRequest} :
    map.Knows request ↔
      (∀ label ∈ request.relationship, label ≠ [] → label ∈ map.graph.relationships) ∧
        (∀ name ∈ request.active, (map.graph.node? name).isSome) ∧
          ∀ name ∈ request.select, (map.graph.node? name).isSome := by
  constructor
  · intro known
    exact ⟨known.relationship, known.active, known.select⟩
  · rintro ⟨relationship, active, select⟩
    exact ⟨relationship, active, select⟩

/-- Equality of texts, by name, so that the instance below reads the same wherever it is
compiled. -/
theorem lawfulBEq_text : LawfulBEq Text := inferInstance

instance (map : Map) (request : ViewRequest) : Decidable (map.Knows request) :=
  haveI := lawfulBEq_text
  decidable_of_iff _ knows_iff.symm

variable {map viewed : Map}

theorem concept_eq_ok_iff {name : Text} {node : NodeRef} :
    map.concept name = .ok node ↔ (map.graph.node? name).isSome ∧ node = .registered name := by
  rw [concept]
  split
  next known => simp [known, eq_comm]
  next unknown => simp [unknown]

theorem lookAlong_eq_ok_iff {relationship : Option Text} :
    map.lookAlong relationship = .ok viewed ↔
      (∀ label ∈ relationship, label ≠ [] → label ∈ map.graph.relationships) ∧
        viewed = map.withView fun view =>
          { view with
            relationship := (relationship.filter fun label => !label.isEmpty).or
              view.relationship } := by
  unfold lookAlong
  split
  next =>
    rw [Except.ok.injEq, eq_comm]
    simp [withView]
  next =>
    rw [Except.ok.injEq, eq_comm, Option.filter_some_neg (by simp)]
    simp [withView]
  next label nonempty =>
    have named : label ≠ [] := fun empty => nonempty (by rw [empty])
    have kept : (some label).filter (fun label => !label.isEmpty) = some label := by
      simpa using named
    have known_iff : map.graph.relationships.any (· = label) = true ↔
        label ∈ map.graph.relationships := by
      simp
    rw [kept]
    split
    next known =>
      have set_eq (view : View) :
          view.setRelationship (some label) = { view with relationship := some label } := by
        rw [View.setRelationship, kept]
      rw [Except.ok.injEq, eq_comm]
      simp [set_eq, known_iff.1 known]
    next unknown =>
      have unlisted : label ∉ map.graph.relationships := fun listed => unknown (known_iff.2 listed)
      simp [named, unlisted]

theorem lookAt_eq_ok_iff {active : Option Text} :
    map.lookAt active = .ok viewed ↔
      (∀ name ∈ active, (map.graph.node? name).isSome) ∧
        viewed = map.withView fun view =>
          { view with active := (active.map .registered).or view.active } := by
  cases active with
  | none =>
      rw [lookAt, Except.ok.injEq, eq_comm]
      simp [withView]
  | some name =>
      rw [lookAt, concept]
      split
      next known =>
        rw [Except.map, Except.ok.injEq, eq_comm]
        simp [View.setActive, known]
      next unknown => simp [Except.map, unknown]

theorem lookAround_eq_ok_iff {names : List Text} :
    map.lookAround names = .ok viewed ↔
      (∀ name ∈ names, (map.graph.node? name).isSome) ∧
        viewed = map.withView fun view =>
          { view with
            selected := names.foldl (fun selected name => insertById (.registered name) selected)
              view.selected } := by
  induction names generalizing map with
  | nil =>
      rw [lookAround, Except.ok.injEq, eq_comm]
      simp [withView]
  | cons name rest ih =>
      rw [lookAround, bind_eq_ok_iff]
      constructor
      · rintro ⟨node, named, selected⟩
        obtain ⟨known, rfl⟩ := concept_eq_ok_iff.1 named
        obtain ⟨others, rfl⟩ := ih.1 selected
        exact ⟨List.forall_mem_cons.2 ⟨known, others⟩, rfl⟩
      · rintro ⟨known, rfl⟩
        obtain ⟨first, others⟩ := List.forall_mem_cons.1 known
        exact ⟨.registered name, concept_eq_ok_iff.2 ⟨first, rfl⟩, ih.2 ⟨others, rfl⟩⟩

/-- A request is granted exactly when its names are known, and then nothing but the view changes. -/
theorem request_eq_ok_iff {preferences : ViewPreferences} {request : ViewRequest} :
    map.request preferences request = .ok viewed ↔
      map.Knows request ∧ viewed = map.withView (request.change preferences) := by
  rw [Map.request, bind_eq_ok_iff]
  simp only [bind_eq_ok_iff]
  -- each step changes a part of the view that no later one looks at
  constructor
  · rintro ⟨restricted, along, centered, at_active, around⟩
    obtain ⟨relationship, rfl⟩ := lookAlong_eq_ok_iff.1 along
    obtain ⟨active, rfl⟩ := lookAt_eq_ok_iff.1 at_active
    obtain ⟨select, rfl⟩ := lookAround_eq_ok_iff.1 around
    exact ⟨⟨relationship, active, select⟩, rfl⟩
  · rintro ⟨known, rfl⟩
    exact ⟨_, lookAlong_eq_ok_iff.2 ⟨known.relationship, rfl⟩, _,
      lookAt_eq_ok_iff.2 ⟨known.active, rfl⟩, lookAround_eq_ok_iff.2 ⟨known.select, rfl⟩⟩

theorem request_of_knows {request : ViewRequest} (known : map.Knows request)
    (preferences : ViewPreferences) :
    map.request preferences request = .ok (map.withView (request.change preferences)) :=
  request_eq_ok_iff.2 ⟨known, rfl⟩

/-! ## Requests that are refused -/

/-- A name in the request is not known to the map. -/
inductive Unknown (map : Map) (request : ViewRequest) : NotFound → Prop where
  /-- No edge has the label. -/
  | relationship {label : Text} (asked : label ∈ request.relationship) (nonempty : label ≠ [])
      (unlisted : label ∉ map.graph.relationships) :
      Unknown map request (.relationship label map.graph.relationships)
  /-- No concept has the name. -/
  | concept {name : Text} (asked : name ∈ request.active ∨ name ∈ request.select)
      (unregistered : map.graph.node? name = none) :
      Unknown map request (.concept name (map.graph.nodes.map (·.id)))

theorem Unknown.not_knows {request : ViewRequest} {fault : NotFound}
    (unknown : map.Unknown request fault) : ¬ map.Knows request := by
  intro known
  cases unknown with
  | relationship asked nonempty unlisted => exact unlisted (known.relationship _ asked nonempty)
  | concept asked unregistered =>
      have registered := asked.elim (known.active _) (known.select _)
      simp [unregistered] at registered

theorem bind_eq_error_iff {α β : Type} {first : Except NotFound α} {next : α → Except NotFound β}
    {fault : NotFound} :
    (first >>= next) = .error fault ↔
      first = .error fault ∨ ∃ middle, first = .ok middle ∧ next middle = .error fault := by
  cases first with
  | error reason => simp [bind, Except.bind]
  | ok middle => simp [bind, Except.bind]

variable {fault : NotFound}

theorem concept_eq_error_iff {name : Text} :
    map.concept name = .error fault ↔
      map.graph.node? name = none ∧ fault = .concept name (map.graph.nodes.map (·.id)) := by
  rw [concept]
  split
  next known => simp [Option.isSome_iff_ne_none.1 known]
  next unknown => simp [Option.not_isSome_iff_eq_none.1 unknown, eq_comm]

theorem lookAlong_eq_error {relationship : Option Text}
    (refused : map.lookAlong relationship = .error fault) :
    ∃ label ∈ relationship, label ≠ [] ∧ label ∉ map.graph.relationships ∧
      fault = .relationship label map.graph.relationships := by
  unfold lookAlong at refused
  split at refused
  next => simp at refused
  next => simp at refused
  next label nonempty =>
    split at refused
    next => simp at refused
    next unknown =>
      obtain rfl := Except.error.inj refused
      exact ⟨label, rfl, fun empty => nonempty (by rw [empty]), by simpa using unknown, rfl⟩

theorem lookAt_eq_error {active : Option Text} (refused : map.lookAt active = .error fault) :
    ∃ name ∈ active, map.graph.node? name = none ∧
      fault = .concept name (map.graph.nodes.map (·.id)) := by
  cases active with
  | none => simp [lookAt] at refused
  | some name =>
      refine ⟨name, rfl, ?_⟩
      rw [lookAt] at refused
      cases named : map.concept name with
      | ok node => simp [named, Except.map] at refused
      | error reason =>
          rw [named] at refused
          obtain rfl := Except.error.inj refused
          exact concept_eq_error_iff.1 named

theorem lookAround_eq_error {names : List Text} (refused : map.lookAround names = .error fault) :
    ∃ name ∈ names, map.graph.node? name = none ∧
      fault = .concept name (map.graph.nodes.map (·.id)) := by
  induction names generalizing map with
  | nil => simp [lookAround] at refused
  | cons name rest ih =>
      rw [lookAround, bind_eq_error_iff] at refused
      rcases refused with unnamed | ⟨node, _, later⟩
      · exact ⟨name, List.mem_cons_self, concept_eq_error_iff.1 unnamed⟩
      · obtain ⟨other, asked, unknown⟩ := ih later
        exact ⟨other, List.mem_cons_of_mem _ asked, unknown⟩

/-- A request is refused only for a name that the map does not know, whatever is preferred. -/
theorem unknown_of_request_eq_error {preferences : ViewPreferences} {request : ViewRequest}
    (refused : map.request preferences request = .error fault) : map.Unknown request fault := by
  rw [Map.request, bind_eq_error_iff] at refused
  -- no step but the one that refuses touches the graph
  rcases refused with along | ⟨restricted, along, refused⟩
  · obtain ⟨label, asked, nonempty, unlisted, rfl⟩ := lookAlong_eq_error along
    exact .relationship asked nonempty unlisted
  · obtain ⟨_, rfl⟩ := lookAlong_eq_ok_iff.1 along
    rcases bind_eq_error_iff.1 refused with at_active | ⟨centered, at_active, around⟩
    · obtain ⟨name, asked, unregistered, rfl⟩ := lookAt_eq_error at_active
      exact .concept (.inl asked) unregistered
    · obtain ⟨_, rfl⟩ := lookAt_eq_ok_iff.1 at_active
      obtain ⟨name, asked, unregistered, rfl⟩ := lookAround_eq_error around
      exact .concept (.inr asked) unregistered

/-- A request is granted, or refused for a name that the map does not know. -/
theorem request_cases (map : Map) (preferences : ViewPreferences) (request : ViewRequest) :
    (map.Knows request ∧
        map.request preferences request = .ok (map.withView (request.change preferences))) ∨
      ∃ fault, map.Unknown request fault ∧ map.request preferences request = .error fault := by
  cases requested : map.request preferences request with
  | ok viewed =>
      obtain ⟨known, rfl⟩ := request_eq_ok_iff.1 requested
      exact .inl ⟨known, rfl⟩
  | error fault => exact .inr ⟨fault, unknown_of_request_eq_error requested, rfl⟩

end Map
end ConceptMap
