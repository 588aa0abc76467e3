import ConceptMap.Proofs.CommandLine.Parts

/-!
# Runs that look at a map

A run that comes to look at a map in a file goes on with the map in the view that is asked for, or
it stops: because its settings cannot be told, or at a name that the map does not know.  In either
case nothing was done before.
-/

namespace ConceptMap
namespace CommandLine

/-- The command looks at the map in a file as it is asked to, and goes on from there. -/
inductive Views : Invocation → Path → ViewRequest → (Map → Action Unit) → Prop where
  /-- The map is shown. -/
  | shows (file : Path) (request : ViewRequest) (seed : Option Int) (tree : Bool) :
      Views (.explore file request seed tree) file request (showWith (present · tree) seed)
  /-- The map is exported. -/
  | exports {name : Text} {format : Format} (known : Format.ofText? name = some format)
      (file : Path) (request : ViewRequest) (output : Option Path) :
      Views (.export file request name output) file request
        fun map => deliver format output (format.render map)

/-- A run stopped before anything was done, as its settings cannot be told. -/
structure StopsUntold (files : FileTree) (outcome : Outcome) : Prop where
  stop : outcome.stop = some (.unwritable .tooLong)
  files : outcome.session.files = files
  output : outcome.session.output = []

theorem StopsUntold.code_ne_zero {files : FileTree} {outcome : Outcome}
    (stopped : StopsUntold files outcome) : outcome.code ≠ 0 := by
  rw [Outcome.code, stopped.stop]
  exact Nat.one_ne_zero

section Runs

variable {files : FileTree} {host : Host} {file : Path} {content : Preferences.Content}
  {arguments : List Text} {verbose : Bool} {invocation : Invocation} {request : ViewRequest}
  {rest : Map → Action Unit} {document : Document}

theorem Views.perform_eq (views : Views invocation file request rest) :
    perform invocation = readViewed file request >>= rest := by
  rw [CommandLine.perform_eq]
  cases views with
  | shows => rfl
  | exports known => rw [performWith, known]

/-- At the level of a session the warnings about the view can be told, if the settings can. -/
theorem tells_iff_canTell {session : Session}
    (started : Preferences.startLevel content verbose = .ok session.level) :
    session.Tells (Preferences.loadView content).complaints ↔ Preferences.canTell content verbose :=
  (Preferences.canTell_iff started).symm

theorem applyRequest_run {session : Session}
    (configured : HoldsSettings session.files session.host content)
    (tells : session.Tells (Preferences.loadView content).complaints) (map : Map)
    (request : ViewRequest) :
    (applyRequest map request).run.run session =
      ((map.request (Preferences.loadView content).value request).mapError Stop.notFound,
        session.complain (Preferences.loadView content).complaints) := by
  rw [applyRequest, run_bind_of_ok (loadView_run configured tells)]
  cases map.request (Preferences.loadView content).value request with
  | ok viewed => rfl
  | error fault => rfl

/-- A run that comes to look at a map stops if its settings cannot be told.  Otherwise it goes on
with the map in the view that is asked for, or stops at a name that the map does not know. -/
theorem run_views_cases (configured : HoldsSettings files host content)
    (read : ReadsAt files verbose arguments invocation)
    (views : Views invocation file request rest) (held : HoldsDocument files file document) :
    let map := Map.ofDeclarations file.stem document.declarations
    (Preferences.canTell content verbose = false ∧
        StopsUntold files (run files host arguments)) ∨
      Preferences.canTell content verbose = true ∧
        ((map.Knows request ∧ ∃ before, Session.SameWork { files, host } before ∧
            run files host arguments =
              .ofResult ((rest (map.withView
                (request.change (Preferences.loadView content).value))).run.run before)) ∨
          ∃ fault after, map.Unknown request fault ∧ Session.SameWork { files, host } after ∧
            run files host arguments = ⟨some (.notFound fault), after⟩) := by
  intro map
  rcases run_act_cases configured read with
    ⟨fault, after, untold, same, run_eq⟩ | ⟨before, started, same, run_eq⟩
  · cases fault
    rw [run_eq]
    exact .inl ⟨Preferences.canTell_eq_false_of_error untold, rfl, same.files, same.output⟩
  have held_before : HoldsDocument before.files file document := by
    rw [same.files]
    exact held
  obtain ⟨between, same_map, map_eq⟩ := (readMap_finds held_before).run_bind
    fun map => applyRequest map request >>= rest
  rw [views.perform_eq, readViewed, bind_assoc, map_eq] at run_eq
  rw [← same_map.level] at started
  have same_between := same.trans same_map.toSameWork
  have configured_between := same_between.holdsSettings configured
  by_cases tells : between.Tells (Preferences.loadView content).complaints
  · have applied := applyRequest_run configured_between tells map request
    have same_after := same_between.trans
      (Session.OnlyLogged.of_complain between (Preferences.loadView content).complaints).toSameWork
    refine .inr ⟨(tells_iff_canTell started).1 tells, ?_⟩
    rcases map.request_cases (Preferences.loadView content).value request with
      ⟨known, granted⟩ | ⟨fault, unknown, refused⟩
    · rw [granted] at applied
      exact .inl ⟨known, _, same_after, by rw [run_eq, run_bind_of_ok applied]⟩
    · rw [refused] at applied
      exact .inr ⟨fault, _, unknown, same_after, by rw [run_eq, run_bind_of_error applied]; rfl⟩
  · have stopped : (applyRequest map request).run.run between =
        (.error (.unwritable .tooLong), _) :=
      run_bind_of_error (loadView_run_of_not_tells configured_between tells) _
    rw [run_bind_of_error stopped] at run_eq
    rw [run_eq]
    exact .inl ⟨Bool.eq_false_iff.2 fun told => tells ((tells_iff_canTell started).2 told), rfl,
      same_between.files, same_between.output⟩

end Runs

end CommandLine
end ConceptMap
