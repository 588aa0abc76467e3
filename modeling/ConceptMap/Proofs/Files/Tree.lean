import ConceptMap.Files.Tree
import Mathlib.Data.List.Basic

/-!
# What writing a file changes

Writing puts a file at the place that a path leads to, and nothing stands anywhere else than before.
So the path leads to the file afterwards, and every other path leads to where it did, unless it
leads to the file, or through it as if it were a directory.
-/

namespace ConceptMap
namespace FileTree

variable {before after tree : FileTree} {path place : Path} {bytes : List UInt8}

/-- A file was written at a place where no directory stood. -/
structure Wrote (before after : FileTree) (place : Path) (bytes : List UInt8) : Prop where
  free : before.entry? place ≠ some .directory
  written : after.entry? place = some (.file bytes)
  kept : ∀ other, other ≠ place → after.entry? other = before.entry? other

section Lookup

variable {entries : List (Path × FileEntry)} {other : Path} (entry : FileEntry)

/-- The entry at a place is replaced, every time that it is there. -/
def replace (entries : List (Path × FileEntry)) (place : Path) (entry : FileEntry) :
    List (Path × FileEntry) :=
  entries.map fun other => if other.1 = place then (place, entry) else other

theorem lookup_replace_of_ne (differs : other ≠ place) :
    (replace entries place entry).lookup other = entries.lookup other := by
  induction entries with
  | nil => rfl
  | cons first rest ih =>
      obtain ⟨spot, old⟩ := first
      rw [replace, List.map_cons, ← replace]
      by_cases here : spot = place
      · have passed : (other == spot) = false := by simpa [here] using differs
        have passed_too : (other == place) = false := by simpa using differs
        rw [if_pos here, List.lookup_cons, List.lookup_cons, passed, passed_too, ih]
      · rw [if_neg here, List.lookup_cons, List.lookup_cons, ih]

theorem lookup_replace (taken : entries.any fun other => other.1 = place) :
    (replace entries place entry).lookup place = some entry := by
  induction entries with
  | nil => simp at taken
  | cons first rest ih =>
      obtain ⟨spot, old⟩ := first
      rw [replace, List.map_cons, ← replace]
      by_cases here : spot = place
      · rw [if_pos here, List.lookup_cons_self]
      · have passed : (place == spot) = false := by simpa using Ne.symm here
        rw [List.any_cons, Bool.or_eq_true] at taken
        have later := taken.resolve_left (by simpa using here)
        rw [if_neg here, List.lookup_cons, passed]
        exact ih later

theorem lookup_concat_of_ne (differs : other ≠ place) :
    (entries ++ [(place, entry)]).lookup other = entries.lookup other := by
  have passed : (other == place) = false := by simpa using differs
  rw [List.lookup_append, List.lookup_cons, passed, List.lookup_nil, Option.or_none]

theorem lookup_concat (fresh : ¬entries.any fun other => other.1 = place) :
    (entries ++ [(place, entry)]).lookup place = some entry := by
  have absent : entries.lookup place = none := by
    rw [List.lookup_eq_none_iff]
    intro found inside
    by_contra same
    simp only [bne_iff_ne, ne_eq, not_not] at same
    exact fresh (List.any_eq_true.2 ⟨found, inside, by simpa using same.symm⟩)
  rw [List.lookup_append, absent, List.lookup_cons_self, Option.none_or]

end Lookup

theorem lookup_put (tree : FileTree) (place other : Path) (entry : FileEntry) :
    (tree.put place entry).entries.lookup other =
      if other = place then some entry else tree.entries.lookup other := by
  rw [put]
  split
  next taken =>
    split
    next same =>
      subst same
      exact lookup_replace entry taken
    next differs => exact lookup_replace_of_ne entry differs
  next fresh =>
    split
    next same =>
      subst same
      exact lookup_concat entry fresh
    next differs => exact lookup_concat_of_ne entry differs

/-- A place that is no start holds what was put there. -/
theorem entry?_put (place other : Path) (entry : FileEntry) (inner : place.isStart = false) :
    FileTree.entry? (tree.put place entry) other =
      if other = place then some entry else tree.entry? other := by
  unfold entry?
  rw [lookup_put]
  by_cases same : other = place
  · subst same
    simp [inner]
  · simp [same]

theorem exists_wrote (located : tree.locate path = .ok place)
    (free : tree.entry? place ≠ some .directory) (bytes : List UInt8) :
    ∃ after, tree.write path bytes = .ok after ∧ tree.Wrote after place bytes := by
  have inner : place.isStart = false := by
    by_contra start
    rw [Bool.not_eq_false] at start
    exact free (if_pos start)
  refine ⟨tree.put place (.file bytes), ?_, free, ?_, ?_⟩
  · rw [write, located]
    -- the match falls through to its second case, as no directory stands there
    simp only [bind, Except.bind]
    rfl
  · rw [entry?_put place place _ inner, if_pos rfl]
  · intro other differs
    rw [entry?_put place other _ inner, if_neg differs]

/-- A file that could be written is at the place that its path leads to. -/
theorem exists_wrote_of_write (write : tree.write path bytes = .ok after) :
    ∃ place, tree.locate path = .ok place ∧ tree.Wrote after place bytes := by
  cases located : tree.locate path with
  | error fault =>
      rw [FileTree.write, located] at write
      cases write
  | ok place =>
      have free : tree.entry? place ≠ some .directory := by
        intro occupied
        rw [FileTree.write, located] at write
        simp only [bind, Except.bind, occupied] at write
        cases write
      obtain ⟨other, write_too, wrote⟩ := exists_wrote located free bytes
      obtain rfl := Except.ok.inj (write.symm.trans write_too)
      exact ⟨place, rfl, wrote⟩

/-! ## Following a path -/

theorem follow_concat (tree : FileTree) (place : Path) (front : List Text) (last : Text) :
    tree.follow place (front ++ [last]) =
      tree.follow place front >>= fun inner => tree.follow inner [last] := by
  induction front generalizing place with
  | nil => rfl
  | cons name rest ih =>
      rw [List.cons_append, follow, follow]
      split
      next => rfl
      next => rfl
      next =>
        split
        next => rfl
        next => exact ih _

theorem find_eq_ok_iff {entry : FileEntry} :
    tree.find path = .ok entry ↔
      ∃ place, tree.locate path = .ok place ∧ tree.entry? place = some entry := by
  rw [find]
  cases tree.locate path with
  | error fault => simp [bind, Except.bind]
  | ok place =>
      cases here : tree.entry? place with
      | none => simp [bind, Except.bind, here, throw, throwThe, MonadExceptOf.throw]
      | some other => simp [bind, Except.bind, here, pure, Except.pure]

/-- Where the directory of a path is there and the path leads to no directory, a file can be
written, unless the name is too long. -/
theorem locate_cases (parent : tree.find path.parent = .ok .directory)
    (free : tree.find path ≠ .ok .directory) :
    tree.locate path = .error .tooLong ∨
      ∃ place, tree.locate path = .ok place ∧ tree.entry? place ≠ some .directory := by
  obtain ⟨directory, located, here⟩ := find_eq_ok_iff.1 parent
  by_cases long : longestPath < (Utf8.encode path.render).length
  · left
    rw [locate, if_pos long]
  rw [locate] at located
  split at located
  next => simp at located
  next =>
    obtain ⟨root, names⟩ := path
    rcases List.eq_nil_or_concat names with rfl | ⟨front, last, rfl⟩
    · exact absurd parent free
    · rw [List.concat_eq_append] at long free located ⊢
      have way : tree.follow { root } front = .ok directory := by
        simpa [Path.parent] using located
      have locate_eq : tree.locate ⟨root, front ++ [last]⟩ = tree.follow directory [last] := by
        rw [locate, if_neg long, follow_concat, way]
        rfl
      rw [locate_eq, follow, here]
      simp only
      split
      next => exact .inl rfl
      next short =>
        refine .inr ⟨directory.enter last, rfl, fun occupied => free ?_⟩
        refine find_eq_ok_iff.2 ⟨directory.enter last, ?_, occupied⟩
        rw [locate_eq, follow, here]
        simp only
        rw [if_neg short, follow]

/-- A way through directories that are still there leads to the same place. -/
theorem follow_of_directories {names : List Text} {target : Path}
    (still : ∀ inner, before.entry? inner = some .directory → after.entry? inner = some .directory)
    (way : before.follow place names = .ok target) : after.follow place names = .ok target := by
  induction names generalizing place with
  | nil => exact way
  | cons name rest ih =>
      rw [follow] at way ⊢
      split at way
      next => simp at way
      next => simp at way
      next here =>
        rw [still place here]
        simp only
        split at way
        next => simp at way
        next short =>
          rw [if_neg short]
          exact ih way

theorem Wrote.directory (wrote : before.Wrote after place bytes) {inner : Path}
    (here : before.entry? inner = some .directory) : after.entry? inner = some .directory := by
  have other : inner ≠ place := by
    rintro rfl
    exact wrote.free here
  rw [wrote.kept inner other, here]

/-- The path of a file that was written leads to the file. -/
theorem Wrote.find (wrote : before.Wrote after place bytes)
    (located : before.locate path = .ok place) : after.find path = .ok (.file bytes) := by
  refine find_eq_ok_iff.2 ⟨place, ?_, wrote.written⟩
  rw [locate] at located ⊢
  split at located
  next => simp at located
  next short =>
    rw [if_neg short]
    exact follow_of_directories (fun _ => wrote.directory) located

/-- A way leads to where it did, unless a file now stands on it where there was nothing. -/
theorem Wrote.follow_cases (wrote : before.Wrote after place bytes) (start : Path)
    (names : List Text) :
    after.follow start names = before.follow start names ∨
      before.follow start names = .error .missing ∧
        after.follow start names = .error .notDirectory := by
  induction names generalizing start with
  | nil => exact .inl rfl
  | cons name rest ih =>
      rw [follow, follow]
      by_cases here : start = place
      · subst here
        rw [wrote.written]
        cases stood : before.entry? start with
        | none => exact .inr ⟨rfl, rfl⟩
        | some entry =>
            cases entry with
            | file => exact .inl rfl
            | directory => exact absurd stood wrote.free
      · rw [wrote.kept start here]
        split
        next => exact .inl rfl
        next => exact .inl rfl
        next =>
          split
          next => exact .inl rfl
          next => exact ih _

/-- A path leads to what it did, or to the file that was written, or it ends at that file, where
there was nothing. -/
theorem Wrote.find_cases (wrote : before.Wrote after place bytes) (path : Path) :
    after.find path = before.find path ∨ after.find path = .ok (.file bytes) ∨
      before.find path = .error .missing ∧ after.find path = .error .notDirectory := by
  have locate_cases : after.locate path = before.locate path ∨
      before.locate path = .error .missing ∧ after.locate path = .error .notDirectory := by
    rw [locate, locate]
    split
    next => exact .inl rfl
    next => exact wrote.follow_cases _ _
  rcases locate_cases with same | ⟨missing, blocked⟩
  · rw [FileTree.find, FileTree.find, same]
    cases before.locate path with
    | error fault => exact .inl rfl
    | ok other =>
        by_cases here : other = place
        · subst here
          right
          left
          simp [bind, Except.bind, wrote.written, pure, Except.pure]
        · left
          simp only [bind, Except.bind, wrote.kept other here]
  · right
    right
    rw [FileTree.find, FileTree.find, missing, blocked]
    exact ⟨rfl, rfl⟩

end FileTree
end ConceptMap
