import ConceptMap.CommandLine.Printed

/-!
# The program

Reads the files that the arguments may refer to, runs the command line over them, and writes back
what the run has changed.
-/

namespace ConceptMap
namespace CommandLine

/-- A path as the system takes it. -/
def spelled (path : Path) : String := String.ofList path.render

/-- What lies at a place, if it can be read. -/
def entryAt (place : Path) : IO (Option FileEntry) := do
  match ← (IO.FS.readBinFile (spelled place)).toBaseIO with
  | .ok bytes => return some (.file bytes.toList)
  | .error (.inappropriateType ..) => return some .directory
  | .error _ => return none

/-- The part of the file system that lies at the given places. -/
def treeAt (places : List Path) : IO FileTree := do
  let found ← places.filterMapM fun place => do
    return (← entryAt place).map fun entry => (place, entry)
  return { entries := found }

/-- What the environment says about where settings live. -/
def environment : IO Environment := do
  let home := ((← IO.getEnv "HOME").map String.toList).getD []
  let settings := (← IO.getEnv "CARTOGRAPH_HOME").map String.toList
  return { home, settings }

/-- Writes the files of a tree that are not as they were. -/
def writeChanges (before after : FileTree) : IO Unit := do
  for (path, bytes) in after.changesSince before do
    IO.FS.createDirAll (spelled path.parent)
    IO.FS.writeBinFile (spelled path) ⟨bytes.toArray⟩

/-- The host with the settings in a directory.  A number is drawn for a run without a seed. -/
def hostAt (settings : Path) : IO Host := do
  let drawn ← IO.rand 0 0x7FFFFFFF
  let pick (seed : Option Int) (_ : Nat) : Int := seed.getD drawn
  return { settings, pick, explain := fun _ => "no TOML document" }

/-- Runs the command line over the file system, and returns the exit code. -/
def runOverFiles (settings : Path) (arguments : List Text) : IO Nat := do
  let files ← treeAt (reach settings arguments)
  let outcome := run files (← hostAt settings) arguments
  IO.print (String.ofList outcome.printed)
  IO.eprint (String.ofList outcome.reported)
  writeChanges files outcome.session.files
  return outcome.code

end CommandLine
end ConceptMap

/-- Runs the command line with the settings that the environment names. -/
def main (arguments : List String) : IO UInt32 := do
  match (← ConceptMap.CommandLine.environment).settingsDirectory with
  | .error fault =>
      IO.eprintln (String.ofList fault.message)
      return 1
  | .ok settings =>
      let code ← ConceptMap.CommandLine.runOverFiles settings (arguments.map String.toList)
      return code.toUInt32
