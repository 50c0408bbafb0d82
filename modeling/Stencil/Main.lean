import Stencil.CommandLine

/-! The program: takes up the files that it may need, runs the command line on them and writes the
files that have changed. -/

namespace Stencil.Program

/-- Takes up a file or a directory with what is below it, at most `depth` levels deep. What cannot
be read is left out. -/
def snapshot : Nat → String → IO (Option Entry)
  | 0, _ => return none
  | depth + 1, path => do
    try
      let place ← IO.FS.realPath path
      if ← place.isDir then
        let mut entries := []
        for e in ← place.readDir do
          if let some below ← snapshot depth (path ++ "/" ++ e.fileName) then
            entries := Entry.insert entries e.fileName below
        return some (.dir entries)
      else return some (.file (← IO.FS.readBinFile path))
    catch _ => return none

/-- The location that a path names. -/
def locationOf (here : List String) (p : Path) : List String :=
  p.segments.foldl
    (fun location s =>
      if s = "." then location else if s = ".." then location.dropLast else location ++ [s])
    (if p.isAbsolute then [] else here)

/-- Files that have been taken up, and the locations of the directories that they are from. -/
structure Taken where
  disk : Disk
  roots : List (List String) := []

/-- The text of the path of a location. -/
def textOf (location : List String) : String := "/" ++ "/".intercalate location

/-- Adds the directory at a location. -/
def Taken.addDir (t : Taken) (location : List String) : IO Taken := do
  if location.isEmpty || t.roots.any (·.isPrefixOf location) then return t
  match ← snapshot 64 (textOf location) with
  | some e =>
    return { disk := { t.disk with root := t.disk.root.put location e }
             roots := location :: t.roots }
  | none => return t

/-- Adds the directory at a path, or the one that a file at the path stands in. -/
def Taken.add (t : Taken) (p : Path) : IO Taken := do
  let location := locationOf t.disk.here p
  match ← snapshot 1 (textOf location) with
  | some (.dir _) => t.addDir location
  | some (.file _) => t.addDir location.dropLast
  | none => return t

/-- The path that an argument may give: the argument, or what follows an equals sign. -/
def pathOf (arg : String) : Path :=
  match arg.toList.dropWhile (· != '=') with
  | _ :: value => ⟨.ofList value⟩
  | [] => ⟨arg⟩

/-- Paths that the settings name. -/
def settingsPaths (args : List String) (d : Disk) : List Path :=
  match CommandLine.read? {} args with
  | some (.run _ _ options) =>
    match options.settings d with
    | .ok config => (config.targetsDir.toList ++ config.workingDir.toList).map Path.mk
    | .error _ => []
  | _ => []

/-- Writes the files that have changed. -/
def writeChanges (before after : Disk) : IO Unit := do
  for (location, bytes) in after.root.files do
    let isSame := match before.root.at? location with
      | some (.file old) => old == bytes
      | _ => false
    if !isSame then
      IO.FS.createDirAll (textOf location.dropLast)
      IO.FS.writeBinFile (textOf location) bytes

/-- Runs the command line on the files of the machine. -/
def run (args : List String) : IO UInt32 := do
  let env : Environment :=
    { targetsDir := ← IO.getEnv "SYMVASI_TARGETS_DIR", home := ← IO.getEnv "HOME" }
  let here : Path := ⟨toString (← IO.FS.realPath ".")⟩
  let targets := env.home.toList.map fun home => (Path.mk home).join ⟨".symvasi/targets"⟩
  let places := [here] ++ targets ++ env.targetsDir.toList.map Path.mk ++ args.map pathOf
  let start : Taken := { disk := { root := .dir [], here := here.segments } }
  let taken ← places.foldlM Taken.add start
  let taken ← (settingsPaths args taken.disk).foldlM Taken.add taken
  let outcome := CommandLine.run args env { disk := taken.disk }
  writeChanges taken.disk outcome.world.disk
  IO.print outcome.stdout
  IO.eprint outcome.stderr
  return outcome.exitCode.toUInt32

end Stencil.Program

/-- Runs the program. -/
def main (args : List String) : IO UInt32 := Stencil.Program.run args
