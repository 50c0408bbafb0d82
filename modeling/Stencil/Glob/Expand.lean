import Stencil.Files.Disk
import Stencil.Glob.Basic

/-! Files that a pattern of paths stands for.

A pattern is followed component by component from the working directory, or from the root. A
component without wildcards is looked up as it is; for others the directory is read. A directory
whose path the system does not take cannot be read, and then the whole pattern fails, whatever else
it stands for. -/

namespace Stencil.Glob

/-- A component of a pattern of paths. -/
inductive Component where
  | literal (name : String)
  | wildcard (tokens : List Token)
  | anyDirs
deriving DecidableEq, Repr

/-- The text that a pattern without wildcards stands for. -/
def literal? (ts : List Token) : Option (List Char) :=
  ts.mapM fun
    | .char c => some c
    | _ => none

/-- The component that a pattern forms. -/
def Component.ofTokens (ts : List Token) : Component :=
  if ts = [.anyDirs] then .anyDirs
  else match literal? ts with
    | some cs => .literal (.ofList cs)
    | none => .wildcard ts

/-- Whether a component stands for a name. -/
def Component.isMatch : Component → String → Bool
  | .literal s, name => s == name
  | .wildcard ts, name => Glob.isMatch ts name.toList
  | .anyDirs, _ => true

/-- Drops a component for any directories in front of another one. -/
def collapse : List Component → List Component
  | .anyDirs :: .anyDirs :: rest => collapse (.anyDirs :: rest)
  | c :: rest => c :: collapse rest
  | [] => []

/-- The pieces of a pattern between slashes; a slash at its end starts no piece. -/
def pieces (cs : List Char) : List (List Char) :=
  let ps := cs.splitOn '/'
  if ps.length > 1 && ps.getLast? == some [] then ps.dropLast else ps

/-- The path of a name below a path. Below the working directory it is the name alone. -/
def below (path : Path) (name : String) : Path :=
  if path.components = [.here] then ⟨name⟩ else path.join ⟨name⟩

/-- The special names that a pattern with a dot in front may stand for, in the order in which they
are followed. -/
def specials (ts : List Token) : List String :=
  if ts.head? = some (.char '.') then ["..", "."].filter fun s => isMatch ts s.toList else []

/-- What a walk comes to, in turn: paths, and directories that it fails to read. -/
abbrev Trace := List (Except Error Path)

/-- What a directory gives when it is read: what it has inside, if the system takes its path. -/
def reading (path : Path) (inside : Trace) : Trace :=
  match Disk.checkPath path with
  | .ok _ => inside
  | .error cause => [.error (.glob path.text cause)]

mutual

/-- What the entries below an entry give, however deep, where `visit` says what one of them gives at
its path and name. A directory is visited before what is inside. -/
def descend (visit : Path → String → Entry → Trace) (path : Path) : Entry → Trace
  | .file _ => []
  | .dir entries => reading path (descendAll visit path entries)

/-- What some entries of a directory and those below them give. -/
def descendAll (visit : Path → String → Entry → Trace) (path : Path) :
    List (String × Entry) → Trace
  | [] => []
  | (name, e) :: more =>
    visit (below path name) name e ++ descend visit (below path name) e ++
      descendAll visit path more

end

/-- What components stand for below an entry that was reached as `path`. -/
def walk (d : Disk) (needDir : Bool) : List Component → Path → Entry → Trace
  | [], path, e => if needDir && !e.isDir then [] else [.ok path]
  | .literal name :: rest, path, _ =>
    match d.entry (below path name) with
    | .ok found => walk d needDir rest (below path name) found
    | .error _ => []
  | .wildcard ts :: rest, path, .dir entries =>
    reading path <|
      ((specials ts).flatMap fun name =>
        match d.entry (path.join ⟨name⟩) with
        | .ok found => walk d needDir rest (path.join ⟨name⟩) found
        | .error _ => []) ++
      entries.flatMap fun (name, found) =>
        if isMatch ts name.toList then walk d needDir rest (below path name) found else []
  | .wildcard _ :: _, _, .file _ => []
  | [.anyDirs], path, e =>
    descend (fun path _ found => if found.isDir then [.ok path] else []) path e
  | .anyDirs :: c :: rest, path, e =>
    descend (fun path name found => if c.isMatch name then walk d needDir rest path found else [])
      path e

/-- The components of a pattern of paths. The pattern as a whole is read first. -/
def components (pattern : Path) : Except Error (List Component) := do
  let cs := pattern.text.toList
  let _ ← tokens cs
  let inner := if pattern.isAbsolute then cs.tail else cs
  let parts ← (pieces inner).mapM tokens
  return collapse (parts.map Component.ofTokens)

/-- The paths that a pattern of paths stands for. The first directory that cannot be read ends the
walk. -/
def expand (d : Disk) (pattern : Path) : Except Error (List Path) := do
  let cs ← components pattern
  let start : Path := if pattern.isAbsolute then ⟨"/"⟩ else ⟨"."⟩
  match d.entry start with
  | .ok e => (walk d (Disk.endsInSlash pattern) cs start e).mapM id
  | .error _ => return []

/-- The files that patterns below a directory stand for, each once, in order of their paths. -/
def files (d : Disk) (dir : Path) (patterns : List String) : Except Error (List Path) := do
  let base : Path := ⟨escape dir.text⟩
  let found ← patterns.mapM fun p => expand d (base.join ⟨p⟩)
  return Path.sortDistinct (found.flatten.filter d.isFile)

end Stencil.Glob
