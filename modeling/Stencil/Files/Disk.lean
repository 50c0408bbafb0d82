import Stencil.Error
import Stencil.Files.Path

/-! A tree of files, and the ways of looking at it and writing to it.

Paths are followed from the root or from the working directory, segment by segment; each segment but
the last must be a directory. A directory keeps new entries in order of their names. A name has at
most 255 bytes and a path less than 4096. -/

namespace Stencil

/-- A file or a directory. -/
inductive Entry where
  | file (bytes : ByteArray)
  | dir (entries : List (String × Entry))

namespace Entry

/-- Whether an entry is a directory. -/
def isDir : Entry → Bool
  | .dir _ => true
  | .file _ => false

/-- Puts an entry under a name, in place of the one that is there. -/
def insert (entries : List (String × Entry)) (name : String) (e : Entry) : List (String × Entry) :=
  match entries with
  | [] => [(name, e)]
  | (n, old) :: rest =>
    if name = n then (name, e) :: rest
    else if name < n then (name, e) :: (n, old) :: rest
    else (n, old) :: insert rest name e

/-- The entry at a location: a list of names from the root down. -/
def at? : Entry → List String → Option Entry
  | e, [] => some e
  | .dir entries, name :: rest => (entries.lookup name).bind (at? · rest)
  | .file _, _ :: _ => none

/-- Puts an entry at a location; directories on the way are made. Nothing is put below a file. -/
def put (e : Entry) (location : List String) (new : Entry) : Entry :=
  match location, e with
  | [], _ => new
  | name :: rest, .dir entries =>
    .dir (insert entries name (((entries.lookup name).getD (.dir [])).put rest new))
  | _ :: _, .file bytes => .file bytes

/-- Takes away the entry at a location. -/
def erase : Entry → List String → Entry
  | .dir entries, [name] => .dir (entries.filter (·.1 ≠ name))
  | .dir entries, name :: rest =>
    match entries.lookup name with
    | some e => .dir (insert entries name (e.erase rest))
    | none => .dir entries
  | e, _ => e

mutual

/-- All files of an entry, with their locations below it. -/
def files : Entry → List (List String × ByteArray)
  | .file bytes => [([], bytes)]
  | .dir entries => filesOf entries

/-- All files of the entries of a directory. -/
def filesOf : List (String × Entry) → List (List String × ByteArray)
  | [] => []
  | (name, e) :: rest => (files e).map (fun f => (name :: f.1, f.2)) ++ filesOf rest

end

end Entry

/-- A tree of files and the location of its working directory. -/
structure Disk where
  root : Entry
  here : List String

namespace Disk

/-- Whether a name has more bytes than a name may have. -/
def isTooLong (name : String) : Bool := name.utf8ByteSize > 255

/-- Fails if no file can have a path, whatever there is. -/
def checkPath (p : Path) : Except IoError Unit :=
  if p.text.toList.contains '\x00' then .error .nameWithNul
  else if p.text.utf8ByteSize ≥ 4096 then .error .nameTooLong
  else .ok ()

/-- Follows one segment from a location. -/
def step (d : Disk) (location : List String) (segment : String) : Except IoError (List String) :=
  match d.root.at? location with
  | some (.dir entries) =>
    if segment = "." then .ok location
    else if segment = ".." then .ok location.dropLast
    else if isTooLong segment then .error .nameTooLong
    else if (entries.lookup segment).isSome then .ok (location ++ [segment])
    else .error .notFound
  | some (.file _) => .error .notADirectory
  | none => .error .notFound

/-- Where a path starts. -/
def start (d : Disk) (p : Path) : List String := if p.isAbsolute then [] else d.here

/-- Whether a path is written with a slash at its end. -/
def endsInSlash (p : Path) : Bool := p.text.toList.getLast? == some '/'

/-- The location of what stands at a path. -/
def locate (d : Disk) (p : Path) : Except IoError (List String) := do
  checkPath p
  if p.text.isEmpty then throw .notFound
  let location ← p.segments.foldlM d.step (d.start p)
  if endsInSlash p && !(d.root.at? location).any Entry.isDir then throw .notADirectory
  return location

/-- What stands at a path. -/
def entry (d : Disk) (p : Path) : Except IoError Entry := do
  match d.root.at? (← d.locate p) with
  | some e => return e
  | none => throw .notFound

/-- Whether something stands at a path. -/
def hasEntry (d : Disk) (p : Path) : Bool := (d.entry p).isOk

/-- Whether a directory stands at a path. -/
def isDir (d : Disk) (p : Path) : Bool :=
  match d.entry p with
  | .ok (.dir _) => true
  | _ => false

/-- Whether a file stands at a path. -/
def isFile (d : Disk) (p : Path) : Bool :=
  match d.entry p with
  | .ok (.file _) => true
  | _ => false

/-- Whether something stands at a path; fails if that cannot be told. -/
def tryExists (d : Disk) (p : Path) : Except IoError Bool :=
  match d.locate p with
  | .ok _ => .ok true
  | .error .notFound => .ok false
  | .error e => .error e

/-- The text of the file at a path. -/
def readText (d : Disk) (p : Path) : Except IoError String := do
  match ← d.entry p with
  | .dir _ => throw .isADirectory
  | .file bytes =>
    match String.fromUTF8? bytes with
    | some text => return text
    | none => throw .notText

/-- The entries of the directory at a path; none if there is no directory. -/
def entriesAt (d : Disk) (p : Path) : List (String × Entry) :=
  match d.entry p with
  | .ok (.dir entries) => entries
  | _ => []

/-- Follows one segment and makes a directory there if nothing is there. Nothing is made in what is
not there itself. -/
def stepMaking (s : Disk × List String) (segment : String) : Except IoError (Disk × List String) :=
  match s.1.step s.2 segment with
  | .ok location => .ok (s.1, location)
  | .error .notFound =>
    let location := s.2 ++ [segment]
    if (s.1.root.at? s.2).isNone then .error .notFound
    else .ok ({ s.1 with root := s.1.root.put location (.dir []) }, location)
  | .error e => .error e

/-- Makes the directory at a path and those above it. -/
def makeDirs (d : Disk) (p : Path) : Except IoError Disk := do
  checkPath p
  let (d, location) ← p.segments.foldlM stepMaking (d, d.start p)
  if (d.root.at? location).any Entry.isDir then return d else throw .alreadyExists

/-- Writes a text to the file at a path, whose directory must be there. -/
def writeText (d : Disk) (p : Path) (text : String) : Except IoError Disk := do
  checkPath p
  match p.segments.getLast? with
  | none => throw (if p.text.isEmpty then .notFound else .isADirectory)
  | some name =>
    let parent ← p.segments.dropLast.foldlM d.step (d.start p)
    if !(d.root.at? parent).any Entry.isDir then throw .notADirectory
    if isTooLong name then throw .nameTooLong
    let location := parent ++ [name]
    if name = "." || name = ".." || endsInSlash p || (d.root.at? location).any Entry.isDir then
      throw .isADirectory
    return { d with root := d.root.put location (.file text.toUTF8) }

end Disk

end Stencil
