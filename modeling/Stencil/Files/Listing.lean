import Stencil.Files.Disk

/-! Files below a directory. Entries whose names start with a dot are passed over. -/

namespace Stencil

/-- Whether a name is passed over in listings. -/
def isHidden (name : String) : Bool := name.toList.head? == some '.'

mutual

/-- The files of an entry reached as `path`; of a directory only if `deep` is set. A directory is
not seen to be one under a path that the system does not take, and counts as a file then. -/
def walkEntry (deep : Bool) (path : Path) : Entry → List Path
  | .file _ => [path]
  | .dir entries =>
    match Disk.checkPath path with
    | .ok () => if deep then walkEntries deep path entries else []
    | .error _ => [path]

/-- The files among the entries of the directory reached as `dir`. -/
def walkEntries (deep : Bool) (dir : Path) : List (String × Entry) → List Path
  | [] => []
  | (name, e) :: rest =>
    if isHidden name then walkEntries deep dir rest
    else walkEntry deep (dir.join ⟨name⟩) e ++ walkEntries deep dir rest

end

/-- The files below a directory in order of their paths, or only those directly in it. There are
none if there is no directory. -/
def listFiles (d : Disk) (dir : Path) (deep : Bool) : List Path :=
  (walkEntries deep dir (d.entriesAt dir)).mergeSort Path.le

end Stencil
