import Stencil.Files.Disk
import Stencil.Log

/-! Work that reads and writes a tree of files and reports what it does. What has been written and
reported before a failure stays. -/

namespace Stencil

/-- The files and the reports so far. -/
structure World where
  disk : Disk
  log : List Record := []

/-- Work in a world, which may fail. -/
abbrev Run := EStateM Error World

namespace Run

variable {α : Type}

/-- Takes a result that has been found. -/
def ofExcept : Except Error α → Run α
  | .ok a => pure a
  | .error e => throw e

/-- Looks at the files. -/
def look (f : Disk → Except Error α) : Run α := do ofExcept (f (← get).disk)

/-- Changes the files. -/
def change (f : Disk → Except IoError Disk) : Run Unit := do
  let w ← get
  match f w.disk with
  | .ok disk => set { w with disk }
  | .error cause => throw (.io cause)

/-- Adds reports. -/
def report (records : List Record) : Run Unit := modify fun w => { w with log := w.log ++ records }

end Run

end Stencil
