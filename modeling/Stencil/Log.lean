/-! What is reported while work is done. -/

namespace Stencil

/-- A report. -/
inductive Record where
  | info (text : String)
  | warn (text : String)
deriving DecidableEq, Repr

end Stencil
