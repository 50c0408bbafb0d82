/-! What can go wrong, by cause, and the wording of each cause.

Of a text or a value that is not in the form asked for, and of sources that do not fit together, no
more than that is known: what the readers of these forms say about it is left out. So are refusals
that do not come from the tree of files itself, as for a file that may not be read or for a device
that is full. -/

namespace Stencil

/-- Why an access to the file tree failed. -/
inductive IoError where
  | notFound
  | notADirectory
  | isADirectory
  | alreadyExists
  | nameTooLong
  /-- A path holds the character that ends paths. -/
  | nameWithNul
  /-- The bytes of a file are not text. -/
  | notText
  /-- The directory named for targets does not exist. -/
  | targetsDirMissing (dir : String)
  /-- No directory for targets exists at any place where one is looked for. -/
  | noTargetsDir
deriving DecidableEq, Repr

/-- Why a pattern of file names is malformed. -/
inductive PatternFault where
  | wildcardRun
  | partialRecursion
  | badRange
deriving DecidableEq, Repr

/-- Why templates do not fit together. -/
inductive LibraryFault where
  /-- The text of a template cannot be read. -/
  | unreadable
  | missingParent (template parent : String)
  /-- The parents of a template, here from the nearest one on, lead back to it. -/
  | endlessParents (template : String) (parents : List String)
  | missingImport (template imported : String)
deriving DecidableEq, Repr

/-- Why a target cannot be compiled or rendered. -/
inductive TemplateFault where
  | sharedName (target name : String)
  | unreadable (path : String) (cause : IoError)
  | invalidPath (path output target : String) (cause : LibraryFault)
  | renderFailed (template target : String)
  | pathFailed (path output : String)
  | emptyPath (path output : String)
deriving DecidableEq, Repr

/-- Why settings cannot be loaded. -/
inductive ConfigFault where
  | unreadableManifest (path : String) (cause : IoError)
  | noParams (dir : String)
deriving DecidableEq, Repr

/-- The ways in which an operation can fail. -/
inductive Error where
  | io (cause : IoError)
  /-- A text is not the YAML form of what is read. -/
  | yaml
  /-- A value is not the form of what is read. -/
  | json
  /-- A text is not the TOML form of what is read. -/
  | toml
  /-- The sources of a target's templates do not fit together. -/
  | engine
  | pattern (position : Nat) (fault : PatternFault)
  /-- A directory cannot be read in which a pattern looks for names. -/
  | glob (path : String) (cause : IoError)
  | config (fault : ConfigFault)
  | template (fault : TemplateFault)
  | unsupportedType (raw : String)
  | contractNotDefined (contract model : String)
  | modelNotDefined (name : String)
  | enumNotDefined (name : String)
  | propertyTypeConflict (model property existing incoming : String)
  | targetNotDefined (name : String)
  | templateNotDefined (template target : String)
  | contextNotFound (path definition : String)
deriving DecidableEq, Repr

namespace IoError

/-- The wording of a failed access. -/
def message : IoError → String
  | .notFound => "No such file or directory (os error 2)"
  | .notADirectory => "Not a directory (os error 20)"
  | .isADirectory => "Is a directory (os error 21)"
  | .alreadyExists => "File exists (os error 17)"
  | .nameTooLong => "File name too long (os error 36)"
  | .nameWithNul => "file name contained an unexpected NUL byte"
  | .notText => "stream did not contain valid UTF-8"
  | .targetsDirMissing dir => "Targets directory not found: " ++ dir
  | .noTargetsDir => "Could not find targets directory in any standard location"

end IoError

namespace PatternFault

/-- The wording of a malformed pattern. -/
def message : PatternFault → String
  | .wildcardRun => "wildcards are either regular `*` or recursive `**`"
  | .partialRecursion => "recursive wildcards must form a single path component"
  | .badRange => "invalid range pattern"

end PatternFault

namespace LibraryFault

/-- The wording of templates that do not fit together. -/
def message : LibraryFault → String
  | .unreadable => "Failed to parse template"
  | .missingParent template parent =>
    "Template '" ++ template ++ "' is inheriting from '" ++ parent ++
      "', which doesn't exist or isn't loaded."
  | .endlessParents template parents =>
    "Circular extend detected for template '" ++ template ++ "'. Inheritance chain: `[" ++
      ", ".intercalate (parents.map fun p => "\"" ++ p ++ "\"") ++ "]`"
  | .missingImport template imported =>
    "Template `" ++ template ++ "` loads macros from `" ++ imported ++
      "` which isn't present in Tera"

end LibraryFault

namespace TemplateFault

/-- The wording of a fault of a target. -/
def message : TemplateFault → String
  | .sharedName target name =>
    "Target \"" ++ target ++ "\" declares \"" ++ name ++
      "\" as both a partial and an output template"
  | .unreadable path cause => "Failed to read template " ++ path ++ ": " ++ cause.message
  | .invalidPath path output target cause =>
    "Invalid path template \"" ++ path ++ "\" of output \"" ++ output ++ "\" in target \"" ++
      target ++ "\"" ++ (if cause = .unreadable then "" else ": " ++ cause.message)
  | .renderFailed template target =>
    "Failed to render template '" ++ template ++ "' of target '" ++ target ++ "'"
  | .pathFailed path output => "Failed to render path '" ++ path ++ "' of output '" ++ output ++ "'"
  | .emptyPath path output =>
    "Path template '" ++ path ++ "' of output '" ++ output ++ "' rendered an empty path"

end TemplateFault

namespace ConfigFault

/-- The wording of a fault of the settings. -/
def message : ConfigFault → String
  | .unreadableManifest path cause =>
    "Failed to read build manifest " ++ path ++ ": " ++ cause.message
  | .noParams dir => "No params file found in target directory " ++ dir

end ConfigFault

namespace Error

/-- The wording of an error. -/
def message : Error → String
  | .io cause => "I/O error: " ++ cause.message
  | .yaml => "YAML parsing error"
  | .json => "JSON error"
  | .toml => "TOML parsing error"
  | .engine => "Template engine error"
  | .pattern position fault =>
    "Invalid glob pattern: Pattern syntax error near position " ++ toString position ++ ": " ++
      fault.message
  | .glob path cause =>
    "Glob error: attempting to read `" ++ path ++ "` resulted in an error: " ++ cause.message
  | .config fault => "Configuration error: " ++ fault.message
  | .template fault => "Template error: " ++ fault.message
  | .unsupportedType raw => "Type \"" ++ raw ++ "\" is not supported"
  | .contractNotDefined contract model =>
    "Contract \"" ++ contract ++ "\" not defined (referenced by model \"" ++ model ++ "\")"
  | .modelNotDefined name => "Model \"" ++ name ++ "\" not defined"
  | .enumNotDefined name => "Enum \"" ++ name ++ "\" not defined"
  | .propertyTypeConflict model property existing incoming =>
    "Conflicting data types for contract property \"" ++ property ++ "\" on model \"" ++ model ++
      "\": \"" ++ existing ++ "\" vs \"" ++ incoming ++ "\""
  | .targetNotDefined name => "Target \"" ++ name ++ "\" not defined"
  | .templateNotDefined name target =>
    "Template \"" ++ name ++ "\" not defined for target \"" ++ target ++ "\""
  | .contextNotFound path definition =>
    "Context path \"" ++ path ++ "\" resolves to nothing in definition \"" ++ definition ++ "\""

/-- The cause below an error that only wraps another one. -/
def source : Error → Option String
  | .io cause => some cause.message
  | .pattern position fault =>
    some ("Pattern syntax error near position " ++ toString position ++ ": " ++ fault.message)
  | .glob path cause =>
    some ("attempting to read `" ++ path ++ "` resulted in an error: " ++ cause.message)
  | _ => none

end Error

end Stencil
