import Stencil.Build.Generate

/-! The command line: `build` and `check` for a manifest, with options before or behind the command.

An option behind the command counts over the same one before it; in one place it may stand only
once. -/

namespace Stencil.CommandLine

/-- What is done with a manifest. -/
inductive Command where
  | build
  | check
deriving DecidableEq, Repr

/-- The command of a name. -/
def Command.ofName? : String → Option Command
  | "build" => some .build
  | "check" => some .check
  | _ => none

/-- The options that are given. -/
structure Options where
  config : Option String := none
  targetsDir : Option String := none
  workingDir : Option String := none
  concurrency : Option Nat := none
deriving DecidableEq, Repr

/-- What the arguments ask for. -/
inductive Request where
  | run (command : Command) (manifest : Path) (options : Options)
  | version
deriving DecidableEq, Repr

/-- Options, with those behind the command over those before it. -/
def Options.orElse (behind before : Options) : Options :=
  { config := behind.config.or before.config
    targetsDir := behind.targetsDir.or before.targetsDir
    workingDir := behind.workingDir.or before.workingDir
    concurrency := behind.concurrency.or before.concurrency }

/-- The names of the options that have a value. -/
def valueNames : List String := ["config", "targets-dir", "working-dir", "concurrency"]

/-- Gives an option a value. It must not have one yet, and a path must not be empty. -/
def Options.set? (o : Options) (name value : String) : Option Options :=
  match name with
  | "config" =>
    if o.config.isSome || value.isEmpty then none else some { o with config := value }
  | "targets-dir" =>
    if o.targetsDir.isSome || value.isEmpty then none else some { o with targetsDir := value }
  | "working-dir" =>
    if o.workingDir.isSome || value.isEmpty then none else some { o with workingDir := value }
  | "concurrency" =>
    if o.concurrency.isSome then none
    else (Value.index? value.toList).map fun n => { o with concurrency := n }
  | _ => none

/-- How one argument counts. -/
inductive Argument where
  /-- An option with its value. -/
  | assign (name value : String)
  /-- An option whose value is the next argument. -/
  | open (name : String)
  | verbose
  | version
  /-- All arguments behind it are plain. -/
  | divider
  | plain (text : String)
  | unknown
deriving DecidableEq, Repr

/-- How a group of letters behind a dash counts. -/
def shortOptions : List Char → Argument
  | ['v'] => .verbose
  | 'v' :: rest => shortOptions rest
  | 'V' :: _ => .version
  | _ => .unknown

/-- How an argument counts. -/
def Argument.of (text : String) : Argument :=
  match text.toList with
  | ['-', '-'] => .divider
  | '-' :: '-' :: cs =>
    let name := String.ofList (cs.takeWhile (· != '='))
    match cs.dropWhile (· != '=') with
    | _ :: value => if name ∈ valueNames then .assign name (.ofList value) else .unknown
    | [] =>
      if name ∈ valueNames then .open name
      else if name = "verbose" then .verbose
      else if name = "version" then .version
      else .unknown
  | '-' :: c :: cs => shortOptions (c :: cs)
  | _ => .plain text

/-- The text of an argument that is plain. -/
def plain? (text : String) : Option String :=
  match Argument.of text with
  | .plain text => some text
  | _ => none

/-- The arguments behind a command: one manifest among options. -/
def readManifest (o : Options) (manifest : Option String) : List String → Option (String × Options)
  | [] => do return (← manifest, o)
  | arg :: rest =>
    match Argument.of arg with
    | .assign name value => do readManifest (← o.set? name value) manifest rest
    | .open name =>
      match rest with
      | value :: rest => do readManifest (← o.set? name (← plain? value)) manifest rest
      | [] => none
    | .verbose => readManifest o manifest rest
    | .plain text =>
      if manifest.isSome || text.isEmpty then none else readManifest o (some text) rest
    | .divider =>
      match manifest.toList ++ rest with
      | [text] => if text.isEmpty then none else some (text, o)
      | _ => none
    | .version | .unknown => none

/-- What the arguments ask for; none if they are not understood. -/
def read? (o : Options) : List String → Option Request
  | [] => none
  | arg :: rest =>
    match Argument.of arg with
    | .assign name value => do read? (← o.set? name value) rest
    | .open name =>
      match rest with
      | value :: rest => do read? (← o.set? name (← plain? value)) rest
      | [] => none
    | .verbose => read? o rest
    | .version => some .version
    | .plain text => do
      let command ← Command.ofName? text
      let (manifest, behind) ← readManifest {} none rest
      return .run command ⟨manifest⟩ (behind.orElse o)
    | .divider | .unknown => none

/-- What a run of the command line leaves behind. -/
structure Outcome where
  exitCode : Nat
  stdout : String := ""
  stderr : String := ""
  world : World

/-- The settings that options ask for: those of a file, with the options over them. -/
def Options.settings (o : Options) (d : Disk) : Except Error Config := do
  let base ← match o.config with
    | some path => Config.load d ⟨path⟩
    | none => pure {}
  return { base with
    targetsDir := o.targetsDir.or base.targetsDir
    workingDir := o.workingDir.or base.workingDir
    concurrency := o.concurrency.getD base.concurrency }

/-- A text behind a mark; its further lines are indented. -/
def indented (mark indent text : String) : String :=
  mark ++ ("\n" ++ indent).intercalate ((text.toList.splitOn '\n').map String.ofList)

/-- The report of a failure: what failed, the cause, and what is behind the cause. -/
def failureText (summary : String) (e : Error) : String :=
  let causes := match e.source with
    | none => indented "    " "    " e.message
    | some source =>
      indented "    0: " "       " e.message ++ "\n" ++ indented "    1: " "       " source
  "Error: " ++ summary ++ "\n\nCaused by:\n" ++ causes ++ "\n"

/-- One line on what a build has done. -/
def buildLine (r : BuildReport) : String :=
  "✅ " ++ toString r.files.length ++ " files for [" ++ ", ".intercalate r.targets ++ "] in: " ++
    r.output.text ++ "\n"

/-- One line on what a build has loaded. -/
def checkLine (p : Prepared) : String :=
  "✅ " ++ toString p.definitions.length ++ " definitions, " ++ toString p.augmentations ++
    " augmentations for [" ++ ", ".intercalate (p.targets.map (·.name)) ++ "] -> " ++
    p.output.text ++ "\n"

/-- The lines of work that succeeds, or the report of its failure. -/
def finish {α : Type} (summary : String) (line : α → String) (work : Run (List α)) (w : World) :
    Outcome :=
  match work.run w with
  | .ok results w => { exitCode := 0, stdout := String.join (results.map line), world := w }
  | .error e w => { exitCode := 1, stderr := failureText summary e, world := w }

/-- Text for arguments that are not understood. -/
def usage : String := "Usage: symvasi [OPTIONS] <build|check> <MANIFEST>\n"

/-- Runs the command line. -/
def run (args : List String) (env : Environment) (w : World) : Outcome :=
  match read? {} args with
  | none => { exitCode := 2, stderr := usage, world := w }
  | some .version => { exitCode := 0, stdout := "symvasi 0.1.0\n", world := w }
  | some (.run command manifest options) =>
    match options.settings w.disk with
    | .error e =>
      let summary := "Failed to load config " ++ options.config.getD ""
      { exitCode := 1, stderr := failureText summary e, world := w }
    | .ok config =>
      match command with
      | .build =>
        finish ("Build of " ++ manifest.text ++ " failed") buildLine (generate config env manifest) w
      | .check =>
        finish ("Check of " ++ manifest.text ++ " failed") checkLine (check config env manifest) w

end Stencil.CommandLine
