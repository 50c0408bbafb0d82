import Stencil.Build.Job

/-! Running the builds of a manifest, or only loading what they need. -/

namespace Stencil

/-- What a build has done. -/
structure BuildReport where
  output : Path
  targets : List String
  definitions : List String
  files : List Path

/-- Does a build. -/
def Site.build (s : Site) (b : BuildSpec) : Run BuildReport := do
  Run.report [.info ("Building " ++ b.output ++ " for targets [" ++
    ", ".intercalate b.targets ++ "]")]
  let prepared ← s.prepare b
  let files ← prepared.render
  return { output := prepared.output, targets := prepared.targets.map (·.name)
           definitions := prepared.definitions.map (·.name), files }

/-- Does all builds of a manifest, one after another. -/
def generate (config : Config) (env : Environment) (manifest : Path) : Run (List BuildReport) := do
  let m ← Run.look (Manifest.load · manifest)
  let s ← Run.look (Site.locate config env manifest)
  let reports ← m.builds.mapM s.build
  let count := (reports.flatMap (·.files)).length
  Run.report [.info ("Generated " ++ toString count ++ " files in " ++
    toString reports.length ++ " builds")]
  return reports

/-- Loads what all builds of a manifest need and writes nothing. -/
def check (config : Config) (env : Environment) (manifest : Path) : Run (List Prepared) := do
  let m ← Run.look (Manifest.load · manifest)
  let s ← Run.look (Site.locate config env manifest)
  m.builds.mapM s.prepare

end Stencil
