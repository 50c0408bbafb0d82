import Mathlib.Logic.Relation
import Stencil.Proofs.Build.Checking
import Stencil.Proofs.Glob.Listing
import Stencil.Proofs.Target.Registering

/-! Builds that name the same targets or patterns more than once, or in another order.

The files that patterns stand for are put in order and each is kept once, so that they depend on the
set of patterns alone, up to the way in which their paths are written (`Glob.Lists`). Neither what
is read from a file nor the name that it gives to a definition or an augmentation depends on
that. -/

namespace Stencil

namespace Augmentation.Index

/-- Of the file of an augmentation, only its name counts. -/
theorem ofList_zip_congr {paths paths' : List Path}
    (h : List.Forall₂ (fun p q : Path => p.stem = q.stem) paths paths')
    (augmentations : List Augmentation) :
    ofList (paths.zip augmentations) = ofList (paths'.zip augmentations) := by
  have hfold (index : Index) :
      (paths.zip augmentations).foldl (fun index d => index.insert d.1 d.2) index =
        (paths'.zip augmentations).foldl (fun index d => index.insert d.1 d.2) index := by
    induction h generalizing augmentations index with
    | nil => rfl
    | cons hstem _ ih =>
      cases augmentations with
      | nil => rfl
      | cons a augmentations =>
        simp only [List.zip_cons_cons, List.foldl_cons, insert, keyOf, hstem]
        exact ih augmentations _
  exact hfold {}

end Augmentation.Index

theorem Target.name_of_load {d : Disk} {root : Path} {name : String} {t : Target}
    (h : Target.load d root name = .ok t) : t.name = name := by
  obtain ⟨_, _, _, _, _, _, _, hcompile⟩ := Target.load_eq_ok.mp h
  obtain ⟨_, _, _, _, _, _, rfl⟩ := Target.compile_eq_ok hcompile
  rfl

namespace Site

open Glob Run

/-- The index of the augmentations of some files. -/
def indexOf (d : Disk) (paths : List Path) : Except Error Augmentation.Index := do
  return .ofList (← paths.mapM fun p => do return (p, ← Augmentation.load d p))

theorem indexOf_congr {d : Disk} {paths paths' : List Path}
    (h : List.Forall₂ (SameFile d) paths paths') : indexOf d paths = indexOf d paths' := by
  have hload : paths.mapM (Augmentation.load d) = paths'.mapM (Augmentation.load d) :=
    Outcome.mapM_congr (h.imp fun _ _ hpq => by rw [Augmentation.load, hpq.readText_eq]; rfl)
  rw [indexOf, indexOf, Outcome.mapM_pair, Outcome.mapM_pair, hload]
  cases paths'.mapM (Augmentation.load d) with
  | error e => rfl
  | ok augmentations =>
    exact congrArg Except.ok
      (Augmentation.Index.ofList_zip_congr (h.imp fun _ _ => SameFile.stem_eq) augmentations)

theorem loadAugmentations_eq {s : Site} {patterns : List String} {d : Disk} {paths : List Path}
    (h : files d s.workingDir patterns = .ok paths) :
    s.loadAugmentations patterns d = indexOf d paths := by
  rw [loadAugmentations, h]
  rfl

theorem loadDefinition_congr {s : Site} {b : BuildSpec} {index : Augmentation.Index} {d : Disk}
    {p q : Path} (h : SameFile d p q) {w : World} (hw : w.disk = d) :
    (s.loadDefinition b index p).run w = (s.loadDefinition b index q).run w := by
  have hload : Document.load w.disk p = Document.load w.disk q := by
    rw [hw, Document.load, Document.load, h.readText_eq]
  unfold loadDefinition
  rw [h.stem_eq]
  refine bind_run_congr ?_ fun _ _ _ => rfl
  rw [look_run, look_run, hload]

theorem loadDefinitions_eq {s : Site} {b : BuildSpec} {index : Augmentation.Index} {w : World}
    {paths : List Path} (h : files w.disk s.workingDir b.templates = .ok paths) :
    (s.loadDefinitions b index).run w = (paths.mapM (s.loadDefinition b index)).run w :=
  bind_of_ok (look_eq_ok.mpr ⟨h, rfl⟩)

/-! ### Targets -/

/-- One more occurrence of a name that stands further in front. -/
def AddsRepeat (names names' : List String) : Prop :=
  ∃ before after name, names = before ++ after ∧ name ∈ before ∧ names' = before ++ name :: after

theorem eraseDups_of_addsRepeat {names names' : List String} (h : AddsRepeat names names') :
    names'.eraseDups = names.eraseDups := by
  obtain ⟨before, after, name, rfl, hmem, rfl⟩ := h
  rw [List.eraseDups_append, List.eraseDups_append]
  congr 2
  simp [List.removeAll, hmem]

theorem eraseDups_of_addsRepeats {names names' : List String}
    (h : Relation.ReflTransGen AddsRepeat names names') : names'.eraseDups = names.eraseDups := by
  induction h with
  | refl => rfl
  | tail _ hstep ih => rw [eraseDups_of_addsRepeat hstep, ih]

theorem name_of_loadTargets {s : Site} {names : List String} {d : Disk} {targets : List Target}
    (h : s.loadTargets names d = .ok targets) : targets.map (·.name) = names.eraseDups := by
  rw [← List.map_id names.eraseDups]
  exact Outcome.map_eq_of_mapM (fun _ _ => Target.name_of_load) h

/-! ### Builds -/

/-- Of what a build names, further occurrences of a target and the order and number of occurrences
of a pattern play no part in what is loaded, if the patterns and the directories in which they look
can be read. The targets are loaded in the order in which they are first named, and augmentations
and definitions are read from strictly ascending lists of the files that their patterns stand
for. -/
theorem prepare_of_redundant {s : Site} {b : BuildSpec}
    {targets templates augmentations : List String}
    (htargets : Relation.ReflTransGen AddsRepeat b.targets targets)
    (htemplates : ∀ p, p ∈ templates ↔ p ∈ b.templates)
    (haugmentations : ∀ p, p ∈ augmentations ↔ p ∈ b.augmentations)
    {w : World}
    (hreadable : ∀ p ∈ b.templates ++ b.augmentations, IsReadable w.disk s.workingDir p) :
    (s.prepare { b with targets, templates, augmentations }).run w = (s.prepare b).run w ∧
    s.loadAugmentations augmentations w.disk = s.loadAugmentations b.augmentations w.disk ∧
    (∀ p w', (s.prepare b).run w = .ok p w' → p.targets.map (·.name) = b.targets.eraseDups) ∧
    (∃ paths, Lists w.disk s.workingDir b.augmentations paths ∧
      s.loadAugmentations b.augmentations w.disk = indexOf w.disk paths) ∧
    ∃ paths, Lists w.disk s.workingDir b.templates paths ∧ ∀ index,
      (s.loadDefinitions b index).run w = (paths.mapM (s.loadDefinition b index)).run w := by
  have hreadable₁ : ∀ p ∈ b.augmentations, IsReadable w.disk s.workingDir p := fun p hp =>
    hreadable p (List.mem_append_right _ hp)
  have hreadable₂ : ∀ p ∈ b.templates, IsReadable w.disk s.workingDir p := fun p hp =>
    hreadable p (List.mem_append_left _ hp)
  obtain ⟨paths₁, hfiles₁⟩ := exists_files hreadable₁
  obtain ⟨paths₁', hfiles₁'⟩ := exists_files fun p hp => hreadable₁ p ((haugmentations p).mp hp)
  obtain ⟨paths₂, hfiles₂⟩ := exists_files hreadable₂
  obtain ⟨paths₂', hfiles₂'⟩ := exists_files fun p hp => hreadable₂ p ((htemplates p).mp hp)
  have hlists₁ := lists_of_files hfiles₁
  have hlists₂ := lists_of_files hfiles₂
  have hindex : s.loadAugmentations augmentations w.disk =
      s.loadAugmentations b.augmentations w.disk := by
    rw [loadAugmentations_eq hfiles₁, loadAugmentations_eq hfiles₁']
    exact indexOf_congr ((lists_of_files hfiles₁').sameFiles hlists₁ haugmentations)
  refine ⟨?_, hindex, fun p w' hp => ?_, ⟨paths₁, hlists₁, loadAugmentations_eq hfiles₁⟩, paths₂,
    hlists₂, fun index => loadDefinitions_eq hfiles₂⟩
  · refine bind_run_congr ?_ fun loaded w₁ h₁ => ?_
    · rw [look_run, look_run, loadTargets, loadTargets, eraseDups_of_addsRepeats htargets]
    obtain ⟨-, rfl⟩ := look_eq_ok.mp h₁
    refine bind_run_congr ?_ fun index w₂ h₂ => ?_
    · rw [look_run, look_run, hindex]
    obtain ⟨-, rfl⟩ := look_eq_ok.mp h₂
    refine bind_run_congr ?_ fun _ _ _ => rfl
    rw [loadDefinitions_eq hfiles₂, loadDefinitions_eq hfiles₂']
    exact OnlyLooks.mapM_run_congr (s.onlyLooks_loadDefinition b index)
      (((lists_of_files hfiles₂').sameFiles hlists₂ htemplates).imp fun _ _ hpq v hv =>
        loadDefinition_congr hpq hv) rfl
  · obtain ⟨loaded, w₁, hloaded, hp⟩ := bind_eq_ok.mp hp
    obtain ⟨index, w₂, _, hp⟩ := bind_eq_ok.mp hp
    obtain ⟨definitions, w₃, _, hp⟩ := bind_eq_ok.mp hp
    cases hp
    exact name_of_loadTargets (look_eq_ok.mp hloaded).1

/-- A build with two patterns. -/
def leaflets : BuildSpec where
  targets := ["t", "u"]
  templates := ["a", "b*"]
  augmentations := ["a"]
  output := "out"

/-- Two files that the patterns stand for, and the targets. -/
def desk : World where
  disk.root := .dir [
    ("a", .file "extensions: \x7bnote: short\x7d".toUTF8),
    ("bees", .file "namespace: hive".toUTF8),
    ("targets", .dir [
      ("t", .dir [("params.yml", .file "extension: txt".toUTF8)]),
      ("u", .dir [("params.yml", .file "extension: md".toUTF8)])])]
  disk.here := []

/-- Where the build is done. -/
def study : Site where
  config := {}
  targetsRoot := ⟨"targets"⟩
  workingDir := ⟨"."⟩

theorem prepare_desk :
    files desk.disk study.workingDir leaflets.templates = .ok [⟨"a"⟩, ⟨"bees"⟩] ∧
    files desk.disk study.workingDir leaflets.augmentations = .ok [⟨"a"⟩] ∧
    ((study.prepare leaflets).result? desk).map (fun p =>
      (p.definitions.map (·.name), p.augmentations)) = some (["a", "bees"], 1) := by
  decide +kernel

theorem prepare_of_redundant_leaflets :
    (study.prepare { leaflets with
      targets := ["t", "u", "t"], templates := ["b*", "a", "b*"]
      augmentations := ["a", "a"] }).run desk = (study.prepare leaflets).run desk ∧
    (∃ p w', (study.prepare leaflets).run desk = .ok p w' ∧
      p.targets.map (·.name) = ["t", "u"] ∧ p.definitions.map (·.name) = ["a", "bees"] ∧
      p.augmentations = 1) ∧
    Lists desk.disk study.workingDir leaflets.templates [⟨"a"⟩, ⟨"bees"⟩] := by
  obtain ⟨hfiles, hfiles', hresult⟩ := prepare_desk
  have hrepeat : AddsRepeat leaflets.targets ["t", "u", "t"] :=
    ⟨["t", "u"], [], "t", rfl, by decide, rfl⟩
  have htemplates (p : String) : p ∈ ["b*", "a", "b*"] ↔ p ∈ leaflets.templates := by
    simp only [leaflets, List.mem_cons, List.not_mem_nil]
    tauto
  have haugmentations (p : String) : p ∈ ["a", "a"] ↔ p ∈ leaflets.augmentations := by
    simp [leaflets]
  have hreadable : ∀ p ∈ leaflets.templates ++ leaflets.augmentations,
      IsReadable desk.disk study.workingDir p :=
    List.forall_mem_append.mpr ⟨isReadable_of_files hfiles, isReadable_of_files hfiles'⟩
  obtain ⟨hsame, _, hnames, _⟩ := prepare_of_redundant (s := study) (b := leaflets)
    (.single hrepeat) htemplates haugmentations hreadable
  obtain ⟨p, w', hp, hviews⟩ := exists_of_result? hresult
  obtain ⟨hdefinitions, haugmentations⟩ := Prod.mk.inj hviews
  exact ⟨hsame, ⟨p, w', hp, hnames p w' hp, hdefinitions, haugmentations⟩,
    lists_of_files hfiles⟩

end Site

end Stencil
