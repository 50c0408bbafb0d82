import Stencil.Proofs.Augmentation.Patching
import Stencil.Proofs.Build.Checking

/-! Where the options and extensions of a loaded definition come from.

Both are settled key by key. Options are those of the document with those of the settings and then
those of the build put over them. Extensions are those of the document with those of its
augmentations put over them, one augmentation after another, and then those of the settings and of
the build. -/

namespace Stencil

open Run Augmentation

/-! ### Augmented documents -/

namespace Augmentation

/-- The augmentations for a document, in the order in which they are applied: those for its name,
then those for its name within its namespace. -/
def Index.applied (index : Index) (name : String) (d : Document) : List Augmentation :=
  index.get name ++ d.nameSpace.toList.flatMap fun space => index.get (space ++ "." ++ name)

theorem Index.matching_eq_applied (index : Index) (name : String) (d : Document) :
    index.matching name d = index.applied name d := by
  rw [matching, keysFor, List.flatMap_cons, List.flatMap_map]
  rfl

theorem options_applyAll : ∀ (augmentations : List Augmentation) (d : Document),
    (applyAll augmentations d).1.options = d.options
  | [], _ => rfl
  | a :: rest, d => by
    have hstep : (a.applyTo d).1.options = d.options := (augments_applyTo a d).options
    rw [← hstep]
    exact options_applyAll rest (a.applyTo d).1

theorem extensions_applyAll : ∀ (augmentations : List Augmentation) (d : Document),
    (applyAll augmentations d).1.extensions =
      (augmentations.map (·.extensions)).foldl Fields.override d.extensions
  | [], _ => rfl
  | a :: rest, d => by
    have hstep : (a.applyTo d).1.extensions = d.extensions.override a.extensions := by
      rw [frame_applyTo]
    rw [List.map_cons, List.foldl_cons, ← hstep]
    exact extensions_applyAll rest (a.applyTo d).1

end Augmentation

namespace Site

variable {s : Site} {b : BuildSpec} {index : Index}

/-- Under each key, an option of a definition is that of the build, else that of the settings, else
that of the document. An extension is that of the build, else that of the settings, else that of the
last augmentation which has one, else that of the document. What none of them has is not there. -/
structure Overlays (s : Site) (b : BuildSpec) (index : Index) (name : String) (document : Document)
    (d : Definition) : Prop where
  options : ∀ key, d.options.get? key =
    (b.options.get? key).or ((s.config.options.get? key).or (document.options.get? key))
  extensions : ∀ key, d.extensions.get? key =
    (b.extensions.get? key).or ((s.config.extensions.get? key).or
      (((index.applied name document).reverse.findSome? (·.extensions.get? key)).or
        (document.extensions.get? key)))
  noOption : ∀ key, d.options.get? key = none ↔
    b.options.get? key = none ∧ s.config.options.get? key = none ∧ document.options.get? key = none
  noExtension : ∀ key, d.extensions.get? key = none ↔
    b.extensions.get? key = none ∧ s.config.extensions.get? key = none ∧
      (∀ a ∈ index.applied name document, a.extensions.get? key = none) ∧
      document.extensions.get? key = none

/-! ### One definition -/

theorem get?_augmented (index : Index) (name : String) (document : Document) (key : String) :
    (index.augment name document).1.extensions.get? key =
      ((index.applied name document).reverse.findSome? (·.extensions.get? key)).or
        (document.extensions.get? key) := by
  rw [Index.augment_eq, Index.matching_eq_applied, extensions_applyAll,
    Fields.get?_foldl_override, ← List.map_reverse, List.findSome?_map]
  rfl

/-- What a definition is loaded from: the document of the file, augmented and overridden. -/
theorem loadDefinition_eq_ok {path : Path} {w w' : World} {d : Definition}
    (h : (s.loadDefinition b index path).run w = .ok d w') :
    ∃ document, Document.load w.disk path = .ok document ∧
      Definition.build path.stem { (index.augment path.stem document).1 with
        extensions := (index.augment path.stem document).1.extensions.override (s.extensions b) }
        (s.options b) = .ok d := by
  obtain ⟨document, w₁, hload, hrest⟩ := bind_eq_ok.mp h
  obtain ⟨_, w₂, _, hbuild⟩ := bind_eq_ok.mp hrest
  exact ⟨document, (look_eq_ok.mp hload).1, (ofExcept_eq_ok.mp hbuild).1⟩

theorem overlays_of_build {name : String} {document : Document} {d : Definition}
    (hbuild : Definition.build name { (index.augment name document).1 with
        extensions := (index.augment name document).1.extensions.override (s.extensions b) }
        (s.options b) = .ok d) : s.Overlays b index name document d := by
  obtain ⟨contracts, models, services, _, _, _, _, rfl⟩ := Definition.build_eq_ok.mp hbuild
  have hoptions (key : String) :
      ((index.augment name document).1.options.override (s.options b)).get? key =
        (b.options.get? key).or
          ((s.config.options.get? key).or (document.options.get? key)) := by
    rw [options, Fields.get?_override_override, Index.augment_eq, options_applyAll]
  have hextensions (key : String) :
      ((index.augment name document).1.extensions.override (s.extensions b)).get? key =
        (b.extensions.get? key).or ((s.config.extensions.get? key).or
          (((index.applied name document).reverse.findSome? (·.extensions.get? key)).or
            (document.extensions.get? key))) := by
    rw [extensions, Fields.get?_override_override, get?_augmented]
  refine ⟨hoptions, hextensions, fun key => ?_, fun key => ?_⟩
  · exact (hoptions key).symm ▸ by simp
  · exact (hextensions key).symm ▸ by simp

/-! ### All definitions of a build -/

/-- The definitions of a build are those of the files that its patterns stand for, in order. The
options of each are put together from those of the build, the settings and the document, and its
extensions from those of the build, the settings, the augmentations and the document. -/
theorem loadDefinitions_overlays {w w' : World} {definitions : List Definition}
    (h : (s.loadDefinitions b index).run w = .ok definitions w') :
    ∃ paths, Glob.files w.disk s.workingDir b.templates = .ok paths ∧
      List.Forall₂ (fun path d => ∃ document, Document.load w.disk path = .ok document ∧
        s.Overlays b index path.stem document d) paths definitions := by
  obtain ⟨paths, w₁, hfiles, hload⟩ := bind_eq_ok.mp h
  obtain ⟨hpaths, rfl⟩ := look_eq_ok.mp hfiles
  have hloads := OnlyLooks.forall₂_of_mapM (s.onlyLooks_loadDefinition b index) hload
  refine ⟨paths, hpaths, hloads.imp fun path d ⟨v, v', hdisk, hrun⟩ => ?_⟩
  obtain ⟨document, hdocument, hbuild⟩ := loadDefinition_eq_ok hrun
  exact ⟨document, hdisk ▸ hdocument, overlays_of_build hbuild⟩

end Site

/-! ### A build of one document -/

namespace Site

open Glob

/-- A document with a namespace. -/
def orderText : String :=
  "namespace: shop\noptions: \x7blang: ts\x7d\nextensions: \x7bnote: own\x7d\n"

/-- A directory with that document. -/
def stall : World where
  disk.root := .dir [("Order.yml", .file orderText.toUTF8)]
  disk.here := []

/-- Settings that a build of the document overrides in part. -/
def market : Site where
  config.options := [("lang", .str "java"), ("style", .str "flat")]
  config.extensions := [("seen", .bool false), ("stage", .str "settings")]
  targetsRoot := ⟨"targets"⟩
  workingDir := ⟨"."⟩

/-- A build of the document. -/
def catalogue : BuildSpec where
  targets := []
  templates := ["Order.yml"]
  options := [("lang", .str "rust")]
  extensions := [("stage", .str "build")]
  output := "out"

/-- Augmentations with both full names of the document. -/
def remarks : Index := .ofList
  [(⟨"a.yml"⟩, { fqn := some "shop.Order", extensions := [("note", .str "within shop")] }),
   (⟨"Order.yml"⟩, { extensions := [("note", .str "by name"), ("seen", .bool true)] })]

theorem loads_stall :
    Glob.files stall.disk market.workingDir catalogue.templates = .ok [⟨"Order.yml"⟩] ∧
    (market.loadDefinition catalogue remarks ⟨"Order.yml"⟩).failure? stall = none ∧
    (Document.load stall.disk ⟨"Order.yml"⟩).toOption.map (·.nameSpace) =
      some (some "shop") := by
  decide +kernel

theorem loadDefinitions_overlays_market : ∃ d w',
    (market.loadDefinitions catalogue remarks).run stall = .ok [d] w' ∧
    d.options.get? "lang" = some (.str "rust") ∧ d.options.get? "style" = some (.str "flat") ∧
    d.extensions.get? "stage" = some (.str "build") ∧
    d.extensions.get? "seen" = some (.bool false) ∧
    d.extensions.get? "note" = some (.str "within shop") := by
  obtain ⟨hfiles, hloads, hnameSpace⟩ := loads_stall
  obtain ⟨d, w', hrun⟩ := failure?_eq_none.mp hloads
  have hall : (market.loadDefinitions catalogue remarks).run stall = .ok [d] w' := by
    rw [loadDefinitions, bind_of_ok (look_eq_ok.mpr ⟨hfiles, rfl⟩), List.mapM_cons,
      bind_of_ok hrun]
    rfl
  obtain ⟨paths, hpaths, hdefinitions⟩ := loadDefinitions_overlays hall
  cases hfiles.symm.trans hpaths
  obtain ⟨⟨document, hdocument, hd⟩, _⟩ := List.forall₂_cons.mp hdefinitions
  refine ⟨d, w', hall, hd.options "lang", hd.options "style", hd.extensions "stage",
    hd.extensions "seen", ?_⟩
  rw [hdocument] at hnameSpace
  have hshop : document.nameSpace = some "shop" := Option.some.inj hnameSpace
  rw [hd.extensions "note", Index.applied, hshop]
  rfl

end Site

end Stencil
