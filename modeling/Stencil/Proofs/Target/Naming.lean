import Mathlib.Data.List.TakeWhile
import Stencil.Proofs.Files.Listing
import Stencil.Proofs.Target.Ordering

/-! The names of the templates for outputs.

A template is named for its file: the directories on the way from the directory for outputs, and the
file name without its last extension. No name has a slash in it, so the joined text tells the
directories and the stem. A target that has been loaded has a template under a name iff there is a
file for it. -/

namespace Stencil

/-! ### Stems -/

namespace Path

/-- A file name has a stem: it is the stem alone, without a dot, or it goes on with a dot and a last
extension. -/
def HasStem (name stem : String) : Prop :=
  name = stem ∧ '.' ∉ stem.toList ∨
    ∃ extension, '.' ∉ extension.toList ∧ name = stem ++ "." ++ extension

theorem exists_hasStem (name : String) : ∃ stem, HasStem name stem := by
  by_cases hdot : '.' ∈ name.toList.reverse
  · obtain ⟨extension, stem, hname, hextension⟩ := List.eq_append_cons_of_mem hdot
    refine ⟨.ofList stem.reverse, .inr ⟨.ofList extension.reverse, by simpa using hextension, ?_⟩⟩
    rw [← String.toList_inj, ← List.reverse_inj, hname]
    simp
  · exact ⟨name, .inl ⟨rfl, by simpa using hdot⟩⟩

/-- A name that is not hidden does not start with its last extension. -/
theorem ne_empty_of_visible {stem extension : String}
    (h : isHidden (stem ++ "." ++ extension) = false) : stem ≠ "" := by
  rintro rfl
  simp [isHidden] at h

theorem HasStem.stemOf_eq {name stem : String} (h : HasStem name stem)
    (hvisible : isHidden name = false) : stemOf name = stem := by
  have hpass (cs : List Char) (hcs : '.' ∉ cs) : ∀ c ∈ cs.reverse, decide (c ≠ '.') := by
    intro c hc
    rw [decide_eq_true_eq]
    rintro rfl
    exact hcs (List.mem_reverse.mp hc)
  unfold stemOf
  rcases h with ⟨rfl, hdotless⟩ | ⟨extension, hdotless, rfl⟩
  · rw [List.dropWhile_eq_nil_iff.mpr (hpass _ hdotless)]
  · have hname : (stem ++ "." ++ extension).toList.reverse =
        extension.toList.reverse ++ '.' :: stem.toList.reverse := by simp
    have hstem : stem.toList.reverse.isEmpty = false := by
      simpa using ne_empty_of_visible hvisible
    rw [hname, List.dropWhile_append_of_pos (hpass _ hdotless),
      List.dropWhile_cons_of_neg (by simp)]
    simp only [hstem]
    simp

theorem HasStem.slashless {name stem : String} (h : HasStem name stem)
    (hname : '/' ∉ name.toList) : '/' ∉ stem.toList := by
  rcases h with ⟨rfl, _⟩ | ⟨extension, _, rfl⟩
  · exact hname
  · intro hmem
    exact hname (by simp [hmem])

theorem intercalate_inj {k k' : List String} (hne : k ≠ []) (hne' : k' ≠ [])
    (h : ∀ s ∈ k, '/' ∉ s.toList) (h' : ∀ s ∈ k', '/' ∉ s.toList) :
    "/".intercalate k = "/".intercalate k' ↔ k = k' := by
  refine ⟨fun heq => ?_, congrArg _⟩
  rw [← pieces_intercalate hne h, heq, pieces_intercalate hne' h']

end Path

/-! ### Names of templates -/

namespace Target

open Stencil.Path Template

section OutputName

variable {dirs dirs' : List String} {file file' stem : String}

/-- A template is named for the directories on the way to its file and for the stem of the file. -/
theorem outputName_eq (outputs : Path) (h : ∀ s ∈ dirs ++ [file], IsName s)
    (hvisible : isHidden file = false) (hstem : HasStem file stem) :
    outputName outputs (outputs.joinAll (dirs ++ [file])) = "/".intercalate (dirs ++ [stem]) := by
  have hbehind : (outputs.joinAll (dirs ++ [file])).componentsBehind outputs =
      (dirs ++ [file]).map .name := by
    have hfront : outputs.components.isPrefixOf
        (outputs.components ++ (dirs ++ [file]).map .name) :=
      List.isPrefixOf_iff_prefix.mpr (List.prefix_append ..)
    rw [componentsBehind, components_joinAll outputs h, if_pos hfront, List.drop_left]
  have hdrop : dropExtension ((dirs ++ [file]).map .name) = (dirs ++ [stem]).map .name := by
    rw [dropExtension, List.map_append, List.map_singleton, List.getLast?_concat]
    simp [hstem.stemOf_eq hvisible]
  have hnames : ((dirs ++ [stem]).map Component.name).filterMap nameOf? = dirs ++ [stem] := by
    rw [List.filterMap_map]
    exact List.filterMap_some
  rw [outputName, hbehind, hdrop, hnames]

theorem slashless_of_isName (h : ∀ s ∈ dirs ++ [file], IsName s) (hstem : HasStem file stem) :
    ∀ s ∈ dirs ++ [stem], '/' ∉ s.toList := by
  intro s hs
  rcases List.mem_append.mp hs with hs | hs
  · exact (h s (List.mem_append_left _ hs)).slashless
  · rw [List.mem_singleton.mp hs]
    exact hstem.slashless (h file (by simp)).slashless

/-- Two files have templates of one name iff they are in one directory and have one stem. -/
theorem outputName_eq_iff (outputs : Path) (h : ∀ s ∈ dirs ++ [file], IsName s)
    (h' : ∀ s ∈ dirs' ++ [file'], IsName s) (hvisible : isHidden file = false)
    (hvisible' : isHidden file' = false) :
    outputName outputs (outputs.joinAll (dirs ++ [file])) =
        outputName outputs (outputs.joinAll (dirs' ++ [file'])) ↔
      dirs = dirs' ∧ ∃ stem, HasStem file stem ∧ HasStem file' stem := by
  obtain ⟨stem, hstem⟩ := exists_hasStem file
  obtain ⟨stem', hstem'⟩ := exists_hasStem file'
  rw [outputName_eq outputs h hvisible hstem, outputName_eq outputs h' hvisible' hstem',
    intercalate_inj (by simp) (by simp) (slashless_of_isName h hstem)
      (slashless_of_isName h' hstem')]
  constructor
  · intro heq
    obtain ⟨rfl, hsame⟩ := List.append_inj' heq rfl
    cases hsame
    exact ⟨rfl, stem, hstem, hstem'⟩
  · rintro ⟨rfl, other, hother, hother'⟩
    rw [← hstem.stemOf_eq hvisible, ← hstem'.stemOf_eq hvisible', hother.stemOf_eq hvisible,
      hother'.stemOf_eq hvisible']

end OutputName

/-! ### Templates of a loaded target -/

section Loading

variable {d : Disk} {outputs : Path} {sources : List (String × String)}

/-- The directory with the templates for outputs of a target. -/
def outputsDir (root : Path) (name : String) : Path := (root.join ⟨name⟩).join ⟨"outputs"⟩

theorem readText_of_readSources {named : Path → String} {paths : List Path}
    (h : readSources d named paths = .ok sources) {p : Path} (hp : p ∈ paths) :
    ∃ text, d.readText p = .ok text := by
  obtain ⟨_, _, hread⟩ := Outcome.exists_of_mem_left (Outcome.mapM_eq_ok.mp h) hp
  split at hread
  · exact ⟨_, by assumption⟩
  · cases hread

theorem names_of_readSources {named : Path → String} {paths : List Path}
    (h : readSources d named paths = .ok sources) : sources.map (·.1) = paths.map named := by
  refine Outcome.map_eq_of_mapM (fun p source hread => ?_) h
  split at hread <;> cases hread
  rfl

theorem isShort_of_readText {p : Path} {text : String} (h : d.readText p = .ok text) :
    p.IsShort := by
  obtain ⟨e, hentry, _⟩ := Outcome.bind_eq_ok.mp h
  obtain ⟨l, hlocate, _⟩ := Disk.entry_eq_ok.mp hentry
  exact (isShort_of_locate hlocate).2

/-- If all that is listed can be read, then it is the files that are not hidden. -/
theorem enumerates_of_readSources {d : ProperDisk} {named : Path → String}
    (h : readSources d named (listFiles d outputs true) = .ok sources) :
    Enumerates outputs (IsVisibleFile d outputs) (listFiles d outputs true) := by
  have hlists := enumerates_listFiles d outputs true
  have hshort : HasShortDirs d outputs := by
    refine hasShortDirs_of_isListed fun names hlisted => ?_
    obtain ⟨text, htext⟩ := readText_of_readSources h
      (hlists.mem_iff.mpr ⟨names, ⟨hlisted, .inl rfl⟩, rfl⟩)
    exact isShort_of_readText htext
  exact hlists.congr fun names => by simp [isListed_iff_of_short hshort]

/-- The name of a template tells the directory and the stem of its file. So a loaded target has a
template under a name iff some file that is not hidden has it as its directories and its stem. -/
theorem outputNames_tell_stems :
    (∀ (outputs : Path) (dirs dirs' : List String) (file file' : String),
      (∀ s ∈ dirs ++ [file], IsName s) → (∀ s ∈ dirs' ++ [file'], IsName s) →
      isHidden file = false → isHidden file' = false →
      (outputName outputs (outputs.joinAll (dirs ++ [file])) =
          outputName outputs (outputs.joinAll (dirs' ++ [file'])) ↔
        dirs = dirs' ∧ ∃ stem, HasStem file stem ∧ HasStem file' stem)) ∧
    ∀ (d : ProperDisk) (root : Path) (name : String) (t : Target), load d root name = .ok t →
      Enumerates (outputsDir root name) (IsVisibleFile d (outputsDir root name))
        (listFiles d (outputsDir root name) true) ∧
      ∀ n, t.hasTemplate n ↔ ∃ dirs file stem,
        IsVisibleFile d (outputsDir root name) (dirs ++ [file]) ∧ HasStem file stem ∧
        n = "/".intercalate (dirs ++ [stem]) := by
  refine ⟨fun outputs dirs dirs' file file' => outputName_eq_iff outputs, ?_⟩
  intro d root name t hload
  obtain ⟨params, partials, templates, -, -, -, hread, hcompile⟩ := load_eq_ok.mp hload
  have hlists : Enumerates (outputsDir root name) _ _ := enumerates_of_readSources hread
  refine ⟨hlists, fun n => ?_⟩
  rw [hasTemplate, List.contains_iff_mem, (adds_of_compile hcompile).2.2,
    names_of_readSources hread, List.mem_map]
  constructor
  · rintro ⟨p, hp, rfl⟩
    obtain ⟨names, hfile, rfl⟩ := hlists.mem_iff.mp hp
    obtain ⟨dirs, file, rfl⟩ : ∃ dirs file, names = dirs ++ [file] := by
      obtain ⟨_, _, hne, _⟩ := hfile.file
      exact (List.eq_nil_or_concat' names).resolve_left hne
    obtain ⟨stem, hstem⟩ := exists_hasStem file
    exact ⟨dirs, file, stem, hfile, hstem,
      outputName_eq _ hfile.isName (hfile.visible file (by simp)) hstem⟩
  · rintro ⟨dirs, file, stem, hfile, hstem, rfl⟩
    exact ⟨_, hlists.mem_iff.mpr ⟨_, hfile, rfl⟩,
      outputName_eq _ hfile.isName (hfile.visible file (by simp)) hstem⟩

end Loading

/-- A target with templates for outputs in two directories, and no outputs. -/
def press : ProperDisk where
  root := .dir [("targets", .dir [("ts", .dir
    [("outputs", .dir [("api", .dir [("model.ts.tpl", .file "m".toUTF8)]),
      ("main.tpl", .file "x".toUTF8)]),
     ("params.yml", .file "extension: ts\n".toUTF8)])])]
  here := []

theorem params_press : TargetParams.load press ⟨"targets/ts"⟩ = .ok { extension := "ts" } := by
  decide +kernel

theorem listFiles_press : listFiles press (outputsDir ⟨"targets"⟩ "ts") true =
    [⟨"targets/ts/outputs/api/model.ts.tpl"⟩, ⟨"targets/ts/outputs/main.tpl"⟩] := by
  have hwalk : walkEntries true (outputsDir ⟨"targets"⟩ "ts")
      (press.entriesAt (outputsDir ⟨"targets"⟩ "ts")) =
      [⟨"targets/ts/outputs/api/model.ts.tpl"⟩, ⟨"targets/ts/outputs/main.tpl"⟩] := by
    decide
  rw [listFiles, hwalk]
  exact List.mergeSort_of_pairwise (by decide)

theorem sources_press : readSources press (outputName (outputsDir ⟨"targets"⟩ "ts"))
    (listFiles press (outputsDir ⟨"targets"⟩ "ts") true) =
      .ok [("api/model.ts", "m"), ("main", "x")] := by
  rw [listFiles_press]
  decide

theorem partials_press : readSources press Path.stem
    (listFiles press ⟨"targets/ts/partials"⟩ false) = .ok [] := by
  have hnone : press.entriesAt ⟨"targets/ts/partials"⟩ = [] := rfl
  rw [listFiles, hnone, walkEntries, List.mergeSort_nil]
  rfl

theorem load_press : ∃ t, load press ⟨"targets"⟩ "ts" = .ok t := by
  have hnone : Library.add [] [] = .ok [] := rfl
  have hadd : Library.add [] [("api/model.ts", "m"), ("main", "x")] =
      .ok (Library.withPlain [] [("api/model.ts", "m"), ("main", "x")]) :=
    Library.add_plains (by decide) (by decide)
  have hshared : sharedName? [] ["api/model.ts", "main"] = none := by simp [sharedName?]
  have hcompile : ∃ t, compile "ts" { extension := "ts" } []
      [("api/model.ts", "m"), ("main", "x")] = .ok t := by
    simp only [compile, hnone, hadd, List.map_nil, List.map_cons, hshared]
    exact ⟨_, rfl⟩
  obtain ⟨t, hcompile⟩ := hcompile
  exact ⟨t, load_eq_ok.mpr ⟨_, _, _, by decide, params_press, partials_press,
    sources_press, hcompile⟩⟩

theorem isVisibleFile_press :
    IsVisibleFile press (outputsDir ⟨"targets"⟩ "ts") ["api", "model.ts.tpl"] :=
  ⟨by decide, _, rfl, List.cons_ne_nil _ _, rfl⟩

theorem outputNames_tell_stems_press :
    (∃ t, load press ⟨"targets"⟩ "ts" = .ok t ∧ t.hasTemplate "api/model.ts") ∧
    outputName ⟨"out"⟩ ⟨"out/a/b.c.tpl"⟩ = outputName ⟨"out"⟩ ⟨"out/a/b.c.txt"⟩ ∧
    outputName ⟨"out"⟩ ⟨"out/a/b.c.tpl"⟩ ≠ outputName ⟨"out"⟩ ⟨"out/a/b.tpl"⟩ := by
  obtain ⟨hsame, hloaded⟩ := outputNames_tell_stems
  have hlong : (Path.mk "out").joinAll (["a"] ++ ["b.c.tpl"]) = ⟨"out/a/b.c.tpl"⟩ := by
    decide
  have hother : (Path.mk "out").joinAll (["a"] ++ ["b.c.txt"]) = ⟨"out/a/b.c.txt"⟩ := by
    decide
  have hshort : (Path.mk "out").joinAll (["a"] ++ ["b.tpl"]) = ⟨"out/a/b.tpl"⟩ := by
    decide
  refine ⟨?_, ?_, ?_⟩
  · obtain ⟨t, ht⟩ := load_press
    obtain ⟨-, hdefined⟩ := hloaded press ⟨"targets"⟩ "ts" t ht
    refine ⟨t, ht, (hdefined _).mpr ⟨["api"], "model.ts.tpl", "model.ts", isVisibleFile_press, ?_,
      by decide⟩⟩
    exact .inr ⟨"tpl", by decide, by decide⟩
  · rw [← hlong, ← hother, hsame _ _ _ _ _ (by decide) (by decide)
      (by decide) (by decide)]
    refine ⟨rfl, "b.c", .inr ⟨"tpl", ?_⟩, .inr ⟨"txt", ?_⟩⟩ <;> decide
  · rw [← hlong, ← hshort, Ne, hsame _ _ _ _ _ (by decide) (by decide)
      (by decide) (by decide)]
    rintro ⟨-, stem, hstem, hstem'⟩
    have heq := (hstem.stemOf_eq (by decide)).trans
      (hstem'.stemOf_eq (by decide)).symm
    exact absurd heq (by decide)

end Target

end Stencil
