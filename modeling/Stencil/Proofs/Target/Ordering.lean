import Stencil.Proofs.Target.Registering

/-! Targets whose sources are given in another order.

A library is kept in ascending order of names, so that it is settled by what is found under each
name. That is the last source of the name. So the order of the sources plays no part but for one
thing: which of several sources of one name comes last. -/

namespace Stencil

namespace Template.Library

theorem mem_names_insert {l : Library} {t : Source} {entry : String × Source}
    (h : entry ∈ l.insert t) : entry.1 = t.name ∨ entry ∈ l := by
  fun_induction insert l t <;> grind

theorem isAscending_insert {l : Library} (h : IsAscending l) (t : Source) :
    IsAscending (l.insert t) := by
  unfold IsAscending at h ⊢
  fun_induction insert l t with
  | case1 => exact List.pairwise_singleton ..
  | case2 old rest =>
    rw [List.pairwise_cons] at h ⊢
    exact h
  | case3 n old rest hne hlt =>
    rw [List.pairwise_cons]
    refine ⟨fun entry hentry => ?_, h⟩
    rcases List.mem_cons.mp hentry with rfl | hentry
    · exact hlt
    · exact String.lt_trans hlt ((List.pairwise_cons.mp h).1 entry hentry)
  | case4 n old rest hne hlt ih =>
    rw [List.pairwise_cons] at h ⊢
    refine ⟨fun entry hentry => ?_, ih h.2⟩
    rcases mem_names_insert hentry with hname | hentry
    · have hle : n ≤ t.name := String.not_lt.mp hlt
      rw [hname]
      exact lt_of_le_of_ne hle (Ne.symm hne)
    · exact h.1 entry hentry

theorem isAscending_foldl_insert {l : Library} (h : IsAscending l) (read : List Source) :
    IsAscending (read.foldl insert l) := by
  induction read generalizing l with
  | nil => exact h
  | cons t read ih => exact ih (isAscending_insert h t)

/-- Reads a source, as it is done when sources are added. -/
def readSource (s : String × String) : Except LibraryFault Source :=
  match Source.parse? s.1 s.2 with
  | some t => .ok t
  | none => .error .unreadable

theorem add_eq (l : Library) (sources : List (String × String)) : l.add sources = (do
    let read ← sources.mapM readSource
    let l := read.foldl insert l
    l.forM fun (_, t) => l.fit t
    return l) := rfl

theorem readSource_eq_ok {s : String × String} {t : Source} :
    readSource s = .ok t ↔ Source.parse? s.1 s.2 = some t := by
  unfold readSource
  cases Source.parse? s.1 s.2 <;> simp

theorem mapM_readSource_eq_error {sources : List (String × String)} {fault : LibraryFault}
    (h : sources.mapM readSource = .error fault) : fault = .unreadable := by
  induction sources with
  | nil => cases h
  | cons s sources ih =>
    rw [List.mapM_cons, Outcome.bind_eq_error] at h
    rcases h with hs | ⟨t, _, hrest⟩
    · unfold readSource at hs
      split at hs <;> cases hs
      rfl
    · rcases Outcome.bind_eq_error.mp hrest with hrest | ⟨_, _, hpure⟩
      · exact ih hrest
      · cases hpure

/-- Adding sources in another order gives the same library, or fails in the same way, if the last
source of each name is the same. -/
theorem add_of_reordered {l : Library} (hl : IsAscending l)
    {sources sources' : List (String × String)} (h : sources'.Perm sources)
    (hlast : ∀ n, sources'.reverse.lookup n = sources.reverse.lookup n) :
    l.add sources' = l.add sources := by
  rw [add_eq, add_eq]
  cases hread : sources.mapM readSource with
  | error fault =>
    cases hread' : sources'.mapM readSource with
    | error fault' => rw [mapM_readSource_eq_error hread, mapM_readSource_eq_error hread']
    | ok read' =>
      obtain ⟨read, hok, -⟩ := Outcome.exists_mapM_of_perm h.symm hread'
      rw [hok] at hread
      cases hread
  | ok read =>
    obtain ⟨read', hread', -⟩ := Outcome.exists_mapM_of_perm h hread
    have hadds := adds_foldl_insert ((Outcome.mapM_eq_ok.mp hread).imp fun _ _ =>
      readSource_eq_ok.mp) l
    have hadds' := adds_foldl_insert ((Outcome.mapM_eq_ok.mp hread').imp fun _ _ =>
      readSource_eq_ok.mp) l
    have hsame : read'.foldl insert l = read.foldl insert l := by
      refine IsAscending.eq_of_lookup (isAscending_foldl_insert hl read')
        (isAscending_foldl_insert hl read) fun n => ?_
      exact (hadds'.get? n).trans (by rw [hlast, ← hadds.get? n]; rfl)
    rw [hread']
    simp only [bind, Except.bind, hsame]

/-- A library with plain texts put into it. -/
def withPlain (l : Library) (sources : List (String × String)) : Library :=
  (sources.map fun s => Source.plain s.1 s.2).foldl insert l

/-- Plain texts can be added if all templates then fit together. -/
theorem add_plains {l : Library} {sources : List (String × String)}
    (hplain : ∀ s ∈ sources, '\x7b' ∉ s.2.toList ∧ s.2 ≠ "")
    (hfit : (l.withPlain sources).forM (fun (_, t) => (l.withPlain sources).fit t) = .ok ()) :
    l.add sources = .ok (l.withPlain sources) := by
  have hread : sources.mapM readSource = .ok (sources.map fun s => Source.plain s.1 s.2) := by
    rw [Outcome.mapM_eq_ok, List.forall₂_map_right_iff, List.forall₂_same]
    intro s hs
    exact readSource_eq_ok.mpr (Source.parse?_of_not_mem s.1 (hplain s hs).1 (hplain s hs).2)
  rw [add_eq]
  exact Outcome.bind_eq_ok.mpr ⟨_, hread, Outcome.bind_eq_ok.mpr ⟨(), hfit, rfl⟩⟩

theorem isAscending_of_add {l l' : Library} (hl : IsAscending l)
    {sources : List (String × String)} (h : l.add sources = .ok l') : IsAscending l' := by
  rw [add_eq] at h
  obtain ⟨read, _, h⟩ := Outcome.bind_eq_ok.mp h
  obtain ⟨_, _, hpure⟩ := Outcome.bind_eq_ok.mp h
  cases hpure
  exact isAscending_foldl_insert hl read

end Template.Library

namespace Target

open Template

/-- The least shared name does not depend on the order of the names. -/
theorem sharedName?_perm {names names' others others' : List String} (h : names'.Perm names)
    (hothers : others'.Perm others) : sharedName? names' others' = sharedName? names others := by
  have hfilter : (names'.filter (· ∈ others')).Perm (names.filter (· ∈ others)) := by
    simp only [hothers.mem_iff]
    exact h.filter _
  have hsorted (l : List String) : (l.mergeSort (· ≤ ·)).Pairwise (· ≤ ·) := by
    have h : (l.mergeSort (· ≤ ·)).Pairwise (fun a b => decide (a ≤ b)) :=
      List.pairwise_mergeSort (fun a b c => by simpa using le_trans)
        (fun a b => by simpa using le_total a b) l
    simpa using h
  have hsame : (names'.filter (· ∈ others')).mergeSort (· ≤ ·) =
      (names.filter (· ∈ others)).mergeSort (· ≤ ·) := by
    refine List.Perm.eq_of_pairwise (fun a b _ _ => le_antisymm) (hsorted _) (hsorted _) ?_
    exact (List.mergeSort_perm _ _).trans (hfilter.trans (List.mergeSort_perm _ _).symm)
  rw [sharedName?, sharedName?, hsame]

/-- A target put together from sources in another order differs in the order of the names only. -/
theorem compile_eq_map {name : String} {params : TargetParams}
    {partials partials' templates templates' : List (String × String)}
    (hpartials : partials'.Perm partials) (htemplates : templates'.Perm templates)
    (hlast : ∀ n, partials'.reverse.lookup n = partials.reverse.lookup n)
    (hlast' : ∀ n, templates'.reverse.lookup n = templates.reverse.lookup n) :
    compile name params partials' templates' =
      (compile name params partials templates).map
        fun t => { t with templates := templates'.map (·.1) } := by
  have hshared := sharedName?_perm (hpartials.map (·.1)) (htemplates.map (·.1))
  have hempty : IsAscending ([] : Library) := List.Pairwise.nil
  have hadd := Library.add_of_reordered hempty hpartials hlast
  unfold compile
  simp only [hshared, hadd]
  cases sharedName? (partials.map (·.1)) (templates.map (·.1)) with
  | some shared => rfl
  | none =>
    cases hfirst : Library.add [] partials with
    | error fault => rfl
    | ok l =>
      have hsecond := Library.add_of_reordered (Library.isAscending_of_add hempty hfirst)
        htemplates hlast'
      simp only [hsecond]
      cases l.add templates with
      | error fault => rfl
      | ok l =>
        simp only
        cases addPaths name l 0 params.outputs <;> rfl

/-- Sources in another order make the same target, or fail in the same way, if the last source of
each name is the same, as it is where no name has two sources. Under each name the target has the
same template, and it renders the same paths and texts. -/
theorem compile_of_reordered {name : String} {params : TargetParams}
    {partials partials' templates templates' : List (String × String)}
    (hpartials : partials'.Perm partials) (htemplates : templates'.Perm templates)
    (hlast : ∀ n, partials'.reverse.lookup n = partials.reverse.lookup n)
    (hlast' : ∀ n, templates'.reverse.lookup n = templates.reverse.lookup n) :
    (∀ e, compile name params partials' templates' = .error e ↔
      compile name params partials templates = .error e) ∧
    ∀ t, compile name params partials templates = .ok t →
      ∃ t', compile name params partials' templates' = .ok t' ∧
        (∀ n, t'.library.get? n = t.library.get? n) ∧ t'.outputs = t.outputs ∧
        (∀ i o context, t'.renderPath i o context = t.renderPath i o context) ∧
        ∀ o context, t'.renderContents o context = t.renderContents o context := by
  have heq : compile name params partials' templates' = _ :=
    compile_eq_map hpartials htemplates hlast hlast'
  constructor
  · intro e
    rw [heq]
    cases compile name params partials templates <;> simp [Except.map]
  · intro t ht
    rw [ht] at heq
    refine ⟨_, heq, fun n => rfl, rfl, fun i o context => rfl, fun o context => ?_⟩
    have hnames : t.templates = templates.map (·.1) := (adds_of_compile ht).2.2
    have hdefined : (templates'.map (·.1)).contains o.templateName =
        t.templates.contains o.templateName := by
      rw [hnames, Bool.eq_iff_iff, List.contains_iff_mem, List.contains_iff_mem]
      exact (htemplates.map (·.1)).mem_iff
    unfold renderContents hasTemplate
    rw [hdefined]

theorem compile_plain {template : String} {templates : List (String × String)} {l l' : Library}
    (hadd : Library.add [] templates = .ok l) (hpath : l.add [(pathName 0, "x.txt")] = .ok l') :
    compile "txt" (single template) [] templates =
      .ok ⟨"txt", single template, l', templates.map (·.1)⟩ := by
  have hnone : Library.add [] [] = .ok [] := rfl
  have hshared : sharedName? [] (templates.map (·.1)) = none := by simp [sharedName?]
  have hpaths : addPaths "txt" l 0 (single template).outputs = .ok l' := by
    unfold addPaths
    simp only [single, hpath]
    rfl
  simp only [compile, hnone, hadd, List.map_nil, hshared, hpaths]
  rfl

theorem compile_of_reordered_drafts : ∃ t t',
    compile "txt" (single "model") [] [("model", "draft"), ("other", "x"), ("model", "hello")] =
      .ok t ∧
    compile "txt" (single "model") [] [("other", "x"), ("model", "draft"), ("model", "hello")] =
      .ok t' ∧
    ∀ o context, t'.renderContents o context = t.renderContents o context := by
  have hadd : Library.add [] [("model", "draft"), ("other", "x"), ("model", "hello")] =
      .ok [("model", .plain "model" "hello"), ("other", .plain "other" "x")] :=
    Library.add_plains (by decide) (by decide)
  let l : Library := [("model", .plain "model" "hello"), ("other", .plain "other" "x")]
  have hpath : l.add [(pathName 0, "x.txt")] = .ok (l.insert (.plain (pathName 0) "x.txt")) :=
    Library.add_plain (by decide) (by decide) (by decide)
  have hcompile : compile "txt" (single "model") []
      [("model", "draft"), ("other", "x"), ("model", "hello")] = _ := compile_plain hadd hpath
  have hlast (n : String) :
      [("other", "x"), ("model", "draft"), ("model", "hello")].reverse.lookup n =
        [("model", "draft"), ("other", "x"), ("model", "hello")].reverse.lookup n := by
    simp only [List.reverse_cons, List.reverse_nil, List.nil_append, List.cons_append,
      lookup_cons_eq]
    split_ifs <;> simp_all
  obtain ⟨t', hcompile', _, _, _, hcontents⟩ :=
    (compile_of_reordered (.refl []) (.swap ..) (fun _ => rfl) hlast).2 _ hcompile
  exact ⟨_, t', hcompile, hcompile', hcontents⟩

theorem compile_twin (first second : String) (hfirst : '\x7b' ∉ first.toList ∧ first ≠ "")
    (hsecond : '\x7b' ∉ second.toList ∧ second ≠ "") :
    ∃ t, compile "txt" (single "model") [] [("model", first), ("model", second)] = .ok t ∧
      ∀ context, t.renderContents ⟨"model", "x.txt", none⟩ context = .ok second := by
  have hadd : Library.add [] [("model", first), ("model", second)] =
      .ok [("model", .plain "model" second)] :=
    Library.add_plains (by simp [hfirst, hsecond]) rfl
  have hpath : Library.add [("model", .plain "model" second)] [(pathName 0, "x.txt")] =
      .ok [(pathName 0, .plain (pathName 0) "x.txt"), ("model", .plain "model" second)] :=
    Library.add_plain (by decide) (by decide) rfl
  exact ⟨_, compile_plain hadd hpath, renderContents_of_plain rfl rfl⟩

/-- Which of two sources of one name comes last decides what is rendered. -/
theorem compile_of_twins : ∃ t t',
    compile "txt" (single "model") [] [("model", "one"), ("model", "two")] = .ok t ∧
    compile "txt" (single "model") [] [("model", "two"), ("model", "one")] = .ok t' ∧
    ∀ context, t.renderContents ⟨"model", "x.txt", none⟩ context = .ok "two" ∧
      t'.renderContents ⟨"model", "x.txt", none⟩ context = .ok "one" := by
  obtain ⟨t, ht, hcontents⟩ := compile_twin "one" "two" (by decide) (by decide)
  obtain ⟨t', ht', hcontents'⟩ := compile_twin "two" "one" (by decide) (by decide)
  exact ⟨t, t', ht, ht', fun context => ⟨hcontents context, hcontents' context⟩⟩

end Target

end Stencil
