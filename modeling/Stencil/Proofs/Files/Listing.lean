import Mathlib.Data.List.Induction
import Stencil.Files.Listing
import Stencil.Proofs.Files.PathOrder
import Stencil.Proofs.Files.Tree
import Stencil.Proofs.Files.Walking

/-! Files that are listed below a directory.

A walk takes what it meets for a file unless it sees a directory there, and it sees one only under a
path that the system takes. So it gives the files none of whose names is hidden, and in place of
those below a directory with too long a path it gives that directory. Names lead to each of these by
one way only. So the list of their paths, in order, ascends strictly, and it does not depend on the
order in which the entries of a directory come. -/

namespace Stencil

/-! ### Paths of what names lead to -/

namespace Path

/-- The path of what names lead to from a directory. -/
def joinAll (dir : Path) (names : List String) : Path :=
  names.foldl (fun p name => p.join ⟨name⟩) dir

/-- The system takes a path of so few bytes. -/
def IsShort (p : Path) : Prop := p.text.utf8ByteSize < 4096

instance (p : Path) : Decidable p.IsShort := inferInstanceAs (Decidable (_ < _))

@[simp] theorem joinAll_nil (dir : Path) : dir.joinAll [] = dir := rfl

@[simp] theorem joinAll_cons (dir : Path) (s : String) (names : List String) :
    dir.joinAll (s :: names) = (dir.join ⟨s⟩).joinAll names := rfl

theorem components_joinAll (dir : Path) {names : List String} (h : ∀ s ∈ names, IsName s) :
    (dir.joinAll names).components = dir.components ++ names.map .name := by
  induction names generalizing dir with
  | nil => exact (List.append_nil _).symm
  | cons s names ih =>
    obtain ⟨hs, hnames⟩ := List.forall_mem_cons.mp h
    rw [joinAll_cons, ih (dir.join ⟨s⟩) hnames, components_join_name dir hs, List.append_assoc]
    rfl

/-- Different names lead to different paths. -/
theorem components_joinAll_inj {dir : Path} {names names' : List String}
    (h : ∀ s ∈ names, IsName s) (h' : ∀ s ∈ names', IsName s) :
    (dir.joinAll names).components = (dir.joinAll names').components ↔ names = names' := by
  rw [components_joinAll dir h, components_joinAll dir h', List.append_cancel_left_eq,
    map_name_injective.eq_iff]

/-- A name is written behind the text of a path. -/
theorem exists_text_join (p : Path) {s : String} (h : IsName s) :
    ∃ between, '\x00' ∉ between.toList ∧ (p.join ⟨s⟩).text = p.text ++ between ++ s := by
  rw [join, isAbsolute_of_slashless h.slashless, Bool.false_or]
  split
  · rename_i hempty
    exact ⟨"", by simp, by simp [String.isEmpty_iff.mp hempty]⟩
  · split
    · exact ⟨"", by simp, by simp⟩
    · exact ⟨"/", by decide, rfl⟩

theorem nulless_join {p : Path} {s : String} (h : IsName s) (hp : '\x00' ∉ p.text.toList) :
    '\x00' ∉ (p.join ⟨s⟩).text.toList := by
  obtain ⟨between, hbetween, htext⟩ := p.exists_text_join h
  simp [htext, hp, hbetween, h.nulless]

theorem IsShort.of_join {p : Path} {s : String} (h : IsName s) (hshort : (p.join ⟨s⟩).IsShort) :
    p.IsShort := by
  obtain ⟨between, _, htext⟩ := p.exists_text_join h
  unfold IsShort at hshort ⊢
  rw [htext, String.utf8ByteSize_append, String.utf8ByteSize_append] at hshort
  omega

theorem IsShort.of_joinAll {dir : Path} {names : List String} (h : ∀ s ∈ names, IsName s)
    (hshort : (dir.joinAll names).IsShort) : dir.IsShort := by
  induction names generalizing dir with
  | nil => exact hshort
  | cons s names ih =>
    obtain ⟨hs, hnames⟩ := List.forall_mem_cons.mp h
    exact (ih hnames hshort).of_join hs

end Path

/-! ### Paths that are given once each -/

/-- Paths that are, each once, those to which the names of some kind lead from a directory. -/
def Enumerates (dir : Path) (P : List String → Prop) (paths : List Path) : Prop :=
  ∃ rels : List (List String), rels.Nodup ∧ paths = rels.map dir.joinAll ∧
    ∀ names, names ∈ rels ↔ P names

namespace Enumerates

variable {dir : Path} {P Q : List String → Prop} {paths paths' : List Path}

theorem mem_iff (h : Enumerates dir P paths) {p : Path} :
    p ∈ paths ↔ ∃ names, P names ∧ p = dir.joinAll names := by
  obtain ⟨rels, _, rfl, hrels⟩ := h
  simp only [List.mem_map, hrels, eq_comm]

theorem congr (h : Enumerates dir P paths) (hPQ : ∀ names, P names ↔ Q names) :
    Enumerates dir Q paths := by
  obtain ⟨rels, hnodup, hpaths, hrels⟩ := h
  exact ⟨rels, hnodup, hpaths, fun names => (hrels names).trans (hPQ names)⟩

theorem nil (h : ∀ names, ¬ P names) : Enumerates dir P [] :=
  ⟨[], .nil, rfl, fun names => by simp [h names]⟩

theorem self (h : ∀ names, P names ↔ names = []) : Enumerates dir P [dir] :=
  ⟨[[]], List.nodup_singleton _, rfl, fun names => by simp [h names]⟩

/-- What is given below one name of a directory. -/
theorem under {s : String} (h : Enumerates (dir.join ⟨s⟩) P paths) :
    Enumerates dir (fun names => ∃ rest, names = s :: rest ∧ P rest) paths := by
  obtain ⟨rels, hnodup, rfl, hrels⟩ := h
  refine ⟨rels.map (s :: ·), hnodup.map fun _ _ h => (List.cons.inj h).2, ?_, fun names => ?_⟩
  · rw [List.map_map]
    rfl
  · simp only [List.mem_map, hrels, eq_comm, and_comm]

theorem append (h : Enumerates dir P paths) (h' : Enumerates dir Q paths')
    (hPQ : ∀ names, P names → ¬ Q names) :
    Enumerates dir (fun names => P names ∨ Q names) (paths ++ paths') := by
  obtain ⟨rels, hnodup, rfl, hrels⟩ := h
  obtain ⟨rels', hnodup', rfl, hrels'⟩ := h'
  refine ⟨rels ++ rels', List.nodup_append.mpr ⟨hnodup, hnodup', ?_⟩, List.map_append.symm, ?_⟩
  · rintro names hnames _ hnames' rfl
    exact hPQ names ((hrels names).mp hnames) ((hrels' names).mp hnames')
  · simp only [List.mem_append, hrels, hrels', implies_true]

theorem mergeSort (h : Enumerates dir P paths) : Enumerates dir P (paths.mergeSort Path.le) := by
  obtain ⟨rels, hnodup, rfl, hrels⟩ := h
  refine ⟨rels.mergeSort fun a b => (dir.joinAll a).le (dir.joinAll b), ?_, ?_, fun names => ?_⟩
  · exact (List.mergeSort_perm rels _).nodup_iff.mpr hnodup
  · exact (List.map_mergeSort (f := dir.joinAll) (s := Path.le) fun _ _ _ _ => rfl).symm
  · rw [List.mem_mergeSort, hrels]

/-- Names tell paths apart, so in order the paths ascend strictly. -/
theorem pairwise_precedes (h : Enumerates dir P paths)
    (hP : ∀ names, P names → ∀ s ∈ names, IsName s)
    (hle : paths.Pairwise (fun p q => p.le q)) : paths.Pairwise Path.Precedes := by
  obtain ⟨rels, hnodup, rfl, hrels⟩ := h
  rw [List.pairwise_map] at hle ⊢
  refine (hle.and hnodup).imp_of_mem fun {names names'} hmem hmem' ⟨hle, hne⟩ => ⟨hle, ?_⟩
  rw [Ne, Path.components_joinAll_inj (hP _ ((hrels _).mp hmem)) (hP _ ((hrels _).mp hmem'))]
  exact hne

end Enumerates

/-! ### What a walk gives -/

/-- Names that lead from an entry, reached as `path`, to what a walk takes for a file. -/
structure IsLeaf (path : Path) (e : Entry) (names : List String) : Prop where
  visible : ∀ s ∈ names, isHidden s = false
  leaf : (e.fileAt? names).isSome ∨ e.hasDir names ∧ ¬ (path.joinAll names).IsShort
  reached : names ≠ [] → (path.joinAll names.dropLast).IsShort

namespace IsLeaf

variable {path : Path} {e : Entry} {entries : List (String × Entry)} {names : List String}
  {s : String}

theorem exists_at? (h : IsLeaf path e names) : ∃ found, e.at? names = some found :=
  Option.isSome_iff_exists.mp
    (Entry.isSome_at?_iff.mpr (h.leaf.elim .inr fun hdir => .inl hdir.1))

theorem isName (h : IsLeaf path e names) (he : e.IsProper) : ∀ s ∈ names, IsName s := by
  obtain ⟨found, hfound⟩ := h.exists_at?
  exact he.isName_of_mem_names hfound

/-- Nothing is below a file. -/
theorem iff_of_file {bytes : ByteArray} : IsLeaf path (.file bytes) names ↔ names = [] := by
  constructor
  · intro h
    obtain ⟨found, hfound⟩ := h.exists_at?
    cases names with
    | nil => rfl
    | cons s names => cases hfound
  · rintro rfl
    exact ⟨by simp, .inl rfl, fun hne => absurd rfl hne⟩

/-- What is below a directory with too long a path is not reached. -/
theorem iff_of_long (he : (Entry.dir entries).IsProper) (hlong : ¬ path.IsShort) :
    IsLeaf path (.dir entries) names ↔ names = [] := by
  constructor
  · intro h
    by_contra hne
    refine hlong (Path.IsShort.of_joinAll (fun s hs => ?_) (h.reached hne))
    exact h.isName he s (List.dropLast_subset _ hs)
  · rintro rfl
    exact ⟨by simp, .inr ⟨rfl, hlong⟩, fun hne => absurd rfl hne⟩

theorem not_nil_of_short (hshort : path.IsShort) : ¬ IsLeaf path (.dir entries) [] := by
  intro h
  rcases h.leaf with hfile | ⟨_, hlong⟩
  · cases hfile
  · exact hlong hshort

theorem cons_iff (he : (Entry.dir entries).IsProper) (hshort : path.IsShort) :
    IsLeaf path (.dir entries) (s :: names) ↔
      ∃ e, (s, e) ∈ entries ∧ isHidden s = false ∧ IsLeaf (path.join ⟨s⟩) e names := by
  constructor
  · intro h
    obtain ⟨found, hfound⟩ := h.exists_at?
    obtain ⟨e, hlookup, _⟩ := Option.bind_eq_some_iff.mp hfound
    obtain ⟨hs, hnames⟩ := List.forall_mem_cons.mp h.visible
    refine ⟨e, mem_of_lookup hlookup, hs, hnames, ?_, fun hne => ?_⟩
    · simpa [Entry.fileAt?, Entry.hasDir, Entry.at?, hlookup] using h.leaf
    · have hreached := h.reached (List.cons_ne_nil s names)
      rwa [List.dropLast_cons_of_ne_nil hne] at hreached
  · rintro ⟨e, hmem, hs, h⟩
    have hlookup := he.lookup_of_mem hmem
    refine ⟨List.forall_mem_cons.mpr ⟨hs, h.visible⟩, ?_, fun _ => ?_⟩
    · simpa [Entry.fileAt?, Entry.hasDir, Entry.at?, hlookup] using h.leaf
    · by_cases hne : names = []
      · rw [hne]
        exact hshort
      · rw [List.dropLast_cons_of_ne_nil hne]
        exact h.reached hne

end IsLeaf

theorem walkEntry_dir {deep : Bool} {path : Path} {entries : List (String × Entry)}
    (hnul : '\x00' ∉ path.text.toList) :
    walkEntry deep path (.dir entries) =
      if path.IsShort then if deep then walkEntries deep path entries else [] else [path] := by
  rw [walkEntry]
  split
  · rename_i hcheck
    have hshort : path.IsShort := (Disk.checkPath_eq_ok.mp hcheck).2
    rw [if_pos hshort]
  · rename_i hcheck
    rw [if_neg]
    intro hshort
    rw [Disk.checkPath_eq_ok.mpr ⟨hnul, hshort⟩] at hcheck
    cases hcheck

/-- A walk over the entries of a directory gives what it gives for each of them. -/
theorem enumerates_walkEntries {deep : Bool} {dir : Path} {P : String → Entry → List String → Prop}
    {entries : List (String × Entry)} (hdistinct : (entries.map (·.1)).Nodup)
    (h : ∀ x ∈ entries,
      Enumerates (dir.join ⟨x.1⟩) (P x.1 x.2) (walkEntry deep (dir.join ⟨x.1⟩) x.2)) :
    Enumerates dir (fun names => ∃ x ∈ entries, ∃ rest, names = x.1 :: rest ∧
      isHidden x.1 = false ∧ P x.1 x.2 rest) (walkEntries deep dir entries) := by
  induction entries with
  | nil => exact .nil (by simp)
  | cons x entries ih =>
    obtain ⟨s, e⟩ := x
    obtain ⟨hs, hdistinct⟩ := List.nodup_cons.mp hdistinct
    obtain ⟨hx, h⟩ := List.forall_mem_cons.mp h
    have hrest := ih hdistinct h
    rw [walkEntries]
    by_cases hhidden : isHidden s
    · rw [if_pos hhidden]
      exact hrest.congr fun names => by simp [hhidden]
    · rw [if_neg hhidden]
      refine (hx.under.append hrest ?_).congr fun names => ?_
      · -- what is below the other entries starts with another name
        rintro _ ⟨rest, rfl, _⟩ ⟨y, hy, _, heq, _⟩
        exact hs (List.mem_map.mpr ⟨y, hy, (List.cons.inj heq).1.symm⟩)
      · simp [hhidden]

/-- A walk below a directory gives what it takes for files there. -/
theorem enumerates_below (deep : Bool) {dir : Path} {entries : List (String × Entry)}
    (hproper : (Entry.dir entries).IsProper) (hshort : dir.IsShort)
    (h : ∀ x ∈ entries, Enumerates (dir.join ⟨x.1⟩)
      (fun rest => IsLeaf (dir.join ⟨x.1⟩) x.2 rest ∧ (deep ∨ rest = []))
      (walkEntry deep (dir.join ⟨x.1⟩) x.2)) :
    Enumerates dir (fun names => IsLeaf dir (.dir entries) names ∧ (deep ∨ names.length = 1))
      (walkEntries deep dir entries) := by
  have hdistinct : (entries.map (·.1)).Nodup := by
    cases hproper with
    | dir distinct _ _ => exact distinct
  refine (enumerates_walkEntries (P := fun s e rest =>
    IsLeaf (dir.join ⟨s⟩) e rest ∧ (deep ∨ rest = [])) hdistinct h).congr fun names => ?_
  constructor
  · rintro ⟨⟨s, e⟩, hmem, rest, rfl, hvisible, hleaf, hdeep⟩
    exact ⟨(IsLeaf.cons_iff hproper hshort).mpr ⟨e, hmem, hvisible, hleaf⟩, by simpa using hdeep⟩
  · rintro ⟨hleaf, hdeep⟩
    cases names with
    | nil => exact absurd hleaf (IsLeaf.not_nil_of_short hshort)
    | cons s rest =>
      obtain ⟨e, hmem, hvisible, hrest⟩ := (IsLeaf.cons_iff hproper hshort).mp hleaf
      exact ⟨(s, e), hmem, rest, rfl, hvisible, hrest, by simpa using hdeep⟩

/-- A walk gives what it takes for files, and only the entry itself unless it goes deep. -/
theorem enumerates_walkEntry (deep : Bool) {path : Path} {e : Entry} (he : e.IsProper)
    (hnul : '\x00' ∉ path.text.toList) :
    Enumerates path (fun names => IsLeaf path e names ∧ (deep ∨ names = []))
      (walkEntry deep path e) := by
  induction he generalizing path with
  | file bytes =>
    rw [walkEntry]
    exact .self fun names => by rw [IsLeaf.iff_of_file]; tauto
  | dir distinct names below ih =>
    rename_i entries
    have hproper : (Entry.dir entries).IsProper := .dir distinct names below
    rw [walkEntry_dir hnul]
    split_ifs with hshort hdeep
    · refine (enumerates_below deep hproper hshort fun x hx => ?_).congr fun names => ?_
      · exact ih x hx (Path.nulless_join (names x hx) hnul)
      · simp [hdeep]
    · refine .nil fun names h => ?_
      cases h.2.resolve_left hdeep
      exact IsLeaf.not_nil_of_short hshort h.1
    · exact .self fun names => by rw [IsLeaf.iff_of_long hproper hshort]; tauto

/-! ### What is listed -/

/-- Names lead from a directory to a file below it, and none of them is hidden. -/
structure IsVisibleFile (d : Disk) (dir : Path) (names : List String) : Prop where
  visible : ∀ s ∈ names, isHidden s = false
  file : ∃ l, d.locate dir = .ok l ∧ names ≠ [] ∧ (d.fileAt? (l ++ names)).isSome

/-- Names lead from a directory to what is listed below it. None of them is hidden, and the path of
the directory that they end in is short. There they lead to a file, or else to a directory whose own
path is too long. -/
structure IsListed (d : Disk) (dir : Path) (names : List String) : Prop where
  visible : ∀ s ∈ names, isHidden s = false
  leaf : ∃ l, d.locate dir = .ok l ∧ names ≠ [] ∧ ((d.fileAt? (l ++ names)).isSome ∨
    d.root.hasDir (l ++ names) ∧ ¬ (dir.joinAll names).IsShort)
  reached : (dir.joinAll names.dropLast).IsShort

/-- Every directory below a directory has a short path, unless one of its names is hidden. -/
def HasShortDirs (d : Disk) (dir : Path) : Prop :=
  ∀ l names, d.locate dir = .ok l → (∀ s ∈ names, isHidden s = false) →
    d.root.hasDir (l ++ names) → (dir.joinAll names).IsShort

theorem isShort_of_locate {d : Disk} {dir : Path} {l : List String} (h : d.locate dir = .ok l) :
    '\x00' ∉ dir.text.toList ∧ dir.IsShort :=
  Disk.checkPath_eq_ok.mp (Disk.locate_eq_ok.mp h).1

section Listing

variable {d : Disk} {dir : Path} {names : List String}

/-- What is listed below a directory is what a walk takes for files there. -/
theorem isListed_iff : IsListed d dir names ↔
    ∃ entries, d.entry dir = .ok (.dir entries) ∧ IsLeaf dir (.dir entries) names := by
  constructor
  · rintro ⟨hvisible, ⟨l, hl, hne, hleaf⟩, hreached⟩
    have hsome : (d.root.at? (l ++ names)).isSome :=
      Entry.isSome_at?_iff.mpr (hleaf.elim .inr fun hdir => .inl hdir.1)
    obtain ⟨entries, htop⟩ := Entry.exists_dir_of_below hne hsome
    refine ⟨entries, Disk.entry_eq_ok.mpr ⟨l, hl, htop⟩, hvisible, ?_, fun _ => hreached⟩
    rwa [← Entry.fileAt?_below htop, ← Entry.hasDir_below htop]
  · rintro ⟨entries, hentry, hleaf⟩
    obtain ⟨l, hl, htop⟩ := Disk.entry_eq_ok.mp hentry
    have hne : names ≠ [] := by
      rintro rfl
      exact IsLeaf.not_nil_of_short (isShort_of_locate hl).2 hleaf
    refine ⟨hleaf.visible, ⟨l, hl, hne, ?_⟩, hleaf.reached hne⟩
    rw [Disk.fileAt?, Entry.fileAt?_below htop, Entry.hasDir_below htop]
    exact hleaf.leaf

theorem IsListed.isName {d : ProperDisk} (h : IsListed d dir names) :
    ∀ s ∈ names, IsName s := by
  obtain ⟨entries, hentry, hleaf⟩ := isListed_iff.mp h
  obtain ⟨l, _, htop⟩ := Disk.entry_eq_ok.mp hentry
  exact hleaf.isName (d.proper.at? htop)

theorem IsVisibleFile.isName {d : ProperDisk} (h : IsVisibleFile d dir names) :
    ∀ s ∈ names, IsName s := by
  obtain ⟨l, _, _, hfile⟩ := h.file
  obtain ⟨found, hfound⟩ := Option.isSome_iff_exists.mp (Entry.isSome_at?_iff.mpr (.inr hfile))
  exact fun s hs => d.proper.isName_of_mem_names hfound s (List.mem_append_right _ hs)

/-- A list of files has, each once, the paths of what is listed below the directory. -/
theorem enumerates_listFiles (d : ProperDisk) (dir : Path) (deep : Bool) :
    Enumerates dir (fun names => IsListed d dir names ∧ (deep ∨ names.length = 1))
      (listFiles d dir deep) := by
  refine Enumerates.mergeSort ?_
  unfold Disk.entriesAt
  split
  · rename_i entries hentry
    obtain ⟨l, hl, htop⟩ := Disk.entry_eq_ok.mp hentry
    have hproper := d.proper.at? htop
    obtain ⟨hnul, hshort⟩ := isShort_of_locate hl
    refine (enumerates_below deep hproper hshort fun x hx => ?_).congr fun names => ?_
    · exact enumerates_walkEntry deep (hproper.of_mem hx)
        (Path.nulless_join (hproper.isName_of_mem hx) hnul)
    · simp [isListed_iff, hentry]
  · rename_i hnone
    rw [walkEntries]
    refine .nil fun names h => ?_
    obtain ⟨entries, hentry, _⟩ := isListed_iff.mp h.1
    exact hnone entries hentry

theorem pairwise_listFiles (d : ProperDisk) (dir : Path) (deep : Bool) :
    (listFiles d dir deep).Pairwise Path.Precedes :=
  (enumerates_listFiles d dir deep).pairwise_precedes (fun _ h => h.1.isName)
    (Path.pairwise_le_mergeSort _)

/-- Where all directories have short paths, what is listed are the files that are not hidden. -/
theorem isListed_iff_of_short (h : HasShortDirs d dir) :
    IsListed d dir names ↔ IsVisibleFile d dir names := by
  constructor
  · rintro ⟨hvisible, ⟨l, hl, hne, hfile | ⟨hdir, hlong⟩⟩, _⟩
    · exact ⟨hvisible, l, hl, hne, hfile⟩
    · exact absurd (h l names hl hvisible hdir) hlong
  · rintro ⟨hvisible, l, hl, hne, hfile⟩
    refine ⟨hvisible, ⟨l, hl, hne, .inl hfile⟩, h l _ hl (fun s hs => ?_) ?_⟩
    · exact hvisible s (List.dropLast_subset _ hs)
    · have hsome : (d.root.at? (l ++ names)).isSome := Entry.isSome_at?_iff.mpr (.inr hfile)
      rw [← List.dropLast_append_getLast hne, ← List.append_assoc] at hsome
      obtain ⟨entries, hdir⟩ := Entry.exists_dir_of_below (List.cons_ne_nil _ _) hsome
      simp [Entry.hasDir, hdir, Entry.isDir]

/-- A directory with too long a path is listed, or one above it is. -/
theorem exists_isListed_of_long {l : List String} (hl : d.locate dir = .ok l)
    (hvisible : ∀ s ∈ names, isHidden s = false) (hdir : d.root.hasDir (l ++ names))
    (hlong : ¬ (dir.joinAll names).IsShort) :
    ∃ front, IsListed d dir front ∧ ¬ (dir.joinAll front).IsShort := by
  -- from the end of the names to the last directory whose path is short
  induction names using List.reverseRecOn with
  | nil => exact absurd (isShort_of_locate hl).2 hlong
  | append_singleton names s ih =>
    by_cases hshort : (dir.joinAll names).IsShort
    · refine ⟨names ++ [s], ⟨hvisible, ⟨l, hl, by simp, .inr ⟨hdir, hlong⟩⟩, ?_⟩, hlong⟩
      rwa [List.dropLast_concat]
    · refine ih (fun s hs => hvisible s (List.mem_append_left _ hs)) ?_ hshort
      rw [← List.append_assoc] at hdir
      exact Entry.hasDir_of_front hdir (List.prefix_append _ _)

theorem hasShortDirs_of_isListed (h : ∀ names, IsListed d dir names → (dir.joinAll names).IsShort) :
    HasShortDirs d dir := by
  intro l names hl hvisible hdir
  by_contra hlong
  obtain ⟨front, hlisted, hlong⟩ := exists_isListed_of_long hl hvisible hdir hlong
  exact hlong (h front hlisted)

end Listing

/-! ### Other orders of the entries -/

/-- The same tree with the entries of each directory in any order. -/
inductive Entry.Reorders : Entry → Entry → Prop where
  | file (bytes : ByteArray) : Reorders (.file bytes) (.file bytes)
  | dir {entries entries' : List (String × Entry)}
      (names : (entries'.map (·.1)).Perm (entries.map (·.1)))
      (below : ∀ s e e', (s, e) ∈ entries → (s, e') ∈ entries' → Reorders e e') :
      Reorders (.dir entries) (.dir entries')

/-- The same disk with the entries of each directory in any order. -/
structure Disk.Reorders (d d' : Disk) : Prop where
  here : d'.here = d.here
  root : d.root.Reorders d'.root

namespace Entry.Reorders

variable {e e' : Entry}

theorem mem_names {entries entries' : List (String × Entry)}
    (h : (entries'.map (·.1)).Perm (entries.map (·.1))) {s : String} :
    (∃ e', (s, e') ∈ entries') ↔ ∃ e, (s, e) ∈ entries := by
  simpa using h.mem_iff (a := s)

theorem isProper (h : e.Reorders e') (he : e.IsProper) : e'.IsProper := by
  induction h with
  | file bytes => exact he
  | dir names below ih =>
    cases he with
    | dir distinct hnames hbelow =>
      refine .dir (names.nodup_iff.mpr distinct) ?_ ?_
      · rintro ⟨s, e'⟩ hmem
        obtain ⟨e, he⟩ := (mem_names names).mp ⟨e', hmem⟩
        exact hnames (s, e) he
      · rintro ⟨s, e'⟩ hmem
        obtain ⟨e, he⟩ := (mem_names names).mp ⟨e', hmem⟩
        exact ih s e e' he hmem (hbelow (s, e) he)

theorem refl (he : e.IsProper) : e.Reorders e := by
  induction he with
  | file bytes => exact .file bytes
  | dir distinct names below ih =>
    refine .dir (.refl _) fun s x x' hx hx' => ?_
    have hproper := IsProper.dir distinct names below
    cases (hproper.lookup_of_mem hx).symm.trans (hproper.lookup_of_mem hx')
    exact ih (s, x) hx

/-- The entries of a directory may come in any order. -/
theorem of_perm {entries entries' : List (String × Entry)} (he : (Entry.dir entries).IsProper)
    (hperm : entries'.Perm entries) : (Entry.dir entries).Reorders (.dir entries') := by
  refine .dir (hperm.map _) fun s x x' hx hx' => ?_
  cases (he.lookup_of_mem hx).symm.trans (he.lookup_of_mem (hperm.mem_iff.mp hx'))
  exact refl (he.of_mem hx)

/-- At each location there is the same in another order, or nothing in both trees. -/
theorem at? (h : e.Reorders e') (he : e.IsProper) (l : List String) :
    Option.Rel Reorders (e.at? l) (e'.at? l) := by
  induction l generalizing e e' with
  | nil => exact .some h
  | cons s l ih =>
    cases h with
    | file bytes => exact .none
    | dir names below =>
      rename_i entries entries'
      have he' := (Reorders.dir names below).isProper he
      cases hlookup : entries.lookup s with
      | none =>
        have hlookup' : entries'.lookup s = none := by
          rw [← Option.not_isSome_iff_eq_none, Option.isSome_iff_exists]
          rintro ⟨x', hx'⟩
          obtain ⟨x, hx⟩ := (mem_names names).mp ⟨x', mem_of_lookup hx'⟩
          cases hlookup.symm.trans (he.lookup_of_mem hx)
        simp [Entry.at?, hlookup, hlookup']
      | some x =>
        have hx := mem_of_lookup hlookup
        obtain ⟨x', hx'⟩ := (mem_names names).mpr ⟨x, hx⟩
        simpa [Entry.at?, hlookup, he'.lookup_of_mem hx'] using
          ih (below s x x' hx hx') (he.of_mem hx)

theorem fileAt?_eq (h : e.Reorders e') (he : e.IsProper) (l : List String) :
    e'.fileAt? l = e.fileAt? l := by
  have hrel := h.at? he l
  unfold Entry.fileAt?
  generalize e.at? l = found, e'.at? l = found' at hrel ⊢
  cases hrel with
  | none => rfl
  | some hsame => cases hsame <;> rfl

theorem hasDir_eq (h : e.Reorders e') (he : e.IsProper) (l : List String) :
    e'.hasDir l = e.hasDir l := by
  have hrel := h.at? he l
  unfold Entry.hasDir
  generalize e.at? l = found, e'.at? l = found' at hrel ⊢
  cases hrel with
  | none => rfl
  | some hsame => cases hsame <;> rfl

end Entry.Reorders

namespace Disk.Reorders

variable {d d' : Disk}

theorem locate_iff {d : ProperDisk} (h : d.Reorders d') {p : Path} {l : List String} :
    d'.locate p = .ok l ↔ d.locate p = .ok l := by
  have hkeeps {d₁ d₂ : Disk} (hhere : d₂.here = d₁.here)
      (hdir : ∀ l, d₂.root.hasDir l = d₁.root.hasDir l)
      (hfile : ∀ l, d₂.root.fileAt? l = d₁.root.fileAt? l) : d₁.Keeps d₂ :=
    ⟨hhere, fun hl => (hdir _).trans hl, fun hl => by rwa [Disk.fileAt?, hfile]⟩
  have hdir := h.root.hasDir_eq d.proper
  have hfile := h.root.fileAt?_eq d.proper
  constructor
  · exact Disk.locate_of_keeps (hkeeps h.here.symm (fun l => (hdir l).symm) fun l => (hfile l).symm)
  · exact Disk.locate_of_keeps (hkeeps h.here hdir hfile)

theorem isListed_iff {d : ProperDisk} (h : d.Reorders d') {dir : Path}
    {names : List String} : IsListed d' dir names ↔ IsListed d dir names := by
  have hfile (l : List String) : d'.fileAt? l = d.fileAt? l := h.root.fileAt?_eq d.proper l
  constructor
  · rintro ⟨hvisible, ⟨l, hl, hne, hleaf⟩, hreached⟩
    rw [hfile, h.root.hasDir_eq d.proper] at hleaf
    exact ⟨hvisible, ⟨l, h.locate_iff.mp hl, hne, hleaf⟩, hreached⟩
  · rintro ⟨hvisible, ⟨l, hl, hne, hleaf⟩, hreached⟩
    rw [← hfile, ← h.root.hasDir_eq d.proper] at hleaf
    exact ⟨hvisible, ⟨l, h.locate_iff.mpr hl, hne, hleaf⟩, hreached⟩

end Disk.Reorders

/-- A list of files ascends strictly and has the path of each file that is not hidden once; if it is
not deep, only of those directly in the directory. Where directories have too long paths, it has
these paths in place of those of the files below. It is empty if there is no directory, and it does
not depend on the order of the entries of any directory. -/
theorem listFiles_lists_visible_files (d : ProperDisk) (dir : Path) (deep : Bool) :
    (listFiles d dir deep).Pairwise Path.Precedes ∧
    Enumerates dir (fun names => IsListed d dir names ∧ (deep ∨ names.length = 1))
      (listFiles d dir deep) ∧
    (HasShortDirs d dir →
      Enumerates dir (fun names => IsVisibleFile d dir names ∧ (deep ∨ names.length = 1))
        (listFiles d dir deep)) ∧
    (d.isDir dir = false → listFiles d dir deep = []) ∧
    ∀ d' : Disk, d.Reorders d' → listFiles d' dir deep = listFiles d dir deep := by
  have hlists := enumerates_listFiles d dir deep
  refine ⟨pairwise_listFiles d dir deep, hlists, fun hshort => ?_, fun hnone => ?_, fun d' h => ?_⟩
  · exact hlists.congr fun names => and_congr_left fun _ => isListed_iff_of_short hshort
  · have hentries : d.entriesAt dir = [] := by
      unfold Disk.isDir at hnone
      unfold Disk.entriesAt
      split
      · rename_i hentry
        simp [hentry] at hnone
      · rfl
    rw [listFiles, hentries, walkEntries, List.mergeSort_nil]
  · have hd' := h.root.isProper d.proper
    refine Path.eq_of_pairwise_precedes (pairwise_listFiles ⟨d', hd'⟩ dir deep)
      (pairwise_listFiles d dir deep) fun p => ?_
    rw [(enumerates_listFiles ⟨d', hd'⟩ dir deep).mem_iff, hlists.mem_iff]
    simp only [h.isListed_iff]

/-- A directory with hidden entries, in order. -/
def shelf : ProperDisk where
  root := .dir [("shop", .dir [(".git", .dir [("HEAD", .file .empty)]), ("a.tpl", .file .empty),
    ("nested", .dir [("b.tpl", .file .empty)])])]
  here := []

/-- The same directory in another order. -/
def untidy : Disk where
  root := .dir [("shop", .dir [("nested", .dir [("b.tpl", .file .empty)]),
    (".git", .dir [("HEAD", .file .empty)]), ("a.tpl", .file .empty)])]
  here := []

theorem reorders_shelf : shelf.Reorders untidy := by
  refine ⟨rfl, .dir (.refl _) fun _ e e' h h' => ?_⟩
  simp only [List.mem_singleton, Prod.mk.injEq] at h h'
  rw [h.2, h'.2]
  exact .of_perm (shelf.proper.of_mem (List.mem_singleton_self _))
    (List.perm_append_singleton _ [_, _]).symm

theorem listFiles_shelf :
    listFiles shelf ⟨"shop"⟩ true = [⟨"shop/a.tpl"⟩, ⟨"shop/nested/b.tpl"⟩] := by
  have hwalk : walkEntries true ⟨"shop"⟩ (shelf.entriesAt ⟨"shop"⟩) =
      [⟨"shop/a.tpl"⟩, ⟨"shop/nested/b.tpl"⟩] := by decide
  rw [listFiles, hwalk]
  exact List.mergeSort_of_pairwise (by decide)

theorem hasShortDirs_shelf : HasShortDirs shelf ⟨"shop"⟩ := by
  have hshort : ∀ p ∈ listFiles shelf ⟨"shop"⟩ true, p.IsShort := by
    rw [listFiles_shelf]
    decide
  refine hasShortDirs_of_isListed fun names hlisted => hshort _ ?_
  exact (enumerates_listFiles shelf ⟨"shop"⟩ true).mem_iff.mpr
    ⟨names, ⟨hlisted, .inl rfl⟩, rfl⟩

theorem listFiles_lists_visible_files_shelf :
    listFiles untidy ⟨"shop"⟩ true = [⟨"shop/a.tpl"⟩, ⟨"shop/nested/b.tpl"⟩] ∧
    Enumerates ⟨"shop"⟩ (IsVisibleFile shelf ⟨"shop"⟩)
      [⟨"shop/a.tpl"⟩, ⟨"shop/nested/b.tpl"⟩] ∧
    listFiles shelf ⟨"shop/a.tpl"⟩ true = [] := by
  obtain ⟨-, -, hfiles, -, hreorders⟩ :=
    listFiles_lists_visible_files shelf ⟨"shop"⟩ true
  obtain ⟨-, -, -, hnone, -⟩ := listFiles_lists_visible_files shelf ⟨"shop/a.tpl"⟩ true
  rw [listFiles_shelf] at hfiles hreorders
  refine ⟨hreorders untidy reorders_shelf, ?_, hnone (by decide)⟩
  exact (hfiles hasShortDirs_shelf).congr fun names => by simp

/-- A directory with a file in a directory. -/
def loft : Disk where
  root := .dir [("d", .dir [("sub", .dir [("f.txt", .file .empty)])])]
  here := []

/-- A path of the directory with many slashes at its end. -/
def detour (n : Nat) : Path := ⟨.ofList ('d' :: List.replicate n '/')⟩

theorem size_detour (n : Nat) : (detour n).text.utf8ByteSize = n + 1 := by
  have hslashes : (String.ofList (List.replicate n '/')).utf8ByteSize = n := by
    induction n with
    | zero => rfl
    | succ n ih =>
      rw [List.replicate_succ', String.ofList_append, String.utf8ByteSize_append, ih]
      rfl
  rw [detour, ← List.singleton_append, String.ofList_append, String.utf8ByteSize_append, hslashes,
    Nat.add_comm]
  rfl

theorem pieces_detour (n : Nat) : (detour n).pieces = "d" :: List.replicate n "" := by
  have hsplit : (List.replicate n '/').splitOn '/' = List.replicate (n + 1) [] := by
    induction n with
    | zero => rfl
    | succ n ih =>
      rw [List.replicate_succ, List.splitOn_cons_eq_if_modifyHead, ih]
      rfl
  rw [Path.pieces, detour, String.toList_ofList, List.splitOn_cons_eq_if_modifyHead, hsplit]
  simp [List.replicate_succ]

theorem entry_detour {n : Nat} (h : n < 4095) :
    loft.entry (detour n) = .ok (.dir [("sub", .dir [("f.txt", .file .empty)])]) := by
  have hsegments : (detour n).segments = ["d"] := by
    rw [Path.segments, pieces_detour]
    simp
  refine Disk.entry_eq_ok.mpr ⟨["d"], Disk.locate_eq_ok.mpr ⟨?_, ?_, ?_, fun _ => rfl⟩, rfl⟩
  · refine Disk.checkPath_eq_ok.mpr ⟨?_, ?_⟩
    · simp [detour]
    · rw [size_detour]
      omega
  · simp [detour]
  · have hstart : loft.start (detour n) = [] := ite_self _
    rw [hsegments, hstart]
    rfl

/-- With too long a path, a directory is listed in place of what is in it. -/
theorem listFiles_detour {n : Nat} (hlong : 4092 ≤ n) (hshort : n < 4095) :
    listFiles loft (detour n) true = [(detour n).joinAll ["sub"]] := by
  have hentry := entry_detour hshort
  obtain ⟨l, hlocate, _⟩ := Disk.entry_eq_ok.mp hentry
  obtain ⟨hnul, _⟩ := isShort_of_locate hlocate
  have hsub : IsName "sub" := by decide
  have hvisible : ¬ isHidden "sub" = true := by decide
  have hlong : ¬ ((detour n).join ⟨"sub"⟩).IsShort := by
    obtain ⟨between, _, htext⟩ := (detour n).exists_text_join hsub
    have hsize : "sub".utf8ByteSize = 3 := by decide
    rw [Path.IsShort, htext, String.utf8ByteSize_append, String.utf8ByteSize_append, size_detour,
      hsize]
    omega
  rw [listFiles, Disk.entriesAt, hentry]
  simp only [walkEntries, if_neg hvisible, walkEntry_dir (Path.nulless_join hsub hnul),
    if_neg hlong, List.append_nil, List.mergeSort_singleton, Path.joinAll_cons, Path.joinAll_nil]

theorem isVisibleFile_detour {n : Nat} (h : n < 4095) :
    IsVisibleFile loft (detour n) ["sub", "f.txt"] := by
  obtain ⟨l, hlocate, hat⟩ := Disk.entry_eq_ok.mp (entry_detour h)
  refine ⟨by decide, l, hlocate, List.cons_ne_nil _ _, ?_⟩
  rw [Disk.fileAt?, Entry.fileAt?_below hat]
  rfl

/-- A file is missing in a list, which has the directory that it is in. -/
theorem listFiles_misses_file :
    IsVisibleFile loft (detour 4092) ["sub", "f.txt"] ∧
    (detour 4092).joinAll ["sub", "f.txt"] ∉ listFiles loft (detour 4092) true ∧
    loft.root.hasDir ["d", "sub"] ∧
    (detour 4092).joinAll ["sub"] ∈ listFiles loft (detour 4092) true := by
  rw [listFiles_detour (by decide) (by decide)]
  refine ⟨isVisibleFile_detour (by decide), fun hmem => ?_, rfl, List.mem_singleton_self _⟩
  have hpath := congrArg Path.components (List.mem_singleton.mp hmem)
  have hnames : ["sub", "f.txt"] = ["sub"] :=
    (Path.components_joinAll_inj (by decide) (by decide)).mp hpath
  exact absurd hnames (by decide)

end Stencil
