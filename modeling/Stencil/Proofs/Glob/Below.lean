import Stencil.Proofs.Glob.Leading
import Stencil.Proofs.Glob.Listing

/-! Files that patterns stand for below a directory.

A list of patterns that do not lead up gives files below the directory only, and of these the ones
for which some pattern stands that has them in its reach. So their paths are those of the directory
with the names of the files behind it, and the names depend on nothing but the patterns, what is in
the directory and what is in reach. The list is given unless a pattern has a directory read whose
path is too long for the system. -/

namespace Stencil

/-- A path leads to a directory at a location. -/
structure Disk.IsDirAt (d : Disk) (dir : Path) (l : List String) : Prop where
  leads : dir.segments.foldlM d.step (d.start dir) = .ok l
  isDir : d.root.hasDir l

theorem Disk.IsDirAt.unique {d : Disk} {dir : Path} {l l' : List String} (h : d.IsDirAt dir l)
    (h' : d.IsDirAt dir l') : l = l' :=
  Except.ok.inj (h.leads.symm.trans h'.leads)

/-- There is a file at a location. -/
def Disk.HasFile (d : Disk) (l : List String) : Prop :=
  ∃ bytes, d.root.at? l = some (.file bytes)

namespace Glob

/-! ### One pattern -/

/-- A relative pattern that can be read, and none of its components may stand for the directory
above. -/
structure IsInward (p : String) : Prop where
  relative : (Path.mk p).isAbsolute = false
  readable : ∃ cs, components ⟨p⟩ = .ok cs ∧ ∀ c ∈ cs, c.leadsUp = false

/-- A pattern stands for the file to which names lead from a directory. With a slash at its end it
stands for directories only. -/
def IsMatchedBy (names : List String) (p : String) : Prop :=
  Disk.endsInSlash ⟨p⟩ = false ∧ ∃ cs, components ⟨p⟩ = .ok cs ∧ Matches cs names

/-- The components of the path of what names lead to from a directory. -/
def behind (dir : Path) (names : List String) : List Path.Component :=
  dir.trail ++ names.map .name

/-- A pattern has the directory read to which names lead from a directory. -/
def IsOpenedBy (names : List String) (p : String) : Prop :=
  ∃ cs, components ⟨p⟩ = .ok cs ∧ Opens cs names

/-- A pattern below a directory is written without a gap, and the system takes the path that it
gives for a file. -/
structure IsInReach (dir : Path) (names : List String) (p : String) : Prop where
  gapless : dir.isAbsolute = false → gapped (dir.join ⟨p⟩).pieces = false
  fits : ∀ cs, components ⟨p⟩ = .ok cs → extent (arrival dir) names cs ≤ 4096

/-- Some pattern below a directory stands for a file and has it in its reach. -/
def HaveInReach (dir : Path) (patterns : List String) (names : List String) : Prop :=
  ∃ p ∈ patterns, IsMatchedBy names p ∧ IsInReach dir names p

/-- The system takes the path of a directory, and of every directory below it that patterns have
read. -/
structure AreOpenable (d : Disk) (dir : Path) (patterns : List String) : Prop where
  start : (lead (arrival dir)).utf8ByteSize < 4096
  below : ∀ l names, d.IsDirAt dir l → d.root.hasDir (l ++ names) →
    ∀ p ∈ patterns, IsOpenedBy names p → ∀ cs, components ⟨p⟩ = .ok cs →
      extent (arrival dir) names cs < 4096

/-- Behind a directory a pattern has the components that it has alone. Only the empty pattern then
asks for the directory itself. -/
theorem IsInward.exists_components {p : String} (h : IsInward p) (dir : Path) :
    ∃ cs, components (Path.join ⟨escape dir.text⟩ ⟨p⟩) = .ok ((base dir).map .exact ++ cs) ∧
      (∀ c ∈ cs, c.IsInward) ∧
      (components ⟨p⟩ = .ok cs ∧
          Disk.endsInSlash (Path.join ⟨escape dir.text⟩ ⟨p⟩) = Disk.endsInSlash ⟨p⟩ ∨
        (∀ c ∈ cs, c = .literal "") ∧ Disk.endsInSlash (Path.join ⟨escape dir.text⟩ ⟨p⟩)) := by
  obtain ⟨cs, hcs, hup⟩ := h.readable
  have hinward : ∀ c ∈ cs, c.IsInward := fun c hc => isInward_of_leadsUp hcs hc (hup c hc)
  by_cases hp : p = ""
  · subst hp
    by_cases hdir : dir.text = ""
    · have hjoin : Path.join ⟨escape dir.text⟩ ⟨""⟩ = ⟨""⟩ := by rw [hdir]; decide
      have hbase : base dir = [] := by
        rw [show dir = ⟨""⟩ from congrArg Path.mk hdir]
        decide
      rw [hjoin, hbase]
      exact ⟨cs, hcs, hinward, .inl ⟨hcs, rfl⟩⟩
    · have hescape : escape dir.text ≠ "" := by
        have hempty := isEmpty_escape dir.text
        rw [show dir.text.isEmpty = false by simpa using hdir] at hempty
        simpa using hempty
      obtain ⟨cs, hone, hcs⟩ := exists_components_join_empty dir
      have hempty : ∀ c ∈ cs, c = .literal "" := by
        rcases hone with rfl | rfl
        · nofun
        · exact List.forall_mem_singleton.mpr rfl
      refine ⟨cs, hcs, fun c hc => ?_,
        .inr ⟨hempty, Path.endsInSlash_join_empty (p := ⟨escape dir.text⟩) hescape⟩⟩
      rw [hempty c hc]
      exact ⟨List.not_mem_nil, by decide⟩
  · exact ⟨cs, components_join dir h.relative hp hcs, hinward,
      .inl ⟨hcs, Path.endsInSlash_join h.relative hp⟩⟩

section Pattern

variable {d : ProperDisk} {dir q : Path} {p : String} {l names : List String} {bytes : ByteArray}

theorem expand_join {d : Disk} {cs : List Component} (hrelative : (Path.mk p).isAbsolute = false)
    (hcs : components (Path.join ⟨escape dir.text⟩ ⟨p⟩) = .ok cs) :
    expand d (Path.join ⟨escape dir.text⟩ ⟨p⟩) =
      match d.entry (origin dir) with
      | .ok e => (walk d (Disk.endsInSlash (Path.join ⟨escape dir.text⟩ ⟨p⟩)) cs (origin dir)
          e).mapM id
      | .error _ => .ok [] := by
  have horigin : (if (Path.join ⟨escape dir.text⟩ ⟨p⟩).isAbsolute then (⟨"/"⟩ : Path) else ⟨"."⟩) =
      origin dir := by
    rw [Path.isAbsolute_join hrelative, isAbsolute_escape]
    rfl
  rw [expand, hcs]
  simp only [bind, Except.bind, horigin]
  rfl

theorem mem_matched {d : Disk} (hread : IsReadable d dir p) {cs : List Component}
    (hrelative : (Path.mk p).isAbsolute = false)
    (hcs : components (Path.join ⟨escape dir.text⟩ ⟨p⟩) = .ok cs) :
    q ∈ matched d dir p ↔ ∃ e, d.entry (origin dir) = .ok e ∧
      .ok q ∈ walk d (Disk.endsInSlash (Path.join ⟨escape dir.text⟩ ⟨p⟩)) cs (origin dir) e := by
  have hexpand := hread.expand_eq
  rw [expand_join hrelative hcs] at hexpand
  cases horigin : d.entry (origin dir) with
  | ok e =>
    rw [horigin] at hexpand
    simpa using Outcome.mem_of_mapM_id hexpand
  | error cause =>
    rw [horigin] at hexpand
    simp [← Except.ok.inj hexpand]

/-- The empty pattern stands for no file. -/
theorem not_matches_empty (hfile : d.HasFile (l ++ names)) {cs : List Component}
    (hcs : components ⟨""⟩ = .ok cs) : ¬ Matches cs names := by
  obtain ⟨bytes, hfile⟩ := hfile
  have hempty : components ⟨""⟩ = .ok [.literal ""] := by with_unfolding_all decide
  cases hcs.symm.trans hempty
  intro hmatches
  cases hmatches with
  | stay _ hdir hrest =>
    cases hrest
    cases hdir rfl
  | name _ hn hrest =>
    cases hrest
    cases beq_iff_eq.mp hn
    exact (d.proper.isName_of_at? hfile).nonempty rfl

theorem checkPath_origin (dir : Path) : Disk.checkPath (origin dir) = .ok () := by
  unfold origin
  split <;> decide

theorem origin_eq_dot_iff : origin dir = dot ↔ dir.isAbsolute = false := by
  unfold origin
  split
  · simp_all [dot]
  · simp_all

theorem pieces_join_of_relative (hrelative : (Path.mk p).isAbsolute = false)
    (hdir : dir.isAbsolute = false) : (dir.join ⟨p⟩).pieces = base dir ++ Path.pieces ⟨p⟩ := by
  rw [Path.pieces_join dir hrelative, base, hdir, if_neg Bool.false_ne_true]

/-- A pattern has a file in its reach if a walk has come to it, as the walk has met no gap and the
system takes the path. -/
theorem isInReach_of_reaches (hrelative : (Path.mk p).isAbsolute = false) (hne : p ≠ "")
    {cs : List Component} (hcs : components ⟨p⟩ = .ok cs) {start : List String} {path : Path}
    {e : Entry} (ha : Arrives d (base dir) (origin dir) start path l e)
    (hr : Reaches d cs path l q names (.file bytes) []) (hlocate : d.locate q = .ok (l ++ names)) :
    IsInReach dir names p := by
  constructor
  · intro hdir
    rw [Bool.eq_false_iff, pieces_join_of_relative hrelative hdir]
    intro hgapped
    obtain ⟨hdot, hgapped⟩ := ha.gapless (origin_eq_dot_iff.mpr hdir) _ (Path.pieces_ne_nil ⟨p⟩)
      hgapped
    exact hr.gapless hdot ((gapped_pieces_iff hrelative hne hcs).mp hgapped)
  · intro cs' hcs'
    cases hcs.symm.trans hcs'
    have hshort := (Disk.checkPath_eq_ok.mp (Disk.locate_eq_ok.mp hlocate).1).2
    rw [arrival, ← ha.path_eq, ← hr.extent_eq, extent, hr.stands.size_lead_of_file]
    simp only [size, idleFrom, List.dropWhile_nil, idle, ite_self]
    omega

/-- Every file that a pattern gives is below the directory, and the pattern stands for the names
that lead there and has the file in its reach. -/
theorem IsInward.exists_of_mem_matched (hp : IsInward p) (hread : IsReadable d dir p)
    (hq : q ∈ matched d dir p) (hfile : d.isFile q) :
    ∃ l names, d.IsDirAt dir l ∧ d.HasFile (l ++ names) ∧ d.locate q = .ok (l ++ names) ∧
      q.components = behind dir names ∧ IsMatchedBy names p ∧ IsInReach dir names p := by
  obtain ⟨cs, hcs, hinward, halone⟩ := hp.exists_components dir
  obtain ⟨e, hentry, hq⟩ := (mem_matched hread hp.relative hcs).mp hq
  have horigin := stands_origin (entry_origin.mp hentry).1 (entry_origin.mp hentry).2
  rcases horigin.exists_arrives_of_mem (fun s hs => slash_notMem_of_mem_base hs) hq with
    ⟨path', l, e', ha, hq⟩ | ⟨_, _, _, _, _, _, ⟨_, _, hx⟩, _, _⟩
  swap
  · cases hx
  have hleads := ha.leads
  have htrail := ha.trail
  rw [filter_base] at hleads htrail
  rw [← trail_eq_origin] at htrail
  obtain ⟨q', names, found, rest, hr, hy⟩ := ha.stands.exists_reaches hinward hq
  obtain ⟨hq', hdone⟩ : q' = q ∧ (found.isDir = false → rest = [] ∧
      Disk.endsInSlash (Path.join ⟨escape dir.text⟩ ⟨p⟩) = false) := by
    cases hy with
    | found hneed => exact ⟨rfl, fun hf => ⟨rfl, by simpa [hf] using hneed⟩⟩
    | dir hdir => exact ⟨rfl, fun hf => by simp [hf] at hdir⟩
    | fails _ _ hfails =>
      obtain ⟨_, _, hx⟩ := hfails
      cases hx
  subst hq'
  obtain ⟨bytes, rfl⟩ := hr.stands.exists_file hfile
  obtain ⟨rfl, hneed⟩ := hdone rfl
  rcases halone with ⟨hcs, hslash⟩ | ⟨_, hslash⟩
  swap
  · cases hneed.symm.trans hslash
  have hhasFile : d.HasFile (l ++ names) := ⟨bytes, hr.stands.entry⟩
  have hlocate := hr.stands.locate_eq hfile
  have hnames : names ≠ [] := by
    rintro rfl
    cases hr.leads with
    | done => exact components_ne_nil hcs rfl
    | stay _ hdir _ => cases hdir rfl
  have hdir : e'.isDir := by
    have hat := hr.stands.entry
    rw [Entry.at?_append, ha.stands.entry, Option.bind_some] at hat
    exact Entry.isDir_of_at? hnames hat
  have hne : p ≠ "" := by
    rintro rfl
    exact not_matches_empty hhasFile hcs hr.leads
  refine ⟨l, names, ⟨hleads, ?_⟩, hhasFile, hlocate, ?_,
    ⟨hslash.symm.trans hneed, cs, hcs, hr.leads⟩,
    isInReach_of_reaches hp.relative hne hcs ha hr hlocate⟩
  · simp [Entry.hasDir, ha.stands.entry, hdir]
  · rw [hr.stands.components_of_file, hr.trail, htrail, behind]

/-- A pattern gives every file below the directory for which it stands and that is in its reach. -/
theorem IsInward.exists_mem_matched (hp : IsInward p) (hread : IsReadable d dir p)
    (hdir : d.IsDirAt dir l) (hfile : d.HasFile (l ++ names))
    (hmatched : IsMatchedBy names p) (hreach : IsInReach dir names p) :
    ∃ q ∈ matched d dir p, d.isFile q ∧ q.components = behind dir names := by
  obtain ⟨hslash, cs, hcs, hmatches⟩ := hmatched
  obtain ⟨_, hreadable, hup⟩ := hp.readable
  cases hcs.symm.trans hreadable
  have hinward : ∀ c ∈ cs, c.IsInward := fun c hc => isInward_of_leadsUp hcs hc (hup c hc)
  have hne : p ≠ "" := by
    rintro rfl
    exact not_matches_empty hfile hcs hmatches
  obtain ⟨e, hat, he⟩ : ∃ e, d.root.at? (d.start dir) = some e ∧ e.isDir := by
    simpa [Entry.hasDir, Option.any_eq_true] using hasDir_of_foldlM hdir.leads hdir.isDir
  obtain ⟨path', e', ha, hgap, hwalk⟩ :=
    (stands_origin hat he).exists_arrives (fun s hs => slash_notMem_of_mem_base hs)
      (Path.pieces_ne_nil ⟨p⟩) (filter_base dir ▸ hdir.leads) hdir.isDir fun hdot => by
        have hrelative := origin_eq_dot_iff.mp hdot
        rw [← pieces_join_of_relative hp.relative hrelative]
        exact hreach.gapless hrelative
  obtain ⟨bytes, hfile⟩ := hfile
  rw [Entry.at?_append, ha.stands.entry, Option.bind_some] at hfile
  have hnames : names ≠ [] := by
    rintro rfl
    have hisDir := hdir.isDir
    cases hfile
    simp [Entry.hasDir, ha.stands.entry, Entry.isDir] at hisDir
  have hfits := hreach.fits cs hcs
  rw [arrival, ← ha.path_eq] at hfits
  have hroom : (lead path').utf8ByteSize < 4096 := by
    have hpos := size_pos hnames
    unfold extent at hfits
    omega
  obtain ⟨q, hr, hwalk'⟩ := Leads.exists_reaches hmatches hinward ha.stands hfile rfl
    (ha.stands.checkPath_of_lt hroom) hfits fun hdot hgapped => by
      simpa [hgap hdot] using (gapped_pieces_iff hp.relative hne hcs).mpr hgapped
  refine ⟨q, ?_, ?_, ?_⟩
  · refine (mem_matched hread hp.relative (components_join dir hp.relative hne hcs)).mpr
      ⟨e, entry_origin.mpr ⟨hat, he⟩, ?_⟩
    rw [Path.endsInSlash_join hp.relative hne, hslash]
    exact hwalk hroom (checkPath_origin dir)
      (hwalk' (mem_walk_nil.mpr ⟨fun h => absurd h Bool.false_ne_true, rfl⟩))
  · refine Disk.isFile_iff.mpr ⟨bytes, hr.stands.entry_eq ?_⟩
    rw [← hr.extent_eq, extent, hr.stands.size_lead_of_file] at hfits
    rw [hr.stands.checkPath_eq, if_pos (by omega)]
  · rw [hr.stands.components_of_file, hr.trail, ha.trail, filter_base, ← trail_eq_origin, behind]

/-- A walk over a proper disk fails at a directory whose path is too long. -/
theorem Stands.of_fails {e : Entry} {err : Error} (h : Stands d q l e) (hdir : e.isDir)
    (hfails : Fails q (.error err)) :
    err = .glob q.text .nameTooLong ∧ d.IsDirAt q l ∧ 4096 ≤ q.text.utf8ByteSize := by
  obtain ⟨cause, hcheck, herr⟩ := hfails
  rw [h.checkPath_eq] at hcheck
  split at hcheck
  · cases hcheck
  · rename_i hlong
    cases hcheck
    cases herr
    exact ⟨rfl, ⟨h.leads, by simp [Entry.hasDir, h.entry, hdir]⟩, Nat.le_of_not_lt hlong⟩

/-- A pattern fails only at a directory whose path is too long: the directory in front, or one below
it that the pattern has read. -/
theorem IsInward.exists_of_expand_eq_error (hp : IsInward p) {err : Error}
    (h : expand d (Path.join ⟨escape dir.text⟩ ⟨p⟩) = .error err) :
    (∃ q l, err = .glob q.text .nameTooLong ∧ d.IsDirAt q l ∧ 4096 ≤ q.text.utf8ByteSize) ∧
    ((lead (arrival dir)).utf8ByteSize < 4096 → ∃ l names cs, d.IsDirAt dir l ∧
      d.root.hasDir (l ++ names) ∧ IsOpenedBy names p ∧ components ⟨p⟩ = .ok cs ∧
      4096 ≤ extent (arrival dir) names cs) := by
  obtain ⟨cs, hcs, hinward, halone⟩ := hp.exists_components dir
  rw [expand_join hp.relative hcs] at h
  split at h
  swap
  · cases h
  rename_i e hentry
  obtain ⟨x, hx, rfl⟩ := Outcome.exists_of_mapM_eq_error h
  have horigin := stands_origin (entry_origin.mp hentry).1 (entry_origin.mp hentry).2
  rcases horigin.exists_arrives_of_mem (fun s hs => slash_notMem_of_mem_base hs) hx with
    ⟨path', l, e', ha, hx⟩ | ⟨q, l, e', rest, hq, hdir, hfails, hrest, hfold⟩
  · obtain ⟨q, names, found, rest, hr, hy⟩ := ha.stands.exists_reaches hinward hx
    cases hy with
    | @fails c rest x hwild hdir hfails =>
      obtain ⟨herr, hdirAt, hlong⟩ := hr.stands.of_fails hdir hfails
      rcases halone with ⟨hcs, -⟩ | ⟨hempty, -⟩
      swap
      · cases hempty c (hr.leads.subset List.mem_cons_self)
        cases hwild
      refine ⟨⟨q, _, herr, hdirAt, hlong⟩, fun _ => ⟨l, names, cs, ⟨?_, ?_⟩, hdirAt.isDir,
        ⟨cs, hcs, c, rest, hwild, hdir ▸ hr.leads⟩, hcs, ?_⟩⟩
      · rw [← filter_base]
        exact ha.leads
      · exact Entry.hasDir_of_front hdirAt.isDir (List.prefix_append ..)
      · by_contra hlt
        rw [arrival, ← ha.path_eq, ← hr.extent_eq, Nat.not_le] at hlt
        have hcheck := hr.stands.checkPath_of_lt
          (Nat.lt_of_le_of_lt (Nat.le_trans (Nat.le_add_right ..) (Nat.le_add_right ..)) hlt)
        obtain ⟨_, hnot, _⟩ := hfails
        cases hnot.symm.trans hcheck
  · obtain ⟨herr, hdirAt, hlong⟩ := hq.of_fails hdir hfails
    refine ⟨⟨q, l, herr, hdirAt, hlong⟩, fun hshort => ?_⟩
    obtain ⟨_, hnot, _⟩ := hfails
    cases hnot.symm.trans (hq.checkPath_of_foldl hrest (hfold ▸ hshort))

end Pattern

/-! ### Lists of patterns -/

theorem behind_injective (dir : Path) : Function.Injective (behind dir) :=
  fun _ _ h => Path.map_name_injective (List.append_cancel_left h)

section Patterns

variable {d : ProperDisk} {dir : Path} {patterns : List String} {paths : List Path}
  {l names : List String}

/-- Patterns give a list if the system takes the paths of the directories that they have read. -/
theorem AreOpenable.exists_files (h : AreOpenable d dir patterns)
    (hp : ∀ p ∈ patterns, IsInward p) : ∃ paths, files d dir patterns = .ok paths := by
  cases hfiles : files d dir patterns with
  | ok paths => exact ⟨paths, rfl⟩
  | error err =>
    obtain ⟨p, hpattern, herr⟩ := exists_of_files_eq_error hfiles
    obtain ⟨l, names, cs, hdir, hbelow, hopened, hcs, hlong⟩ :=
      ((hp p hpattern).exists_of_expand_eq_error herr).2 h.start
    exact absurd (h.below l names hdir hbelow p hpattern hopened cs hcs) (Nat.not_lt.mpr hlong)

/-- Every file of the list is below the directory, and some pattern stands for it and has it in its
reach. -/
theorem exists_of_mem_files (h : files d dir patterns = .ok paths)
    (hp : ∀ p ∈ patterns, IsInward p) {q : Path} (hq : q ∈ paths) :
    ∃ l names, d.IsDirAt dir l ∧ d.HasFile (l ++ names) ∧ d.locate q = .ok (l ++ names) ∧
      q.components = behind dir names ∧ HaveInReach dir patterns names := by
  obtain ⟨hfile, p, hpattern, hq⟩ := (lists_of_files h).sound q hq
  obtain ⟨l, names, hdir, hhasFile, hlocate, hbehind, hmatched⟩ :=
    (hp p hpattern).exists_of_mem_matched (isReadable_of_files h p hpattern) hq hfile
  exact ⟨l, names, hdir, hhasFile, hlocate, hbehind, p, hpattern, hmatched⟩

/-- The list has a path for the files that some pattern has in its reach. -/
theorem behind_mem_files_iff (h : files d dir patterns = .ok paths)
    (hp : ∀ p ∈ patterns, IsInward p) (hdir : d.IsDirAt dir l) :
    behind dir names ∈ paths.map Path.components ↔
      d.HasFile (l ++ names) ∧ HaveInReach dir patterns names := by
  rw [List.mem_map]
  constructor
  · rintro ⟨q, hq, hcomponents⟩
    obtain ⟨l', names', hdir', hhasFile, -, hbehind, hreach⟩ := exists_of_mem_files h hp hq
    cases hdir.unique hdir'
    cases behind_injective dir (hcomponents.symm.trans hbehind)
    exact ⟨hhasFile, hreach⟩
  · rintro ⟨hhasFile, p, hpattern, hmatched, hreach⟩
    obtain ⟨q, hq, hfile, hbehind⟩ := (hp p hpattern).exists_mem_matched
      (isReadable_of_files h p hpattern) hdir hhasFile hmatched hreach
    obtain ⟨q', hq', hsame⟩ := (lists_of_files h).complete p hpattern q hq hfile
    exact ⟨q', hq', hsame.trans hbehind⟩

theorem exists_locate_iff (h : files d dir patterns = .ok paths)
    (hp : ∀ p ∈ patterns, IsInward p) (hdir : d.IsDirAt dir l) :
    (∃ q ∈ paths, d.locate q = .ok (l ++ names)) ↔
      behind dir names ∈ paths.map Path.components := by
  rw [List.mem_map]
  refine exists_congr fun q => and_congr_right fun hq => ?_
  obtain ⟨l', names', hdir', -, hlocate, hbehind, -⟩ := exists_of_mem_files h hp hq
  cases hdir.unique hdir'
  rw [hlocate, hbehind, (behind_injective dir).eq_iff, Except.ok.injEq, List.append_cancel_left_eq]

end Patterns

/-! ### Renamed directories -/

/-- The order of files below a directory. -/
def Before (names names' : List String) : Prop :=
  Path.leComponents (names.map .name) (names'.map .name) ∧ names ≠ names'

theorem precedes_iff_before {dir p q : Path} {names names' : List String}
    (hp : p.components = behind dir names) (hq : q.components = behind dir names') :
    p.Precedes q ↔ Before names names' := by
  rw [Path.Precedes, Path.le, hp, hq, (behind_injective dir).ne_iff, behind, behind,
    Path.leComponents_append]
  rfl

/-- The list is one of files below the directory, in their order. -/
theorem exists_names_of_files {d : ProperDisk} {dir : Path} {patterns : List String}
    {paths : List Path} (h : files d dir patterns = .ok paths) (hp : ∀ p ∈ patterns, IsInward p) :
    ∃ rels : List (List String), rels.Pairwise Before ∧
      paths.map Path.components = rels.map (behind dir) := by
  have hpaths : ∀ q ∈ paths, ∃ names, q.components = behind dir names := by
    intro q hq
    obtain ⟨_, names, -, -, -, hbehind, -⟩ := exists_of_mem_files h hp hq
    exact ⟨names, hbehind⟩
  choose! names hnames using hpaths
  refine ⟨paths.map names, ?_, ?_⟩
  · rw [List.pairwise_map]
    refine (lists_of_files h).ascends.imp_of_mem fun {p q} hp hq hpq => ?_
    exact (precedes_iff_before (hnames p hp) (hnames q hq)).mp hpq
  · rw [List.map_map]
    exact List.map_congr_left hnames

theorem eq_of_pairwise_before {rels rels' : List (List String)} (h : rels.Pairwise Before)
    (h' : rels'.Pairwise Before) (hsame : ∀ names, names ∈ rels ↔ names ∈ rels') :
    rels = rels' := by
  have : Std.Irrefl Before := ⟨fun _ h => h.2 rfl⟩
  have : Std.Antisymm Before :=
    ⟨fun _ _ h h' => Path.map_name_injective (Path.leComponents_antisymm h.1 h'.1)⟩
  exact List.Pairwise.eq_of_mem_iff h h' hsame

/-- Patterns below a directory give a list if the system takes the paths of the directories that
they have read, and else they fail at one that it does not take. The list has files of that very
directory, and of these exactly the ones for which some pattern stands that has them in its reach.
Below another directory with the same in it, on this disk or on another one, and with the same files
in reach, it is a list of the same files behind the path of that directory. -/
theorem files_lie_below (d : ProperDisk) (dir : Path) {patterns : List String}
    (hp : ∀ p ∈ patterns, IsInward p) :
    (AreOpenable d dir patterns → ∃ paths, files d dir patterns = .ok paths) ∧
    (∀ err, files d dir patterns = .error err → ∃ q l, err = .glob q.text .nameTooLong ∧
      d.IsDirAt q l ∧ 4096 ≤ q.text.utf8ByteSize) ∧
    ∀ paths, files d dir patterns = .ok paths →
      (∀ q ∈ paths, ∃ l names, d.IsDirAt dir l ∧ d.HasFile (l ++ names) ∧
        d.locate q = .ok (l ++ names) ∧ q.components = behind dir names) ∧
      (∀ l names, d.IsDirAt dir l → d.HasFile (l ++ names) →
        ((∃ q ∈ paths, d.locate q = .ok (l ++ names)) ↔
          ∃ p ∈ patterns, IsMatchedBy names p ∧ IsInReach dir names p)) ∧
      ∀ (d' : ProperDisk) (dir' : Path) (l l' : List String) (paths' : List Path),
        d.IsDirAt dir l → d'.IsDirAt dir' l' → d'.root.at? l' = d.root.at? l →
        files d' dir' patterns = .ok paths' →
        (∀ names, d.HasFile (l ++ names) →
          (HaveInReach dir patterns names ↔ HaveInReach dir' patterns names)) →
        ∃ rels : List (List String), paths.map Path.components = rels.map (behind dir) ∧
          paths'.map Path.components = rels.map (behind dir') := by
  refine ⟨fun h => h.exists_files hp, fun err herr => ?_, fun paths hfiles =>
    ⟨fun q hq => ?_, ?_, ?_⟩⟩
  · obtain ⟨p, hpattern, herr⟩ := exists_of_files_eq_error herr
    exact ((hp p hpattern).exists_of_expand_eq_error herr).1
  · obtain ⟨l, names, hdir, hfile, hlocate, hbehind, -⟩ := exists_of_mem_files hfiles hp hq
    exact ⟨l, names, hdir, hfile, hlocate, hbehind⟩
  · intro l names hdir hfile
    rw [exists_locate_iff hfiles hp hdir, behind_mem_files_iff hfiles hp hdir]
    exact and_iff_right hfile
  · intro d' dir' l l' paths' hdir hdir' hsame hfiles' hreach
    obtain ⟨rels, hbefore, hrels⟩ := exists_names_of_files hfiles hp
    obtain ⟨rels', hbefore', hrels'⟩ := exists_names_of_files hfiles' hp
    have hfile (names : List String) : d'.HasFile (l' ++ names) ↔ d.HasFile (l ++ names) := by
      simp only [Disk.HasFile, Entry.at?_append, hsame]
    -- both lists are in order and hold the names of the files in reach
    have heq : rels = rels' := by
      refine eq_of_pairwise_before hbefore hbefore' fun names => ?_
      rw [← List.mem_map_of_injective (behind_injective dir), ← hrels,
        behind_mem_files_iff hfiles hp hdir,
        ← List.mem_map_of_injective (behind_injective dir'), ← hrels',
        behind_mem_files_iff hfiles' hp hdir', hfile]
      exact and_congr_right (hreach names)
    exact ⟨rels, hrels, heq ▸ hrels'⟩

/-- A disk with a directory whose name has brackets, and a file beside it. -/
def yard : ProperDisk where
  root := .dir [("Outside.yml", .file .empty),
    ("proj[v1]", .dir [("defs", .dir [("Order.yml", .file .empty), ("notes.txt", .file .empty)])])]
  here := []

theorem isDirAt_yard : yard.IsDirAt ⟨"proj[v1]"⟩ ["proj[v1]"] := ⟨rfl, rfl⟩

/-- The part of a pattern that stands for the names of documents. -/
def documents : List Token := [.anyText, .char '.', .char 'y', .char 'm', .char 'l']

theorem components_defs :
    components ⟨"defs/*.yml"⟩ = .ok [.literal "defs", .wildcard documents] := by
  with_unfolding_all decide

theorem isInward_defs : IsInward "defs/*.yml" :=
  ⟨by decide, _, components_defs, by decide⟩

/-- The pattern stands for names of documents alone. -/
theorem isMatchedBy_defs {name : String} :
    IsMatchedBy ["defs", name] "defs/*.yml" ↔ isMatch documents name.toList := by
  constructor
  · rintro ⟨-, cs, hcs, hmatches⟩
    cases components_defs.symm.trans hcs
    cases hmatches with
    | stay hs => exact absurd hs (by decide)
    | name _ _ hrest =>
      cases hrest with
      | name _ hn _ => exact hn
  · intro hname
    exact ⟨by decide, _, components_defs,
      .name nofun (by decide) (.name nofun hname .done)⟩

/-- The pattern has one directory read. -/
theorem eq_of_isOpenedBy_defs {names : List String} (h : IsOpenedBy names "defs/*.yml") :
    names = ["defs"] := by
  obtain ⟨cs, hcs, c, rest, hwild, hleads⟩ := h
  cases components_defs.symm.trans hcs
  cases hleads with
  | done => cases hwild
  | stay hs => exact absurd hs (by decide)
  | name _ hn hrest =>
    cases beq_iff_eq.mp hn
    cases hrest with
    | done => rfl
    | name _ _ hrest => cases hrest

theorem isInReach_defs {name : String} (h : extent (arrival ⟨"proj[v1]"⟩) ["defs", name]
    [.literal "defs", .wildcard documents] ≤ 4096) :
    IsInReach ⟨"proj[v1]"⟩ ["defs", name] "defs/*.yml" := by
  refine ⟨fun _ => by decide, fun cs hcs => ?_⟩
  cases components_defs.symm.trans hcs
  exact h

theorem areOpenable_yard : AreOpenable yard ⟨"proj[v1]"⟩ ["defs/*.yml"] := by
  refine ⟨by decide, fun l names _ _ => List.forall_mem_singleton.mpr fun hopened cs hcs => ?_⟩
  cases eq_of_isOpenedBy_defs hopened
  cases components_defs.symm.trans hcs
  decide

theorem files_lie_below_yard :
    ∃ paths, files yard ⟨"proj[v1]"⟩ ["defs/*.yml"] = .ok paths ∧
      (∃ q ∈ paths, yard.locate q = .ok ["proj[v1]", "defs", "Order.yml"]) ∧
      ¬ ∃ q ∈ paths, yard.locate q = .ok ["proj[v1]", "defs", "notes.txt"] := by
  have hp : ∀ p ∈ ["defs/*.yml"], IsInward p := List.forall_mem_singleton.mpr isInward_defs
  obtain ⟨hsucceeds, -, hlist⟩ := files_lie_below yard ⟨"proj[v1]"⟩ hp
  obtain ⟨paths, hfiles⟩ := hsucceeds areOpenable_yard
  obtain ⟨-, hiff, -⟩ := hlist paths hfiles
  refine ⟨paths, hfiles, ?_, ?_⟩
  · refine (hiff ["proj[v1]"] ["defs", "Order.yml"] isDirAt_yard ⟨_, rfl⟩).mpr
      ⟨_, List.mem_singleton_self _, isMatchedBy_defs.mpr ?_, isInReach_defs (by decide)⟩
    with_unfolding_all decide
  · intro hnotes
    obtain ⟨p, hpattern, hmatched, -⟩ :=
      (hiff ["proj[v1]"] ["defs", "notes.txt"] isDirAt_yard ⟨_, rfl⟩).mp hnotes
    rw [List.mem_singleton.mp hpattern, isMatchedBy_defs] at hmatched
    exact absurd hmatched (by with_unfolding_all decide)

/-! ### Directories in directories -/

/-- Directories in one another, with an entry at the bottom. -/
def shaft (bottom : Entry) : Nat → Entry
  | 0 => bottom
  | n + 1 => .dir [("a", shaft bottom n)]

section Shaft

variable {bottom : Entry} {d : ProperDisk}

theorem isProper_shaft (h : bottom.IsProper) (n : Nat) : (shaft bottom n).IsProper := by
  induction n with
  | zero => exact h
  | succ n ih =>
    have hname : IsName "a" := by decide
    exact .dir (List.nodup_singleton _) (List.forall_mem_singleton.mpr hname)
      (List.forall_mem_singleton.mpr ih)

theorem at?_shaft (n : Nat) (names : List String) :
    (shaft bottom n).at? (List.replicate n "a" ++ names) = bottom.at? names := by
  induction n with
  | zero => rfl
  | succ n ih => exact ih

/-- The directories of a shaft are above its bottom. -/
theorem size_le_of_hasDir_shaft (h : ∀ names, bottom.hasDir names → names = []) {n : Nat}
    {names : List String} (hdir : (shaft bottom n).hasDir names) : size names ≤ 2 * n := by
  induction n generalizing names with
  | zero =>
    rw [h names hdir]
    exact Nat.le_refl 0
  | succ n ih =>
    cases names with
    | nil => exact Nat.zero_le _
    | cons name names =>
      by_cases hname : name = "a"
      · subst hname
        have hsize : ("a" : String).utf8ByteSize = 1 := by decide
        have hle := ih hdir
        rw [size, hsize]
        omega
      · simp [Entry.hasDir, shaft, Entry.at?, lookup_cons_eq, hname] at hdir

/-- A walk through a shaft that is too deep fails. -/
theorem Stands.exists_error_of_shaft (visit : Path → String → Entry → Trace)
    (hbottom : bottom.isDir) {n : Nat} {path : Path} {l : List String}
    (h : Stands d path l (shaft bottom n)) (hdeep : size d.here + 4096 < size l + 2 * n) :
    ∃ err, .error err ∈ descend visit path (shaft bottom n) := by
  induction n generalizing path l with
  | zero =>
    have hlong : ¬ path.text.utf8ByteSize < 4096 := by
      have hsize := size_le_of_foldlM h.leads
      omega
    have hcheck := h.checkPath_eq
    rw [if_neg hlong] at hcheck
    cases bottom with
    | file bytes => cases hbottom
    | dir entries =>
      rw [shaft, descend_dir]
      exact ⟨_, mem_reading.mpr (.inl ⟨_, hcheck, rfl⟩)⟩
  | succ n ih =>
    rw [shaft, descend_dir]
    cases hcheck : Disk.checkPath path with
    | error cause => exact ⟨_, mem_reading.mpr (.inl ⟨_, hcheck, rfl⟩)⟩
    | ok _ =>
      obtain ⟨-, hbelow, -⟩ := h.child_of_mem (List.mem_singleton_self _)
      have hsize : size (l ++ ["a"]) = size l + 2 := by rw [size_append]; rfl
      obtain ⟨err, herr⟩ := ih hbelow (by omega)
      exact ⟨err, mem_reading.mpr (.inr ⟨hcheck, mem_descendAll.mpr
        ⟨"a", _, List.mem_singleton_self _, .inr herr⟩⟩)⟩

end Shaft

/-- A disk with a document below many directories. -/
def well : ProperDisk where
  root := shaft (.dir [("Deep.yml", .file .empty)]) 2047
  here := []
  proper := isProper_shaft (by decide) 2047

/-- A disk with a document beside many directories in one another. -/
def pit : ProperDisk where
  root := .dir [("Near.yml", .file .empty), ("a", shaft (.dir []) 2048)]
  here := []
  proper := .dir (by decide) (by decide) (List.forall_mem_cons.mpr
    ⟨.file _, List.forall_mem_singleton.mpr (isProper_shaft (by decide) 2048)⟩)

theorem components_deep : components ⟨"**/*.yml"⟩ = .ok [.anyDirs, .wildcard documents] := by
  with_unfolding_all decide

theorem isInward_deep : ∀ p ∈ ["**/*.yml"], IsInward p :=
  List.forall_mem_singleton.mpr ⟨by decide, _, components_deep, by decide⟩

/-- The pattern stands for documents below any directories. -/
theorem isMatchedBy_deep {name : String} (h : isMatch documents name.toList) (n : Nat) :
    IsMatchedBy (List.replicate n "a" ++ [name]) "**/*.yml" := by
  refine ⟨by decide, _, components_deep, ?_⟩
  induction n with
  | zero => exact .enter h .done
  | succ n ih => exact .skip ih

/-- The dot takes nothing in the paths that the pattern gives. -/
theorem extent_deep (names : List String) :
    extent (arrival ⟨"."⟩) names [.anyDirs, .wildcard documents] = size names := by
  rw [show arrival ⟨"."⟩ = dot by decide, extent, lead, if_pos rfl,
    idleFrom_cons (Component.ne_literal_of_isWild rfl _)]
  exact Nat.zero_add _

theorem isInReach_near : IsInReach ⟨"."⟩ ["Near.yml"] "**/*.yml" := by
  refine ⟨fun _ => by decide, fun cs hcs => ?_⟩
  cases components_deep.symm.trans hcs
  rw [extent_deep]
  decide

theorem size_replicate (n : Nat) : size (List.replicate n "a") = 2 * n := by
  induction n with
  | zero => rfl
  | succ n ih =>
    rw [List.replicate_succ, size, ih, show ("a" : String).utf8ByteSize = 1 by decide]
    omega

theorem areOpenable_well : AreOpenable well ⟨"."⟩ ["**/*.yml"] := by
  refine ⟨by decide, fun l names hdir hbelow => List.forall_mem_singleton.mpr fun _ cs hcs => ?_⟩
  have hroot : well.IsDirAt ⟨"."⟩ [] := ⟨rfl, rfl⟩
  cases hdir.unique hroot
  have hbottom (names : List String)
      (h : (Entry.dir [("Deep.yml", .file .empty)]).hasDir names) : names = [] := by
    cases names with
    | nil => rfl
    | cons name names =>
      by_cases hname : name = "Deep.yml"
      · subst hname
        cases names <;> cases h
      · simp [Entry.hasDir, Entry.at?, lookup_cons_eq, hname] at h
  have hsize : size names ≤ 2 * 2047 := size_le_of_hasDir_shaft hbottom hbelow
  cases components_deep.symm.trans hcs
  rw [extent_deep]
  omega

theorem exists_error_pit : ∃ err, files pit ⟨"."⟩ ["**/*.yml"] = .error err := by
  have hcs : components (Path.join ⟨escape "."⟩ ⟨"**/*.yml"⟩) =
      .ok [.literal ".", .anyDirs, .wildcard documents] := by with_unfolding_all decide
  cases hfiles : files pit ⟨"."⟩ ["**/*.yml"] with
  | error err => exact ⟨err, rfl⟩
  | ok paths =>
    have hexpand := (isReadable_of_files hfiles _ (List.mem_singleton_self _)).expand_eq
    rw [expand_join (by decide) hcs] at hexpand
    -- the walk stays at the dot and goes down the shaft from there
    have hdot : Stands pit dot [] pit.root := @stands_origin _ dot _ rfl rfl
    obtain ⟨-, hbelow, -⟩ := hdot.child_of_mem (.tail _ (.head _))
    obtain ⟨err, herr⟩ := hbelow.exists_error_of_shaft
      (enter pit false [.wildcard documents]) rfl (by decide)
    have hmem : .error err ∈ walk pit false [.literal ".", .anyDirs, .wildcard documents] dot
        pit.root := by
      refine mem_walk_literal.mpr ⟨pit.root, rfl, ?_⟩
      have hcheck : Disk.checkPath dot = .ok () := by decide
      rw [show below dot "." = dot by decide, walk_anyDirs, pit, descend_dir]
      exact mem_reading.mpr (.inr ⟨hcheck, mem_descendAll.mpr
        ⟨"a", _, .tail _ (.head _), .inr herr⟩⟩)
    obtain ⟨_, -, hok⟩ := Outcome.exists_of_mem_left (Outcome.mapM_eq_ok.mp hexpand) hmem
    cases hok

/-- A component with a dot in front and then a wildcard leads up, out of the directory; two slashes
behind a dot hide a directory and all that is in it; a document is left out if its path is too long;
and one directory whose path is too long hides all documents. -/
theorem files_astray :
    files yard ⟨"proj[v1]"⟩ [".*/Outside.yml"] = .ok [⟨"proj[v1]/../Outside.yml"⟩] ∧
    (files yard ⟨".//proj[v1]"⟩ ["defs/*.yml"] = .ok [] ∧
      yard.IsDirAt ⟨".//proj[v1]"⟩ ["proj[v1]"] ∧
      yard.HasFile (["proj[v1]"] ++ ["defs", "Order.yml"]) ∧
      IsMatchedBy ["defs", "Order.yml"] "defs/*.yml") ∧
    (∃ paths names, files well ⟨"."⟩ ["**/*.yml"] = .ok paths ∧
      well.IsDirAt ⟨"."⟩ [] ∧ well.HasFile ([] ++ names) ∧ IsMatchedBy names "**/*.yml" ∧
      ¬ ∃ q ∈ paths, well.locate q = .ok ([] ++ names)) ∧
    ((∃ q, files pit ⟨"."⟩ ["**/*.yml"] = .error (.glob q .nameTooLong)) ∧
      pit.IsDirAt ⟨"."⟩ [] ∧ pit.HasFile ([] ++ ["Near.yml"]) ∧
      IsMatchedBy ["Near.yml"] "**/*.yml" ∧ IsInReach ⟨"."⟩ ["Near.yml"] "**/*.yml") := by
  refine ⟨by with_unfolding_all decide, ⟨by with_unfolding_all decide, ⟨rfl, rfl⟩, ⟨_, rfl⟩,
    isMatchedBy_defs.mpr (by with_unfolding_all decide)⟩, ?_, ?_, ⟨rfl, rfl⟩, ⟨_, rfl⟩,
    isMatchedBy_deep (by with_unfolding_all decide) 0, isInReach_near⟩
  · obtain ⟨paths, hfiles⟩ := areOpenable_well.exists_files isInward_deep
    refine ⟨paths, List.replicate 2047 "a" ++ ["Deep.yml"], hfiles, ⟨rfl, rfl⟩,
      ⟨.empty, at?_shaft 2047 ["Deep.yml"]⟩,
      isMatchedBy_deep (by with_unfolding_all decide) 2047, ?_⟩
    rintro ⟨q, -, hlocate⟩
    have hsize := size_le_of_locate hlocate
    rw [List.nil_append, size_append, size_replicate] at hsize
    exact absurd hsize (by decide)
  · obtain ⟨err, herr⟩ := exists_error_pit
    obtain ⟨p, hpattern, hexpand⟩ := exists_of_files_eq_error herr
    obtain ⟨⟨q, -, rfl, -⟩, -⟩ :=
      (isInward_deep p hpattern).exists_of_expand_eq_error hexpand
    exact ⟨q.text, herr⟩

end Glob

end Stencil
