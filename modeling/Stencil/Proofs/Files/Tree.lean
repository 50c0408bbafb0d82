import Stencil.Proofs.Files.Joining

/-! Trees of files as they are on a disk.

The entries of a directory have names that a path can tell, and no two of them have the same one. So
what is listed in a directory is what is found under its name. -/

namespace Stencil

/-- A name that an entry of a directory may have. -/
structure IsName (s : String) : Prop where
  nonempty : s ≠ ""
  notHere : s ≠ "."
  notUp : s ≠ ".."
  slashless : '/' ∉ s.toList
  nulless : '\x00' ∉ s.toList
  short : Disk.isTooLong s = false

instance (s : String) : Decidable (IsName s) :=
  decidable_of_iff (s ≠ "" ∧ s ≠ "." ∧ s ≠ ".." ∧ '/' ∉ s.toList ∧ '\x00' ∉ s.toList ∧
      Disk.isTooLong s = false)
    ⟨fun ⟨h₁, h₂, h₃, h₄, h₅, h₆⟩ => ⟨h₁, h₂, h₃, h₄, h₅, h₆⟩,
      fun ⟨h₁, h₂, h₃, h₄, h₅, h₆⟩ => ⟨h₁, h₂, h₃, h₄, h₅, h₆⟩⟩

theorem Path.trail_name {s : String} (h : IsName s) :
    (segments ⟨s⟩).filterMap component? = [.name s] := by
  rw [segments_of_slashless h.slashless, if_neg h.nonempty, List.filterMap_cons_some
    (component?_of_name h.notHere h.notUp)]
  rfl

/-- A name that is joined to a path is one more component of it. -/
theorem Path.components_join_name (p : Path) {s : String} (h : IsName s) :
    (p.join ⟨s⟩).components = p.components ++ [.name s] := by
  have hrelative := isAbsolute_of_slashless h.slashless
  have hhead : (p.join ⟨s⟩).pieces.head? = some "." ↔ p.pieces.head? = some "." := by
    rw [pieces_join p hrelative, pieces_of_slashless h.slashless]
    by_cases hempty : p.text = ""
    · have hp : p = ⟨""⟩ := congrArg Path.mk hempty
      have hpieces : (Path.mk "").pieces = [""] := by decide
      simp [hp, front, hpieces, h.notHere]
    · have hne : p.front ≠ [] := by
        rw [Ne, ← List.head?_eq_none_iff, head?_front hempty, List.head?_eq_none_iff]
        exact p.pieces_ne_nil
      rw [List.head?_append_of_ne_nil _ hne, head?_front hempty]
  rw [components_eq, components_eq, trail_join hrelative, trail_name h, if_congr hhead rfl rfl,
    List.append_assoc]

namespace Entry

/-- What has something below it is a directory. -/
theorem isDir_of_at? {e : Entry} {names : List String} {found : Entry} (hne : names ≠ [])
    (hat : e.at? names = some found) : e.isDir := by
  cases e with
  | file bytes =>
    cases names with
    | nil => exact absurd rfl hne
    | cons name names => cases hat
  | dir entries => rfl

theorem at?_below {e top : Entry} {l : List String} (h : e.at? l = some top)
    (names : List String) : e.at? (l ++ names) = top.at? names := by
  rw [at?_append, h]
  rfl

theorem fileAt?_below {e top : Entry} {l : List String} (h : e.at? l = some top)
    (names : List String) : e.fileAt? (l ++ names) = top.fileAt? names := by
  rw [fileAt?, at?_below h, fileAt?]

theorem hasDir_below {e top : Entry} {l : List String} (h : e.at? l = some top)
    (names : List String) : e.hasDir (l ++ names) = top.hasDir names := by
  rw [hasDir, at?_below h, hasDir]

theorem exists_dir_of_below {e : Entry} {l names : List String} (hne : names ≠ [])
    (h : (e.at? (l ++ names)).isSome) : ∃ entries, e.at? l = some (.dir entries) := by
  obtain ⟨found, hfound⟩ := Option.isSome_iff_exists.mp h
  rw [at?_append] at hfound
  obtain ⟨top, htop, hfound⟩ := Option.bind_eq_some_iff.mp hfound
  cases top with
  | file bytes => cases isDir_of_at? hne hfound
  | dir entries => exact ⟨entries, htop⟩

/-- Every directory has entries of different names, and each of them may be a name. -/
inductive IsProper : Entry → Prop where
  | file (bytes : ByteArray) : IsProper (.file bytes)
  | dir {entries : List (String × Entry)} (distinct : (entries.map (·.1)).Nodup)
      (names : ∀ x ∈ entries, IsName x.1) (below : ∀ x ∈ entries, IsProper x.2) :
      IsProper (.dir entries)

theorem IsProper.at? {e : Entry} (h : e.IsProper) {l : List String} {found : Entry}
    (hfound : e.at? l = some found) : found.IsProper := by
  induction l generalizing e with
  | nil =>
    cases hfound
    exact h
  | cons name l ih =>
    cases h with
    | file bytes => cases hfound
    | dir distinct names below =>
      obtain ⟨e, hlookup, hat⟩ := Option.bind_eq_some_iff.mp hfound
      exact ih (below (name, e) (mem_of_lookup hlookup)) hat

/-- What is listed under a name is what is found there. -/
theorem IsProper.lookup_of_mem {entries : List (String × Entry)} (h : (Entry.dir entries).IsProper)
    {name : String} {found : Entry} (hmem : (name, found) ∈ entries) :
    entries.lookup name = some found := by
  cases h with
  | dir distinct names below =>
    refine Stencil.lookup_of_mem hmem fun other hother => ?_
    exact congrArg Prod.snd (List.inj_on_of_nodup_map distinct hother hmem rfl)

theorem IsProper.isName_of_mem {entries : List (String × Entry)} (h : (Entry.dir entries).IsProper)
    {name : String} {found : Entry} (hmem : (name, found) ∈ entries) : IsName name := by
  cases h with
  | dir distinct names below => exact names (name, found) hmem

theorem IsProper.of_mem {entries : List (String × Entry)} (h : (Entry.dir entries).IsProper)
    {name : String} {found : Entry} (hmem : (name, found) ∈ entries) : found.IsProper := by
  cases h with
  | dir distinct names below => exact below (name, found) hmem

theorem IsProper.isName_of_mem_names {e : Entry} (h : e.IsProper) {names : List String}
    {found : Entry} (hfound : e.at? names = some found) : ∀ s ∈ names, IsName s := by
  induction names generalizing e with
  | nil => nofun
  | cons s names ih =>
    cases e with
    | file bytes => cases hfound
    | dir entries =>
      obtain ⟨child, hlookup, hchild⟩ := Option.bind_eq_some_iff.mp hfound
      have hmem := mem_of_lookup hlookup
      exact List.forall_mem_cons.mpr ⟨h.isName_of_mem hmem, ih (h.of_mem hmem) hchild⟩

theorem IsProper.isName_of_at? {e : Entry} (h : e.IsProper) {l : List String} {name : String}
    {found : Entry} (hfound : e.at? (l ++ [name]) = some found) : IsName name :=
  h.isName_of_mem_names hfound name (by simp)

theorem isProper_dir_iff {entries : List (String × Entry)} : (Entry.dir entries).IsProper ↔
    (entries.map (·.1)).Nodup ∧ (∀ x ∈ entries, IsName x.1) ∧ ∀ x ∈ entries, x.2.IsProper :=
  ⟨fun | .dir distinct names below => ⟨distinct, names, below⟩, fun h => .dir h.1 h.2.1 h.2.2⟩

mutual

/-- Checks an entry and all that is below it. -/
def decidableIsProper : (e : Entry) → Decidable e.IsProper
  | .file bytes => .isTrue (.file bytes)
  | .dir entries =>
    have := decidableAreProper entries
    decidable_of_iff' _ isProper_dir_iff

/-- Checks the entries of a directory. -/
def decidableAreProper :
    (entries : List (String × Entry)) → Decidable (∀ x ∈ entries, x.2.IsProper)
  | [] => .isTrue nofun
  | (_, e) :: rest =>
    have := decidableIsProper e
    have := decidableAreProper rest
    decidable_of_iff' _ List.forall_mem_cons

end

instance : DecidablePred IsProper := decidableIsProper

end Entry

/-- A disk on which the entries of each directory have different names. -/
structure ProperDisk extends Disk where
  proper : root.IsProper := by decide

instance : Coe ProperDisk Disk := ⟨ProperDisk.toDisk⟩

end Stencil
