import Stencil.Proofs.Glob.Finding
import Stencil.Proofs.Glob.Reading

/-! Walks that start with an escaped directory.

The pieces of the directory lead a walk where they lead on the disk, whatever characters they are
written with. Only an empty piece stops a walk that has not left the working directory yet
(`gapped`). -/

namespace Stencil.Glob

/-! ### Components that do not lead up -/

/-- Whether a component may stand for the directory above. -/
def Component.leadsUp : Component → Bool
  | .literal s => s == ".."
  | .wildcard ts => (specials ts).contains ".."
  | .anyDirs => false

theorem mem_of_mem_collapse {c : Component} {cs : List Component} (h : c ∈ collapse cs) :
    c ∈ cs := by
  fun_induction collapse cs with
  | case1 rest ih => exact List.mem_cons_of_mem _ (ih h)
  | case2 first rest _ ih =>
    rcases List.mem_cons.mp h with rfl | h
    · exact List.mem_cons_self
    · exact List.mem_cons_of_mem _ (ih h)
  | case3 => exact h

theorem ofTokens_eq_literal {ts : List Token} {s : String}
    (h : Component.ofTokens ts = .literal s) : literal? ts = some s.toList := by
  unfold Component.ofTokens at h
  split at h
  · cases h
  · split at h
    · cases h
      rw [String.toList_ofList]
      assumption
    · cases h

theorem ofTokens_eq_wildcard {ts ts' : List Token}
    (h : Component.ofTokens ts = .wildcard ts') : ts' = ts ∧ literal? ts = none := by
  unfold Component.ofTokens at h
  split at h
  · cases h
  · split at h
    · cases h
    · cases h
      exact ⟨rfl, by assumption⟩

/-- A pattern that stands for a dot, but not only for it, stands for two dots too. -/
theorem specials_eq_nil {ts : List Token} (hwild : literal? ts = none)
    (hup : ".." ∉ specials ts) : specials ts = [] := by
  unfold specials at hup ⊢
  split
  · rename_i hhead
    obtain ⟨rest, rfl⟩ := List.head?_eq_some_iff.mp hhead
    rw [if_pos hhead] at hup
    have htwo : isMatch rest ['.'] = false := by
      simpa [isMatch_cons, Token.accepts] using hup
    have hone : isMatch rest [] = false := by
      cases rest with
      | nil => cases hwild
      | cons t rest =>
        cases t with
        | anyText =>
          rw [isMatch, Bool.or_eq_false_iff] at htwo
          exact htwo.2
        | _ => rw [isMatch]; simp
    simp [isMatch_cons, Token.accepts, hone, htwo]
  · rfl

/-- The components of a pattern are read from its pieces. -/
theorem exists_of_mem_components {pattern : Path} {cs : List Component}
    (h : components pattern = .ok cs) {c : Component} (hc : c ∈ cs) :
    ∃ piece ts, '/' ∉ piece ∧ tokens piece = .ok ts ∧ c = .ofTokens ts := by
  obtain ⟨_, parts, hparts, rfl⟩ := components_eq_ok.mp h
  obtain ⟨ts, hts, rfl⟩ := List.mem_map.mp (mem_of_mem_collapse hc)
  obtain ⟨piece, hpiece, htokens⟩ := Outcome.exists_of_mem_mapM hparts hts
  refine ⟨piece, ts, Path.slash_notMem_of_mem_splitOn (l := inner pattern) ?_, htokens, rfl⟩
  rw [pieces] at hpiece
  split at hpiece
  · exact List.dropLast_subset _ hpiece
  · exact hpiece

theorem collapse_ne_nil {cs : List Component} (h : cs ≠ []) : collapse cs ≠ [] := by
  fun_induction collapse cs with
  | case1 rest ih => exact ih (List.cons_ne_nil _ _)
  | case2 c rest _ ih => exact List.cons_ne_nil _ _
  | case3 => exact h

theorem components_ne_nil {pattern : Path} {cs : List Component} (h : components pattern = .ok cs) :
    cs ≠ [] := by
  obtain ⟨_, parts, hparts, rfl⟩ := components_eq_ok.mp h
  have hne := List.splitOn_ne_nil '/' (inner pattern)
  have hpieces : pieces (inner pattern) ≠ [] := by
    rw [pieces]
    split
    · rename_i hlong
      simp only [Bool.and_eq_true, decide_eq_true_eq] at hlong
      rw [← List.length_pos_iff, List.length_dropLast]
      omega
    · exact hne
  refine collapse_ne_nil (mt List.map_eq_nil_iff.mp ?_)
  rintro rfl
  exact hpieces (List.forall₂_nil_right_iff.mp (Outcome.mapM_eq_ok.mp hparts))

theorem isInward_of_leadsUp {pattern : Path} {cs : List Component} (h : components pattern = .ok cs)
    {c : Component} (hc : c ∈ cs) (hup : c.leadsUp = false) : c.IsInward := by
  obtain ⟨piece, ts, hslash, htokens, heq⟩ := exists_of_mem_components h hc
  cases c with
  | literal s =>
    have hpiece := eq_of_literal? htokens (ofTokens_eq_literal heq.symm)
    exact ⟨hpiece ▸ hslash, by simpa [Component.leadsUp] using hup⟩
  | wildcard ts' =>
    obtain ⟨rfl, hwild⟩ := ofTokens_eq_wildcard heq.symm
    exact specials_eq_nil hwild (by simpa [Component.leadsUp] using hup)
  | anyDirs => trivial

/-! ### Walking to the directory -/

/-- Whether an empty piece comes before any but dots, with another piece behind it. -/
def gapped : List String → Bool
  | s :: t :: rest => s == "" || s == "." && gapped (t :: rest)
  | _ => false

theorem gapped_cons (s : String) {names : List String} (h : names ≠ []) :
    gapped (s :: names) = (s == "" || s == "." && gapped names) := by
  cases names with
  | nil => exact absurd rfl h
  | cons t rest => rfl

theorem specials_exact {s : String} (h : s.toList.any isMeta) :
    specials (s.toList.map Token.exact) = [] := by
  have hnone (t : String) (ht : t.toList.any isMeta = false) :
      isMatch (s.toList.map Token.exact) t.toList = false := by
    rw [Bool.eq_false_iff]
    intro hmatch
    rw [isMatch_exact.mp hmatch, h] at ht
    cases ht
  rw [specials, List.filter_cons, hnone ".." rfl, List.filter_cons, hnone "." rfl]
  split <;> rfl

section Base

variable {d : Disk} {needDir : Bool} {path : Path} {l l' : List String} {e : Entry} {s : String}
  {cs : List Component} {x : Except Error Path}

theorem exists_at?_of_step (h : d.step l s = .ok l') : ∃ found, d.root.at? l' = some found := by
  obtain ⟨hdir, hl'⟩ := Disk.step_eq_ok.mp h
  have hhere : (d.root.at? l).isSome := Entry.isSome_at?_iff.mpr (.inl hdir)
  rw [← Option.isSome_iff_exists]
  split_ifs at hl' with hdot hup
  · exact hl' ▸ hhere
  · have hparent := Entry.hasDir_of_front hdir (List.dropLast_prefix l)
    exact hl' ▸ Entry.isSome_at?_iff.mpr (.inl hparent)
  · exact hl'.2.2 ▸ hl'.2.1

theorem hasDir_of_foldlM {names : List String} (h : names.foldlM d.step l = .ok l')
    (hdir : d.root.hasDir l') : d.root.hasDir l := by
  cases names with
  | nil =>
    cases h
    exact hdir
  | cons s names =>
    rw [List.foldlM_cons, Outcome.bind_eq_ok] at h
    obtain ⟨_, hstep, _⟩ := h
    exact (Disk.step_eq_ok.mp hstep).1

/-- An escaped piece leads a walk where the piece leads, or the walk fails there. -/
theorem Stands.of_mem_walk_exact {d : ProperDisk} (h : Stands d path l e)
    (hs : '/' ∉ s.toList) (hx : x ∈ walk d needDir (.exact s :: cs) path e) :
    e.isDir ∧ Fails path x ∨ ∃ l' found, (if s = "" then .ok l else d.step l s) = .ok l' ∧
      Stands d (Glob.below path s) l' found ∧ x ∈ walk d needDir cs (Glob.below path s) found := by
  rw [Component.exact_eq] at hx
  split at hx
  · rename_i hmeta
    obtain ⟨entries, rfl, hfails | ⟨-, name, found, hmem, hmatch, hx⟩⟩ :=
      (mem_walk_wildcard (specials_exact hmeta)).mp hx
    · exact .inl ⟨rfl, hfails⟩
    · cases String.toList_inj.mp (isMatch_exact.mp hmatch)
      obtain ⟨hname, hbelow, -⟩ := h.child_of_mem hmem
      have hstep := (step_of_isName hname h.entry ((d.proper.at? h.entry).lookup_of_mem hmem)).1
      exact .inr ⟨l ++ [s], found, by rw [if_neg hname.nonempty, hstep], hbelow, hx⟩
  · obtain ⟨found, hfound, hx⟩ := mem_walk_literal.mp hx
    obtain ⟨l', hleads, hbelow⟩ := h.below_of_entry hs hfound
    exact .inr ⟨l', found, hleads, hbelow, hx⟩

theorem Stands.mem_walk_exact {found : Entry} (h : Stands d path l e)
    (hcheck : Disk.checkPath path = .ok ())
    (hleads : (if s = "" then .ok l else d.step l s) = .ok l')
    (hbelow : Stands d (Glob.below path s) l' found)
    (hcheck' : Disk.checkPath (Glob.below path s) = .ok ())
    (hx : x ∈ walk d needDir cs (Glob.below path s) found) :
    x ∈ walk d needDir (.exact s :: cs) path e := by
  rw [Component.exact_eq]
  split
  · rename_i hmeta
    have hne (t : String) (ht : t.toList.any isMeta = false) : s ≠ t := by
      rintro rfl
      exact absurd hmeta (by simp [ht])
    rw [if_neg (hne "" rfl), Disk.step_eq_ok, if_neg (hne "." rfl), if_neg (hne ".." rfl)] at hleads
    obtain ⟨hdir, -, -, rfl⟩ := hleads
    have hfound := hbelow.entry
    rw [Entry.at?_append, h.entry, Option.bind_some] at hfound
    cases e with
    | file bytes => cases hfound
    | dir entries =>
      obtain ⟨child, hlookup, hchild⟩ := Option.bind_eq_some_iff.mp hfound
      cases hchild
      exact (mem_walk_wildcard (specials_exact hmeta)).mpr
        ⟨entries, rfl, .inr ⟨hcheck, s, found, mem_of_lookup hlookup, isMatch_exact.mpr rfl, hx⟩⟩
  · exact mem_walk_literal.mpr ⟨found, hbelow.entry_eq hcheck', hx⟩

theorem foldlM_filter_cons {s : String} {names : List String} :
    ((s :: names).filter (· ≠ "")).foldlM d.step l = .ok l' ↔
      ∃ m, (if s = "" then .ok l else d.step l s) = .ok m ∧
        (names.filter (· ≠ "")).foldlM d.step m = .ok l' := by
  by_cases hs : s = ""
  · simp [hs]
  · simp [hs, Outcome.bind_eq_ok]

/-- The system takes the path of a walk if it takes one to which the walk leads. -/
theorem Stands.checkPath_of_foldl {d : ProperDisk} (h : Stands d path l e) {names : List String}
    (hnames : ∀ s ∈ names, '/' ∉ s.toList)
    (hlt : (lead (names.foldl Glob.below path)).utf8ByteSize < 4096) :
    Disk.checkPath path = .ok () := by
  refine h.checkPath_of_lt ?_
  rcases h.tidy with rfl | hhead
  · decide
  · exact (size_lead_le_foldl h.written hhead hnames).trans_lt hlt

/-- A walk has followed the pieces of a directory. An empty piece would have stopped it at the
dot. -/
structure Arrives (d : Disk) (names : List String) (path : Path) (l : List String) (path' : Path)
    (l' : List String) (e' : Entry) : Prop where
  stands : Stands d path' l' e'
  leads : (names.filter (· ≠ "")).foldlM d.step l = .ok l'
  trail : path'.trail = path.trail ++ (names.filter (· ≠ "")).filterMap Path.component?
  path_eq : path' = names.foldl Glob.below path
  gapless : path = dot → ∀ rest ≠ [], gapped (names ++ rest) = true →
    path' = dot ∧ gapped rest = true

theorem Arrives.nil (h : Stands d path l e) : Arrives d [] path l path l e where
  stands := h
  leads := rfl
  trail := (List.append_nil _).symm
  path_eq := rfl
  gapless := fun hdot _ _ hgapped => ⟨hdot, hgapped⟩

theorem Arrives.cons (h : Stands d path l e) (hs : '/' ∉ s.toList) {m : List String}
    (hleads : (if s = "" then .ok l else d.step l s) = .ok m) {found : Entry}
    (hbelow : Stands d (Glob.below path s) m found) {names : List String} {path' : Path}
    {e' : Entry} (ha : Arrives d names (Glob.below path s) m path' l' e') :
    Arrives d (s :: names) path l path' l' e' where
  stands := ha.stands
  leads := foldlM_filter_cons.mpr ⟨m, hleads, ha.leads⟩
  trail := by
    rw [ha.trail, h.trail_below hs, Path.segments_of_slashless hs, List.append_assoc,
      ← List.filterMap_append]
    by_cases hempty : s = ""
    · simp [hempty]
    · simp [hempty]
  path_eq := ha.path_eq
  gapless := by
    rintro rfl rest hrest hgapped
    rw [List.cons_append, gapped_cons _ (List.append_ne_nil_of_right_ne_nil _ hrest),
      Bool.or_eq_true, Bool.and_eq_true, beq_iff_eq, beq_iff_eq] at hgapped
    rcases hgapped with rfl | ⟨rfl, hgapped⟩
    · exact absurd (congrArg Path.text (below_dot "")) hbelow.written
    · exact ha.gapless (by decide) rest hrest hgapped

/-- What a walk gives behind the pieces of a directory, it gives from where they lead, unless it
fails on the way there. -/
theorem Stands.exists_arrives_of_mem {d : ProperDisk} {names : List String}
    (hnames : ∀ s ∈ names, '/' ∉ s.toList) (h : Stands d path l e)
    (hx : x ∈ walk d needDir (names.map .exact ++ cs) path e) :
    (∃ path' l' e', Arrives d names path l path' l' e' ∧ x ∈ walk d needDir cs path' e') ∨
      ∃ (q : Path) (l' : List String) (e' : Entry) (rest : List String), Stands d q l' e' ∧
        e'.isDir ∧ Fails q x ∧ (∀ s ∈ rest, '/' ∉ s.toList) ∧
        rest.foldl Glob.below q = names.foldl Glob.below path := by
  induction names generalizing path l e with
  | nil => exact .inl ⟨path, l, e, .nil h, hx⟩
  | cons s names ih =>
    obtain ⟨hs, htail⟩ := List.forall_mem_cons.mp hnames
    rcases h.of_mem_walk_exact hs hx with ⟨hdir, hfails⟩ | ⟨m, found, hleads, hbelow, hx⟩
    · exact .inr ⟨path, l, e, s :: names, h, hdir, hfails, hnames, rfl⟩
    · rcases ih htail hbelow hx with ⟨path', l', e', ha, hx⟩ | hfails
      · exact .inl ⟨path', l', e', ha.cons h hs hleads hbelow, hx⟩
      · exact .inr hfails

/-- A walk follows the pieces of a directory, if no gap stops it and the system takes the path. -/
theorem Stands.exists_arrives {d : ProperDisk} {names rest : List String}
    (hnames : ∀ s ∈ names, '/' ∉ s.toList) (hrest : rest ≠ []) (h : Stands d path l e)
    (hleads : (names.filter (· ≠ "")).foldlM d.step l = .ok l') (hdir : d.root.hasDir l')
    (hgap : path = dot → gapped (names ++ rest) = false) :
    ∃ path' e', Arrives d names path l path' l' e' ∧ (path' = dot → gapped rest = false) ∧
      ∀ {needDir : Bool} {cs : List Component} {x : Except Error Path},
        (lead path').utf8ByteSize < 4096 → Disk.checkPath path = .ok () →
        x ∈ walk d needDir cs path' e' → x ∈ walk d needDir (names.map .exact ++ cs) path e := by
  induction names generalizing path l e with
  | nil =>
    cases hleads
    exact ⟨path, e, .nil h, hgap, fun _ _ => id⟩
  | cons s names ih =>
    obtain ⟨hs, hnames⟩ := List.forall_mem_cons.mp hnames
    obtain ⟨m, hstep, hfold⟩ := foldlM_filter_cons.mp hleads
    have hempty : s = "" → path ≠ dot := by
      rintro rfl hdot
      have hgap := hgap hdot
      rw [List.cons_append, gapped_cons _ (List.append_ne_nil_of_right_ne_nil _ hrest)] at hgap
      cases hgap
    -- an empty piece stays in the directory, and any other one leads where the disk has something
    have hnext : ∃ found, d.root.at? m = some found ∧ (s = "" → found.isDir) := by
      by_cases hs : s = ""
      · rw [if_pos hs] at hstep
        cases hstep
        refine ⟨e, h.entry, fun _ => ?_⟩
        simpa [Entry.hasDir, h.entry] using hasDir_of_foldlM hfold hdir
      · rw [if_neg hs] at hstep
        obtain ⟨found, hfound⟩ := exists_at?_of_step hstep
        exact ⟨found, hfound, fun h => absurd h hs⟩
    obtain ⟨found, hfound, hfoundDir⟩ := hnext
    have hbelow := h.below hs hempty hstep hfound hfoundDir
    have hgap : Glob.below path s = dot → gapped (names ++ rest) = false := by
      intro hdot
      obtain ⟨hpath, rfl⟩ := h.of_below_eq_dot hs hdot
      have hgap := hgap hpath
      rwa [List.cons_append, gapped_cons _ (List.append_ne_nil_of_right_ne_nil _ hrest)] at hgap
    obtain ⟨path', e', ha, hgap, hwalk⟩ := ih hnames hbelow hfold hgap
    refine ⟨path', e', ha.cons h hs hstep hbelow, hgap, fun hroom hcheck hx => ?_⟩
    have hcheck' := hbelow.checkPath_of_foldl hnames (ha.path_eq ▸ hroom)
    exact h.mem_walk_exact hcheck hstep hbelow hcheck' (hwalk hroom hcheck' hx)

end Base

/-! ### Texts of directories and patterns -/

theorem size_append (names names' : List String) :
    size (names ++ names') = size names + size names' := by
  induction names with
  | nil => exact (Nat.zero_add _).symm
  | cons s names ih =>
    rw [List.cons_append, size, size, ih]
    omega

/-- The pieces of a path take as much as its text and one more slash. -/
theorem size_pieces (p : Path) : size p.pieces = p.text.utf8ByteSize + 1 := by
  have hsplit (cs : List Char) :
      size ((cs.splitOn '/').map .ofList) = (String.ofList cs).utf8ByteSize + 1 := by
    have hcons (c : Char) (cs : List Char) : (String.ofList (c :: cs)).utf8ByteSize =
        (String.ofList [c]).utf8ByteSize + (String.ofList cs).utf8ByteSize := by
      rw [← String.utf8ByteSize_append, ← String.ofList_append]
      rfl
    induction cs with
    | nil => rfl
    | cons c cs ih =>
      rw [List.splitOn_cons_eq_if_modifyHead, hcons]
      split
      · rename_i hc
        rw [List.map_cons, size, ih, beq_iff_eq.mp hc]
        have hempty : (String.ofList []).utf8ByteSize = 0 := rfl
        have hslash : (String.ofList ['/']).utf8ByteSize = 1 := by decide
        omega
      · cases hsplit : cs.splitOn '/' with
        | nil => exact absurd hsplit (List.splitOn_ne_nil '/' cs)
        | cons first rest =>
          rw [hsplit, List.map_cons, size] at ih
          rw [List.modifyHead_cons, List.map_cons, size, hcons]
          omega
  rw [Path.pieces, hsplit, String.ofList_toList]

/-- The segments of a path take no more than its text and one more slash. -/
theorem size_segments_le (p : Path) : size p.segments ≤ p.text.utf8ByteSize + 1 := by
  have hfilter (names : List String) : size (names.filter (· ≠ "")) ≤ size names := by
    induction names with
    | nil => exact Nat.le_refl 0
    | cons s names ih =>
      rw [List.filter_cons, size]
      split
      · rw [size]
        omega
      · omega
  rw [← size_pieces]
  exact hfilter p.pieces

/-- A location takes no more in a path than the names that have led there. -/
theorem size_le_of_foldlM_names {d : Disk} {names l l' : List String}
    (h : names.foldlM d.step l = .ok l') : size l' ≤ size l + size names := by
  induction names generalizing l with
  | nil =>
    cases h
    exact Nat.le_refl _
  | cons s names ih =>
    rw [List.foldlM_cons, Outcome.bind_eq_ok] at h
    obtain ⟨m, hstep, hrest⟩ := h
    have hm : size m ≤ size l + (s.utf8ByteSize + 1) := by
      rw [Disk.eq_advance_of_step hstep]
      unfold Path.advance
      split_ifs
      · exact Nat.le_add_right ..
      · rcases List.eq_nil_or_concat' l with rfl | ⟨init, last, rfl⟩
        · exact Nat.zero_le _
        · rw [List.dropLast_concat, size_append]
          omega
      · rw [size_append]
        exact Nat.le_refl _
    have hl' := ih hrest
    rw [size]
    omega

theorem size_start_le (d : Disk) (p : Path) : size (d.start p) ≤ size d.here := by
  unfold Disk.start
  split
  · exact Nat.zero_le _
  · exact Nat.le_refl _

theorem size_le_of_foldlM {d : Disk} {p : Path} {l : List String}
    (h : p.segments.foldlM d.step (d.start p) = .ok l) :
    size l ≤ size d.here + p.text.utf8ByteSize + 1 := by
  have hnames := size_le_of_foldlM_names h
  have hstart := size_start_le d p
  have hsegments := size_segments_le p
  omega

/-- No path leads to a location that is too deep below the working directory. -/
theorem size_le_of_locate {d : Disk} {p : Path} {l : List String} (h : d.locate p = .ok l) :
    size l ≤ size d.here + 4096 := by
  obtain ⟨hcheck, -, hfold, -⟩ := Disk.locate_eq_ok.mp h
  have hshort := (Disk.checkPath_eq_ok.mp hcheck).2
  have hsize := size_le_of_foldlM hfold
  omega

theorem slash_notMem_of_mem_base {dir : Path} {s : String} (h : s ∈ base dir) : '/' ∉ s.toList := by
  have hfront : s ∈ dir.front := by
    unfold base at h
    split at h
    · exact List.mem_of_mem_tail h
    · exact h
  refine Path.slash_notMem_of_mem_pieces (p := dir) ?_
  unfold Path.front at hfront
  split at hfront
  · cases hfront
  · split at hfront
    · exact List.dropLast_subset _ hfront
    · exact hfront

theorem gapped_collapse (cs : List Component) : Gapped (collapse cs) ↔ Gapped cs := by
  fun_induction collapse cs with
  | case1 rest ih => exact ih
  | case2 c rest _ ih =>
    cases c with
    | literal s => exact or_congr_right (and_congr_right fun _ => ih)
    | wildcard ts => exact Iff.rfl
    | anyDirs => exact Iff.rfl
  | case3 => exact Iff.rfl

theorem Component.eq_of_ofTokens {piece : List Char} {ts : List Token}
    (htokens : tokens piece = .ok ts) {s : String} (h : Component.ofTokens ts = .literal s) :
    s = .ofList piece := by
  rw [← eq_of_literal? htokens (ofTokens_eq_literal h), String.ofList_toList]

/-- A piece without wildcards is read as itself, and no other piece is read so. -/
theorem Component.ofTokens_eq_literal_iff {piece : List Char} {ts : List Token} {s : String}
    (htokens : tokens piece = .ok ts) (hplain : s.toList.flatMap escapeChar = s.toList)
    (hexact : Component.exact s = .literal s) :
    Component.ofTokens ts = .literal s ↔ String.ofList piece = s := by
  constructor
  · exact fun h => (Component.eq_of_ofTokens htokens h).symm
  · rintro rfl
    have hread := tokens_escaped (String.ofList piece).toList
    rw [hplain, String.toList_ofList, htokens] at hread
    rw [← hexact, Component.exact, String.toList_ofList, ← Except.ok.inj hread]

/-- Pieces have a gap iff their components have one; an empty piece at the end has no component. -/
theorem gapped_iff_of_components {ps tail : List (List Char)} {parts : List (List Token)}
    (hparts : List.Forall₂ (fun piece ts => tokens piece = .ok ts) ps parts)
    (htail : tail.length ≤ 1) (hlast : tail = [] → ps.getLast? ≠ some []) :
    gapped ((ps ++ tail).map .ofList) = true ↔ Gapped (parts.map .ofTokens) := by
  induction hparts with
  | nil =>
    match tail, htail with
    | [], _ => exact iff_of_false Bool.false_ne_true id
    | [_], _ => exact iff_of_false Bool.false_ne_true id
  | @cons piece ts ps parts htokens hrest ih =>
    rw [List.map_cons, gapped_cons_iff,
      Component.ofTokens_eq_literal_iff htokens (by decide) (by decide),
      Component.ofTokens_eq_literal_iff htokens (by decide) (by decide)]
    by_cases hmore : ps ++ tail = []
    · obtain ⟨rfl, rfl⟩ := List.append_eq_nil_iff.mp hmore
      cases hrest
      refine iff_of_false Bool.false_ne_true ?_
      rintro (hpiece | ⟨-, hgapped⟩)
      · exact hlast rfl (by simpa using hpiece)
      · exact hgapped
    · have hlast : tail = [] → ps.getLast? ≠ some [] := by
        intro htail hend
        refine hlast htail ?_
        have hps : ps ≠ [] := by rintro rfl; cases hend
        rw [List.getLast?_cons_of_ne_nil hps, hend]
      rw [List.cons_append, List.map_cons, gapped_cons _ (mt List.map_eq_nil_iff.mp hmore),
        Bool.or_eq_true, Bool.and_eq_true, beq_iff_eq, beq_iff_eq, ih hlast]

/-- A pattern has a gap in its text iff its components have one. -/
theorem gapped_pieces_iff {p : String} (hrelative : (Path.mk p).isAbsolute = false) (hne : p ≠ "")
    {cs : List Component} (h : components ⟨p⟩ = .ok cs) :
    gapped (Path.pieces ⟨p⟩) = true ↔ Gapped cs := by
  obtain ⟨_, parts, hparts, rfl⟩ := components_eq_ok.mp h
  rw [inner, hrelative, if_neg Bool.false_ne_true] at hparts
  rw [gapped_collapse]
  have hforall := Outcome.mapM_eq_ok.mp hparts
  rw [Path.pieces]
  rw [pieces] at hforall
  split at hforall
  · rename_i hlast
    rw [Bool.and_eq_true, beq_iff_eq, List.getLast?_eq_some_iff] at hlast
    obtain ⟨-, init, hinit⟩ := hlast
    rw [hinit, List.dropLast_concat] at hforall
    rw [hinit]
    exact gapped_iff_of_components hforall (Nat.le_refl 1) fun h => absurd h (List.cons_ne_nil _ _)
  · rename_i hlast
    rw [← List.append_nil (p.toList.splitOn '/')]
    refine gapped_iff_of_components hforall (Nat.zero_le 1) fun _ hend => hlast ?_
    have hlong := one_lt_length_splitOn (mt String.toList_eq_nil_iff.mp hne) hend
    simp [hlong, hend]

/-! ### The start of a walk -/

/-- Where the walk to a directory starts. -/
def origin (dir : Path) : Path := if dir.isAbsolute then ⟨"/"⟩ else dot

/-- The path of a directory as walks have it: without dots in front and without doubled slashes. -/
def arrival (dir : Path) : Path := (base dir).foldl below (origin dir)

section Origin

variable {d : Disk} {dir : Path}

theorem stands_origin {e : Entry} (hat : d.root.at? (d.start dir) = some e) (hdir : e.isDir) :
    Stands d (origin dir) (d.start dir) e := by
  unfold Disk.start at hat ⊢
  unfold origin
  split
  · rename_i habsolute
    rw [if_pos habsolute] at hat
    exact ⟨by decide, .inr (by decide), rfl, hat, fun _ => hdir⟩
  · rename_i hrelative
    rw [if_neg hrelative] at hat
    have hhere : d.root.hasDir d.here := by simp [Entry.hasDir, hat, hdir]
    refine ⟨by decide, .inl rfl, ?_, hat, fun _ => hdir⟩
    rw [segments_dot, foldlM_singleton]
    exact Disk.step_eq_ok.mpr ⟨hhere, rfl⟩

theorem entry_origin {e : Entry} :
    d.entry (origin dir) = .ok e ↔ d.root.at? (d.start dir) = some e ∧ e.isDir := by
  constructor
  · intro h
    obtain ⟨l, hlocate, hat⟩ := Disk.entry_eq_ok.mp h
    obtain ⟨-, -, hleads, hslash⟩ := Disk.locate_eq_ok.mp hlocate
    have hstart : l = d.start dir ∧ d.root.hasDir l := by
      unfold Disk.start
      unfold origin at hleads hslash
      split
      · rename_i habsolute
        rw [if_pos habsolute] at hleads hslash
        exact ⟨(Except.ok.inj hleads).symm, hslash (by decide)⟩
      · rename_i hrelative
        rw [if_neg hrelative, segments_dot, foldlM_singleton,
          Disk.step_eq_ok, if_pos rfl] at hleads
        obtain ⟨hdir, rfl⟩ := hleads
        exact ⟨rfl, hdir⟩
    obtain ⟨rfl, hdir⟩ := hstart
    exact ⟨hat, by simpa [Entry.hasDir, hat] using hdir⟩
  · rintro ⟨hat, hdir⟩
    refine (stands_origin hat hdir).entry_eq ?_
    unfold origin
    split <;> decide

theorem trail_eq_origin (dir : Path) :
    dir.trail = (origin dir).trail ++ dir.segments.filterMap Path.component? := by
  have htrail : (origin dir).trail = if dir.isAbsolute then [.root] else [] := by
    unfold origin
    split <;> decide
  rw [htrail, Path.trail]

end Origin

end Stencil.Glob
