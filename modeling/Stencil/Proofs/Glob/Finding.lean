import Stencil.Proofs.Glob.Walking

/-! Where a walk leads.

The components of a pattern stand for the names on the way to an entry, one after the other, and
some of them may be left for what is there (`Leads`). With none left they stand for a file; with a
wildcard left they have a directory read. A walk comes only to entries below where it starts to
which its components lead, and it comes to every such file if the system takes its path. How long
this path is, the names and the components tell (`extent`). -/

namespace Stencil.Glob

open Stencil.Path

/-- Components stand for the names on the way to a directory or to a file, and `rest` are left. Each
component stands for one name, but any directories may stand for none or several. An empty component
or a dot stands for the directory that it is in, unless any directories come right before it. -/
inductive Leads (toDir : Bool) : List Component → List String → List Component → Prop where
  | done {cs : List Component} : Leads toDir cs [] cs
  | stay {s : String} {cs rest : List Component} {names : List String} (hs : s = "" ∨ s = ".")
      (hdir : names = [] → toDir) (h : Leads toDir cs names rest) :
      Leads toDir (.literal s :: cs) names rest
  | name {c : Component} {n : String} {cs rest : List Component} {names : List String}
      (hc : c ≠ .anyDirs) (hn : c.isMatch n = true) (h : Leads toDir cs names rest) :
      Leads toDir (c :: cs) (n :: names) rest
  | skip {n : String} {cs rest : List Component} {names : List String}
      (h : Leads toDir (.anyDirs :: cs) names rest) :
      Leads toDir (.anyDirs :: cs) (n :: names) rest
  | enter {c : Component} {n : String} {cs rest : List Component} {names : List String}
      (hn : c.isMatch n = true) (h : Leads toDir cs names rest) :
      Leads toDir (.anyDirs :: c :: cs) (n :: names) rest

/-- Components stand for the names of a file below a directory. -/
def Matches (cs : List Component) (names : List String) : Prop := Leads false cs names []

/-- Whether a directory is read for a component. -/
def Component.isWild : Component → Bool
  | .literal _ => false
  | _ => true

theorem Component.ne_literal_of_isWild {c : Component} (h : c.isWild) (s : String) :
    c ≠ .literal s := by
  rintro rfl
  cases h

/-- Components have the directory read to which names lead. -/
def Opens (cs : List Component) (names : List String) : Prop :=
  ∃ c rest, c.isWild ∧ Leads true cs names (c :: rest)

theorem Leads.subset {toDir : Bool} {cs rest : List Component} {names : List String}
    (h : Leads toDir cs names rest) : rest ⊆ cs := by
  induction h with
  | done => exact fun _ => id
  | stay _ _ _ ih => exact List.subset_cons_of_subset _ ih
  | name _ _ _ ih => exact List.subset_cons_of_subset _ ih
  | skip _ ih => exact ih
  | enter _ _ ih => exact List.subset_cons_of_subset _ (List.subset_cons_of_subset _ ih)

/-- A component that does not lead out of the directory that it is in. -/
def Component.IsInward : Component → Prop
  | .literal s => '/' ∉ s.toList ∧ s ≠ ".."
  | .wildcard ts => specials ts = []
  | .anyDirs => True

/-- How much names take in a path, with a slash each. -/
def size : List String → Nat
  | [] => 0
  | s :: names => s.utf8ByteSize + 1 + size names

/-- How much the dots among components take in a path, with a slash each. -/
def idle : List Component → Nat
  | [] => 0
  | c :: cs => (if c = .literal "." then 2 else 0) + idle cs

/-- How much the dots among components take in the path of a walk. As long as it is at the dot, they
take nothing. -/
def idleFrom (path : Path) (cs : List Component) : Nat :=
  if path = dot then idle (cs.dropWhile (· = .literal ".")) else idle cs

/-- How much the path takes, with a slash at its end, that a walk has if it follows names and all
components. -/
def extent (path : Path) (names : List String) (cs : List Component) : Nat :=
  (lead path).utf8ByteSize + size names + idleFrom path cs

theorem idle_cons {c : Component} (hc : c ≠ .literal ".") (cs : List Component) :
    idle (c :: cs) = idle cs := by
  rw [idle, if_neg hc, Nat.zero_add]

theorem idleFrom_cons {c : Component} (hc : c ≠ .literal ".") (path : Path) (cs : List Component) :
    idleFrom path (c :: cs) = idle cs := by
  rw [idleFrom, List.dropWhile_cons_of_neg (by simpa using hc), ite_self, idle_cons hc]

/-- Whether an empty component comes before any that leads away from the working directory. -/
def Gapped : List Component → Prop
  | .literal s :: cs => s = "" ∨ s = "." ∧ Gapped cs
  | _ => False

theorem gapped_cons_iff {c : Component} {cs : List Component} :
    Gapped (c :: cs) ↔ c = .literal "" ∨ c = .literal "." ∧ Gapped cs := by
  cases c with
  | literal s => simp [Gapped]
  | wildcard ts => simp [Gapped]
  | anyDirs => simp [Gapped]

/-- A component that stands for a name leads away from where it is. -/
theorem Component.ne_literal_of_isMatch {c : Component} {n : String} (hn : c.isMatch n = true)
    (hname : IsName n) : c ≠ .literal "" ∧ c ≠ .literal "." := by
  constructor
  · rintro rfl
    exact hname.nonempty (beq_iff_eq.mp hn).symm
  · rintro rfl
    exact hname.notHere (beq_iff_eq.mp hn).symm

/-! ### One step of a walk -/

section Step

variable {d : Disk} {path : Path} {l l' : List String} {e found : Entry} {s : String}

theorem step_of_isName {entries : List (String × Entry)} {name : String}
    (hname : IsName name) (hdir : d.root.at? l = some (.dir entries))
    (hfound : entries.lookup name = some found) :
    d.step l name = .ok (l ++ [name]) ∧ d.root.at? (l ++ [name]) = some found := by
  have hat : d.root.at? (l ++ [name]) = some found := by
    rw [Entry.at?_append, hdir]
    simp [Entry.at?, hfound]
  refine ⟨Disk.step_eq_ok.mpr ⟨by simp [Entry.hasDir, hdir, Entry.isDir], ?_⟩, hat⟩
  rw [if_neg hname.notHere, if_neg hname.notUp, hat]
  exact ⟨hname.short, rfl, rfl⟩

/-- A walk goes on to an entry of the directory that it has come to. -/
theorem Stands.child_of_mem {d : ProperDisk} {entries : List (String × Entry)}
    (h : Stands d path l (.dir entries)) {name : String} (hmem : (name, found) ∈ entries) :
    IsName name ∧ Stands d (Glob.below path name) (l ++ [name]) found ∧
      (Glob.below path name).trail = path.trail ++ [.name name] := by
  have hname := (d.proper.at? h.entry).isName_of_mem hmem
  obtain ⟨hstep, hat⟩ := step_of_isName hname h.entry ((d.proper.at? h.entry).lookup_of_mem hmem)
  refine ⟨hname, ?_, ?_⟩
  · refine h.below hname.slashless (fun hempty => absurd hempty hname.nonempty) ?_ hat
      fun hempty => absurd hempty hname.nonempty
    rw [if_neg hname.nonempty, hstep]
  · rw [h.trail_below hname.slashless, trail_name hname]

/-- Only dots lead to the dot. -/
theorem Stands.of_below_eq_dot (h : Stands d path l e) (hs : '/' ∉ s.toList)
    (hdot : Glob.below path s = dot) : path = dot ∧ s = "." := by
  have htext := h.text_below hs
  rw [hdot] at htext
  by_cases hpath : path = dot
  · refine ⟨hpath, ?_⟩
    rw [lead, if_pos hpath, String.empty_append] at htext
    exact htext.symm
  · have hslash : '/' ∈ dot.text.toList := by
      rw [htext, String.toList_append, List.mem_append]
      exact .inl (List.mem_of_mem_getLast? (beq_iff_eq.mp (endsInSlash_lead hpath)))
    exact absurd hslash (by decide)

theorem Stands.size_lead_below (h : Stands d path l e) (hs : '/' ∉ s.toList) (hne : s ≠ "")
    (hdot : Glob.below path s ≠ dot) : (lead (Glob.below path s)).utf8ByteSize =
      (lead path).utf8ByteSize + (s.utf8ByteSize + 1) := by
  have htext := h.text_below hs
  have hends : Disk.endsInSlash (Glob.below path s) = false := by
    have hslashless := endsInSlash_of_slashless (t := lead path) hs hne
    rwa [← htext] at hslashless
  rw [lead, if_neg hdot, if_neg (Bool.eq_false_iff.mp hends), htext, String.utf8ByteSize_append,
    String.utf8ByteSize_append, Nat.add_assoc]
  rfl

/-- What follows a component that stays takes as much as the component and what follows it. -/
theorem Stands.extent_stay (h : Stands d path l e) (hs : s = "" ∨ s = ".")
    (hbelow : Stands d (Glob.below path s) l' found) (names : List String) (cs : List Component) :
    extent (Glob.below path s) names cs = extent path names (.literal s :: cs) := by
  by_cases hpath : path = dot
  · subst hpath
    rcases hs with rfl | rfl
    · exact absurd (congrArg Path.text (below_dot "")) hbelow.written
    · rw [show Glob.below dot "." = dot by decide, extent, extent, idleFrom, idleFrom, if_pos rfl,
        if_pos rfl, List.dropWhile_cons_of_pos (by simp)]
  · have hslash : '/' ∉ s.toList := by rcases hs with rfl | rfl <;> decide
    have hdot : Glob.below path s ≠ dot := fun hdot => hpath (h.of_below_eq_dot hslash hdot).1
    rw [extent, extent, idleFrom, idleFrom, if_neg hdot, if_neg hpath, idle]
    rcases hs with rfl | rfl
    · have hlead : lead (Glob.below path "") = lead path := by
        have htext := h.text_below hslash
        rw [String.append_empty] at htext
        rw [show Glob.below path "" = ⟨lead path⟩ from congrArg Path.mk htext]
        exact lead_of_endsInSlash (endsInSlash_lead hpath)
      rw [hlead, if_neg (by decide), Nat.zero_add]
    · rw [h.size_lead_below hslash (by decide) hdot, if_pos rfl,
        show (".").utf8ByteSize = 1 by decide]
      omega

/-- What follows a name takes as much as the name and what follows it. -/
theorem Stands.extent_name (h : Stands d path l e) {name : String} (hname : IsName name)
    (names : List String) (cs : List Component) : extent (Glob.below path name) names cs =
      (lead path).utf8ByteSize + size (name :: names) + idle cs := by
  have hdot : Glob.below path name ≠ dot := fun hdot =>
    hname.notHere (h.of_below_eq_dot hname.slashless hdot).2
  rw [extent, idleFrom, if_neg hdot, h.size_lead_below hname.slashless hname.nonempty hdot, size]
  omega

/-- The system takes a path that is not too long. -/
theorem Stands.checkPath_of_lt {d : ProperDisk} (h : Stands d path l e)
    (hlt : (lead path).utf8ByteSize < 4096) : Disk.checkPath path = .ok () := by
  by_cases hdot : path = dot
  · rw [hdot]
    decide
  · rw [h.checkPath_eq, if_pos ((size_le_lead hdot).trans_lt hlt)]

theorem Stands.exists_file (h : Stands d path l e) (hfile : d.isFile path) :
    ∃ bytes, e = .file bytes := by
  obtain ⟨bytes, hbytes⟩ := Disk.isFile_iff.mp hfile
  exact ⟨bytes, (h.eq_of_entry hbytes).symm⟩

end Step

/-! ### What a walk comes to -/

/-- A walk that has come to an entry below its start: the names that lead there, the components that
are left, and what is left of the extent. An empty component would have stopped it at the dot. -/
structure Reaches (d : Disk) (cs : List Component) (path : Path) (l : List String) (q : Path)
    (names : List String) (e : Entry) (rest : List Component) : Prop where
  leads : Leads e.isDir cs names rest
  stands : Stands d q (l ++ names) e
  trail : q.trail = path.trail ++ names.map .name
  extent_eq : extent q [] rest = extent path names cs
  gapless : path = dot → Gapped cs → Gapped rest

section Reaches

variable {d : Disk} {cs cs' rest : List Component} {path q : Path} {l names : List String}
  {e found : Entry}

theorem Reaches.done (h : Stands d path l e) : Reaches d cs path l path [] e cs where
  leads := .done
  stands := by rwa [List.append_nil]
  trail := by rw [List.map_nil, List.append_nil]
  extent_eq := rfl
  gapless := fun _ => id

/-- A component that stands for the name of an entry adds this name to those that lead on. -/
theorem Reaches.cons (h : Stands d path l found) {name : String} (hname : IsName name)
    (htrail : (Glob.below path name).trail = path.trail ++ [.name name])
    (hr : Reaches d cs (Glob.below path name) (l ++ [name]) q names e rest)
    (hleads : Leads e.isDir cs' (name :: names) rest) (hidle : idleFrom path cs' = idle cs)
    (hgap : ¬ Gapped cs') : Reaches d cs' path l q (name :: names) e rest where
  leads := hleads
  stands := List.append_cons l name names ▸ hr.stands
  trail := by
    rw [hr.trail, htrail, List.append_assoc]
    rfl
  extent_eq := by rw [hr.extent_eq, h.extent_name hname, extent, hidle]
  gapless := fun _ hgapped => absurd hgapped hgap

/-- What stays where it is changes nothing of what is reached from there. -/
theorem Reaches.stay (h : Stands d path l e) {s : String} (hs : s = "" ∨ s = ".")
    (hbelow : Stands d (Glob.below path s) l found) (hdir : found.isDir)
    (htrail : (Glob.below path s).trail = path.trail) {end' : Entry}
    (hr : Reaches d cs (Glob.below path s) l q names end' rest) :
    Reaches d (.literal s :: cs) path l q names end' rest where
  leads := by
    refine .stay hs ?_ hr.leads
    rintro rfl
    have hentry := hr.stands.entry
    rw [List.append_nil, hbelow.entry] at hentry
    exact Option.some.inj hentry ▸ hdir
  stands := hr.stands
  trail := htrail ▸ hr.trail
  extent_eq := hr.extent_eq.trans (h.extent_stay hs hbelow names cs)
  gapless := by
    rintro rfl (rfl | ⟨rfl, hgapped⟩)
    · exact absurd (congrArg Path.text (below_dot "")) hbelow.written
    · exact hr.gapless (by decide) hgapped

end Reaches

/-- What a walk that has come to an entry gives there: the path of the entry, if it is asked for, or
the failure to read it. -/
inductive Yields (needDir : Bool) (q : Path) (e : Entry) :
    List Component → Except Error Path → Prop where
  | found (h : needDir → e.isDir) : Yields needDir q e [] (.ok q)
  | dir (h : e.isDir) : Yields needDir q e [.anyDirs] (.ok q)
  | fails {c : Component} {rest : List Component} {x : Except Error Path} (hc : c.isWild)
      (hdir : e.isDir) (h : Fails q x) : Yields needDir q e (c :: rest) x

theorem sizeOf_lt_of_mem {entries : List (String × Entry)} {name : String} {found : Entry}
    (h : (name, found) ∈ entries) : sizeOf found < sizeOf (Entry.dir entries) := by
  have hlt := List.sizeOf_lt_of_mem h
  rw [Prod.mk.sizeOf_spec] at hlt
  rw [Entry.dir.sizeOf_spec]
  omega

theorem not_gapped_cons {c : Component} (h : c ≠ .literal "" ∧ c ≠ .literal ".")
    (cs : List Component) : ¬ Gapped (c :: cs) := by
  rw [gapped_cons_iff]
  rintro (hempty | ⟨hdot, -⟩)
  · exact h.1 hempty
  · exact h.2 hdot

/-- Everything that a walk gives, it gives at an entry below where it started, to which its
components lead. -/
theorem Stands.exists_reaches {d : ProperDisk} {needDir : Bool} {cs : List Component}
    (hcs : ∀ c ∈ cs, c.IsInward) {path : Path} {l : List String} {e : Entry}
    (h : Stands d path l e) {x : Except Error Path} (hx : x ∈ walk d needDir cs path e) :
    ∃ q names e' rest, Reaches d cs path l q names e' rest ∧ Yields needDir q e' rest x := by
  match cs with
  | [] =>
    obtain ⟨hneed, rfl⟩ := mem_walk_nil.mp hx
    exact ⟨path, [], e, [], .done h, .found hneed⟩
  | .literal s :: cs =>
    obtain ⟨hc, hcs⟩ := List.forall_mem_cons.mp hcs
    obtain ⟨found, hfound, hx⟩ := mem_walk_literal.mp hx
    obtain ⟨l', hleads, hbelow⟩ := h.below_of_entry hc.1 hfound
    obtain ⟨q, names, e', rest, hr, hy⟩ := hbelow.exists_reaches hcs hx
    -- a name leads on, and what stays can only stand in front of a name
    by_cases hs : s = "" ∨ s = "."
    · obtain ⟨rfl, hdir, htrail⟩ := h.stay hs hleads hbelow
      exact ⟨q, names, e', rest, hr.stay h hs hbelow hdir htrail, hy⟩
    · obtain ⟨hempty, hhere⟩ := not_or.mp hs
      rw [if_neg hempty, Disk.step_eq_ok, if_neg hhere, if_neg hc.2] at hleads
      obtain ⟨-, -, -, rfl⟩ := hleads
      have hname := d.proper.isName_of_at? hbelow.entry
      have htrail := h.trail_below hc.1
      rw [trail_name hname] at htrail
      have haway := Component.ne_literal_of_isMatch (c := .literal s) (beq_self_eq_true s) hname
      exact ⟨q, s :: names, e', rest, hr.cons h hname htrail
        (.name nofun (beq_self_eq_true s) hr.leads) (idleFrom_cons haway.2 ..)
        (not_gapped_cons haway _), hy⟩
  | .wildcard ts :: cs =>
    obtain ⟨hc, hcs⟩ := List.forall_mem_cons.mp hcs
    obtain ⟨entries, rfl, hfails | ⟨-, name, found, hmem, hmatch, hx⟩⟩ :=
      (mem_walk_wildcard hc).mp hx
    · exact ⟨path, [], _, _, .done h, .fails rfl rfl hfails⟩
    · obtain ⟨hname, hbelow, htrail⟩ := h.child_of_mem hmem
      obtain ⟨q, names, e', rest, hr, hy⟩ := hbelow.exists_reaches hcs hx
      exact ⟨q, name :: names, e', rest, hr.cons h hname htrail (.name nofun hmatch hr.leads)
        (idleFrom_cons (Component.ne_literal_of_isWild rfl _) ..) id, hy⟩
  | .anyDirs :: cs =>
    obtain ⟨entries, he, hfails | ⟨-, name, found, hmem, hx⟩⟩ := mem_walk_anyDirs.mp hx
    · exact ⟨path, [], e, _, .done h, .fails rfl (he ▸ rfl) hfails⟩
    obtain ⟨hname, hbelow, htrail⟩ := (he ▸ h).child_of_mem hmem
    have haway : Component.anyDirs ≠ .literal "." := Component.ne_literal_of_isWild rfl _
    rcases hx with hx | hx
    · match cs with
      | [] =>
        simp only [enter, List.mem_ite_nil_right, List.mem_singleton] at hx
        obtain ⟨hdir, rfl⟩ := hx
        exact ⟨_, [name], found, [.anyDirs], Reaches.cons h hname htrail (.done hbelow)
          (.skip .done) (idleFrom_cons haway ..) id, .dir hdir⟩
      | c :: cs =>
        simp only [enter, List.mem_ite_nil_right] at hx
        obtain ⟨hmatch, hx⟩ := hx
        have hcs := (List.forall_mem_cons.mp (List.forall_mem_cons.mp hcs).2).2
        obtain ⟨q, names, e', rest, hr, hy⟩ := hbelow.exists_reaches hcs hx
        have hidle : idleFrom path (.anyDirs :: c :: cs) = idle cs := by
          rw [idleFrom_cons haway, idle_cons (Component.ne_literal_of_isMatch hmatch hname).2]
        exact ⟨q, name :: names, e', rest, hr.cons h hname htrail (.enter hmatch hr.leads) hidle
          id, hy⟩
    · -- the components stay as they are as directories are passed, but the entry gets smaller
      have hlt : sizeOf found < sizeOf e := he ▸ sizeOf_lt_of_mem hmem
      obtain ⟨q, names, e', rest, hr, hy⟩ := hbelow.exists_reaches hcs hx
      exact ⟨q, name :: names, e', rest, hr.cons h hname htrail (.skip hr.leads)
        ((idleFrom_cons haway ..).trans (idle_cons haway _).symm) id, hy⟩
termination_by (cs.length, sizeOf e)

/-! ### Every file is reached -/

section Complete

variable {d : ProperDisk} {path : Path} {l : List String} {e : Entry}

/-- A walk goes on to the first name on the way to an entry. -/
theorem Stands.exists_child (h : Stands d path l e) {name : String} {names : List String}
    {found : Entry} (hat : e.at? (name :: names) = some found) {cs : List Component}
    (hroom : extent path (name :: names) cs ≤ 4096) :
    ∃ entries child, e = .dir entries ∧ (name, child) ∈ entries ∧ IsName name ∧
      child.at? names = some found ∧ Stands d (Glob.below path name) (l ++ [name]) child ∧
      (Glob.below path name).trail = path.trail ++ [.name name] ∧
      Disk.checkPath (Glob.below path name) = .ok () ∧ Glob.below path name ≠ dot := by
  cases e with
  | file bytes => cases hat
  | dir entries =>
    obtain ⟨child, hlookup, hchild⟩ := Option.bind_eq_some_iff.mp hat
    have hmem := mem_of_lookup hlookup
    obtain ⟨hname, hbelow, htrail⟩ := h.child_of_mem hmem
    have hcheck : Disk.checkPath (Glob.below path name) = .ok () := by
      rw [extent, size] at hroom
      rw [hbelow.checkPath_eq, h.text_below hname.slashless, String.utf8ByteSize_append,
        if_pos (by omega)]
    exact ⟨entries, child, rfl, hmem, hname, hchild, hbelow, htrail, hcheck,
      fun hdot => hname.notHere (h.of_below_eq_dot hname.slashless hdot).2⟩

theorem size_pos {names : List String} (h : names ≠ []) : 0 < size names := by
  cases names with
  | nil => exact absurd rfl h
  | cons s names =>
    rw [size]
    omega

/-- A walk comes to every file to which its components lead, and gives what it gives from there, if
the system takes the path of the file and no empty component finds the walk still at the dot. -/
theorem Leads.exists_reaches {cs rest : List Component} {names : List String}
    (hl : Leads false cs names rest) (hcs : ∀ c ∈ cs, c.IsInward) {path : Path} {l : List String}
    {e e' : Entry} (h : Stands d path l e) (hat : e.at? names = some e') (hfile : e'.isDir = false)
    (hcheck : Disk.checkPath path = .ok ()) (hroom : extent path names cs ≤ 4096)
    (hgap : path = dot → ¬ Gapped cs) :
    ∃ q, Reaches d cs path l q names e' rest ∧ ∀ {needDir : Bool} {x : Except Error Path},
      x ∈ walk d needDir rest q e' → x ∈ walk d needDir cs path e := by
  induction hl generalizing path l e with
  | done =>
    cases hat
    exact ⟨path, .done h, id⟩
  | @stay s cs rest names hs hstay hl ih =>
    have hslash : '/' ∉ s.toList := by rcases hs with rfl | rfl <;> decide
    have hnames : names ≠ [] := fun hnil => absurd (hstay hnil) Bool.false_ne_true
    have hhere : e.isDir := Entry.isDir_of_at? hnames hat
    have hempty : s = "" → path ≠ dot := fun hs hdot => hgap hdot (.inl hs)
    have hleads : (if s = "" then .ok l else d.step l s) = .ok l := by
      split
      · rfl
      · rename_i hne
        cases hs.resolve_left hne
        exact Disk.step_eq_ok.mpr ⟨by simp [Entry.hasDir, h.entry, hhere], rfl⟩
    have hbelow := h.below hslash hempty hleads h.entry fun _ => hhere
    rw [← h.extent_stay hs hbelow] at hroom
    have hcheck : Disk.checkPath (Glob.below path s) = .ok () := by
      have hpos := size_pos hnames
      refine hbelow.checkPath_of_lt ?_
      unfold extent at hroom
      omega
    -- the walk is still at the dot only if it was there before and has followed a dot
    have hgap : Glob.below path s = dot → ¬ Gapped cs := by
      intro hdot hgapped
      obtain ⟨hpath, hs⟩ := h.of_below_eq_dot hslash hdot
      exact hgap hpath (.inr ⟨hs, hgapped⟩)
    obtain ⟨q, hr, hwalk⟩ := ih (List.forall_mem_cons.mp hcs).2 hbelow hat hcheck hroom hgap
    exact ⟨q, hr.stay h hs hbelow hhere (h.stay hs hleads hbelow).2.2,
      fun hx => mem_walk_literal.mpr ⟨e, hbelow.entry_eq hcheck, hwalk hx⟩⟩
  | @name c n cs rest names hc hn hl ih =>
    obtain ⟨hinward, hcs⟩ := List.forall_mem_cons.mp hcs
    obtain ⟨entries, child, rfl, hmem, hname, hat, hbelow, htrail, hcheck', hdot⟩ :=
      h.exists_child hat hroom
    have haway := Component.ne_literal_of_isMatch hn hname
    have hidle := idleFrom_cons haway.2 path cs
    rw [extent, hidle, ← h.extent_name hname] at hroom
    obtain ⟨q, hr, hwalk⟩ := ih hcs hbelow hat hcheck' hroom fun h => absurd h hdot
    refine ⟨q, hr.cons h hname htrail (hfile ▸ .name hc hn hl) hidle (not_gapped_cons haway _),
      fun hx => ?_⟩
    cases c with
    | literal s =>
      cases beq_iff_eq.mp hn
      exact mem_walk_literal.mpr ⟨child, hbelow.entry_eq hcheck', hwalk hx⟩
    | wildcard ts =>
      exact (mem_walk_wildcard hinward).mpr
        ⟨entries, rfl, .inr ⟨hcheck, n, child, hmem, hn, hwalk hx⟩⟩
    | anyDirs => exact absurd rfl hc
  | @skip n cs rest names hl ih =>
    obtain ⟨entries, child, rfl, hmem, hname, hat, hbelow, htrail, hcheck', hdot⟩ :=
      h.exists_child hat hroom
    have haway : Component.anyDirs ≠ .literal "." := Component.ne_literal_of_isWild rfl _
    have hidle := (idleFrom_cons haway path cs).trans (idle_cons haway cs).symm
    rw [extent, hidle, ← h.extent_name hname] at hroom
    obtain ⟨q, hr, hwalk⟩ := ih hcs hbelow hat hcheck' hroom fun h => absurd h hdot
    exact ⟨q, hr.cons h hname htrail (hfile ▸ .skip hl) hidle id, fun hx =>
      mem_walk_anyDirs.mpr ⟨entries, rfl, .inr ⟨hcheck, n, child, hmem, .inr (hwalk hx)⟩⟩⟩
  | @enter c n cs rest names hn hl ih =>
    have hcs := (List.forall_mem_cons.mp (List.forall_mem_cons.mp hcs).2).2
    obtain ⟨entries, child, rfl, hmem, hname, hat, hbelow, htrail, hcheck', hdot⟩ :=
      h.exists_child hat hroom
    have haway : Component.anyDirs ≠ .literal "." := Component.ne_literal_of_isWild rfl _
    have hidle : idleFrom path (.anyDirs :: c :: cs) = idle cs := by
      rw [idleFrom_cons haway, idle_cons (Component.ne_literal_of_isMatch hn hname).2]
    rw [extent, hidle, ← h.extent_name hname] at hroom
    obtain ⟨q, hr, hwalk⟩ := ih hcs hbelow hat hcheck' hroom fun h => absurd h hdot
    refine ⟨q, hr.cons h hname htrail (hfile ▸ .enter hn hl) hidle id, fun hx => ?_⟩
    refine mem_walk_anyDirs.mpr ⟨entries, rfl, .inr ⟨hcheck, n, child, hmem, .inl ?_⟩⟩
    rw [Glob.enter, if_pos hn]
    exact hwalk hx

end Complete

end Stencil.Glob
