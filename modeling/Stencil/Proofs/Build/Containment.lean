import Stencil.Proofs.Build.Rendering
import Stencil.Proofs.Files.Joining

/-! Where files lie, as seen from the root of a build.

The normal form of a path is found by walking it: a name leads down, and two dots lead back up.
Walking a path that has been joined to a root is walking it from where the root leads. So it stays
below the root, whatever the root is, iff the walk never leads up out of its start and ends further
down (`Path.depth?`). -/

namespace Stencil

namespace Path

/-! ### Walking -/

/-- Follows one component. What has been walked is listed backwards. -/
def walk : List Component → Component → List Component
  | _, .root => [.root]
  | walked, .here => walked
  | .name _ :: walked, .up => walked
  -- nothing is above the root
  | [.root], .up => [.root]
  | walked, .up => .up :: walked
  | walked, .name s => .name s :: walked

/-- Where a path leads: its components without dots, and with two dots only in front. -/
def normal (p : Path) : List Component := (p.components.foldl walk []).reverse

/-- In normal form, the path is the other one followed by at least one name. -/
def IsBelow (p root : Path) : Prop :=
  ∃ names : List String, names ≠ [] ∧ p.normal = root.normal ++ names.map .name

/-- Follows one component and counts how far down it leads. There is no count above the start. -/
def descend : Nat → Component → Option Nat
  | n, .name _ => some (n + 1)
  | n, .here => some n
  | n + 1, .up => some n
  | 0, .up => none
  | _, .root => none

/-- How far down a path leads, unless it leads up out of its start on its way. -/
def depth? (p : Path) : Option Nat := p.components.foldlM descend 0

theorem descend_eq_none {n : Nat} {c : Component} :
    descend n c = none ↔ c = .root ∨ n = 0 ∧ c = .up := by
  fun_cases descend n c <;> simp

theorem walk_of_descend {names : List String} {c : Component} {m : Nat}
    (h : descend names.length c = some m) (base : List Component) :
    ∃ names' : List String, names'.length = m ∧
      walk (names.map .name ++ base) c = names'.map .name ++ base := by
  cases c with
  | root => cases h
  | here => cases h; exact ⟨names, rfl, rfl⟩
  | name s => cases h; exact ⟨s :: names, rfl, rfl⟩
  | up =>
    cases names with
    | nil => cases h
    | cons s names => cases h; exact ⟨names, rfl, rfl⟩

/-- A walk that does not lead up out of its start stays below it, wherever it starts. -/
theorem foldl_walk_of_descend {cs : List Component} (names : List String) {m : Nat}
    (h : cs.foldlM descend names.length = some m) (base : List Component) :
    ∃ names' : List String, names'.length = m ∧
      cs.foldl walk (names.map .name ++ base) = names'.map .name ++ base := by
  induction cs generalizing names with
  | nil =>
    cases h
    exact ⟨names, rfl, rfl⟩
  | cons c cs ih =>
    rw [List.foldlM_cons] at h
    obtain ⟨n, hc, hcs⟩ := Option.bind_eq_some_iff.mp h
    obtain ⟨names', rfl, hwalk⟩ := walk_of_descend hc base
    rw [List.foldl_cons, hwalk]
    exact ih names' hcs

/-- A walk does not come back from above its start. -/
theorem up_mem_foldl_walk {cs : List Component} (hcs : .root ∉ cs) {walked : List Component}
    (h : .up ∈ walked) : .up ∈ cs.foldl walk walked := by
  induction cs generalizing walked with
  | nil => exact h
  | cons c cs ih =>
    rw [List.mem_cons, not_or] at hcs
    refine ih hcs.2 ?_
    fun_cases walk walked c <;> simp_all

/-- A walk that leads up out of its start, and starts nowhere, has two dots in front. -/
theorem up_mem_of_descend {cs : List Component} (hcs : .root ∉ cs) (names : List String)
    (h : cs.foldlM descend names.length = none) : .up ∈ cs.foldl walk (names.map .name) := by
  induction cs generalizing names with
  | nil => cases h
  | cons c cs ih =>
    rw [List.mem_cons, not_or] at hcs
    rw [List.foldlM_cons] at h
    rw [List.foldl_cons]
    cases hc : descend names.length c with
    | some n =>
      obtain ⟨names', rfl, hwalk⟩ := walk_of_descend hc []
      rw [List.append_nil, List.append_nil] at hwalk
      rw [hc] at h
      rw [hwalk]
      exact ih hcs.2 names' h
    | none =>
      rcases descend_eq_none.mp hc with rfl | ⟨hzero, rfl⟩
      · exact absurd rfl hcs.1
      · cases List.length_eq_zero_iff.mp hzero
        exact up_mem_foldl_walk hcs.2 (List.mem_cons_self ..)

/-! ### Joining -/

theorem component?_ne_root (s : String) : component? s ≠ some .root := by
  unfold component?
  split <;> simp

theorem root_notMem_components {p : Path} (h : p.isAbsolute = false) : .root ∉ p.components := by
  have hnone (l : List String) : .root ∉ l.filterMap component? := by
    simp [List.mem_filterMap, component?_ne_root]
  rw [components, h]
  split
  · simp_all
  · split
    · simp [hnone]
    · exact hnone _

/-- To walk a path is to start anew if it is absolute, and then to follow its segments. -/
theorem foldl_walk_components (p : Path) (walked : List Component) :
    p.components.foldl walk walked =
      (p.segments.filterMap component?).foldl walk (if p.isAbsolute then [.root] else walked) := by
  unfold components
  split
  · simp [walk]
  · split
    · rename_i hpieces
      simp [segments, hpieces, walk, component?]
    · rfl

/-- To walk a relative path that has been joined to a root is to walk it from where the root
leads. -/
theorem foldl_walk_join {p q : Path} (h : q.isAbsolute = false) :
    (p.join q).components.foldl walk [] = q.components.foldl walk (p.components.foldl walk []) := by
  simp [foldl_walk_components, segments_join h, isAbsolute_join h, h]

theorem isBelow_iff {p root : Path} : p.IsBelow root ↔ ∃ names : List String, names ≠ [] ∧
    p.components.foldl walk [] = names.map .name ++ root.components.foldl walk [] := by
  have hflip (l m : List Component) (names : List String) :
      l.reverse = m.reverse ++ names.map .name ↔ l = names.reverse.map .name ++ m := by
    rw [← List.reverse_inj, List.reverse_reverse, List.reverse_append, List.reverse_reverse,
      List.map_reverse]
  simp only [IsBelow, normal, hflip]
  constructor
  · rintro ⟨names, hne, h⟩
    exact ⟨names.reverse, by simpa using hne, h⟩
  · rintro ⟨names, hne, h⟩
    exact ⟨names.reverse, by simpa using hne, by rwa [List.reverse_reverse]⟩

/-- A relative path leads below every root iff it does not lead up out of its start and ends further
down. -/
theorem join_isBelow_iff {q : Path} (h : q.isAbsolute = false) :
    (∀ root : Path, (root.join q).IsBelow root) ↔ ∃ n, q.depth? = some (n + 1) := by
  simp only [isBelow_iff, foldl_walk_join h]
  constructor
  · intro hbelow
    obtain ⟨names, hne, hnames⟩ := hbelow ⟨""⟩
    have hempty : components ⟨""⟩ = [] := by decide
    rw [hempty, List.foldl_nil, List.append_nil] at hnames
    cases hdepth : q.depth? with
    | none =>
      have hup := up_mem_of_descend (root_notMem_components h) [] hdepth
      rw [List.map_nil, hnames] at hup
      simp at hup
    | some m =>
      obtain ⟨names', rfl, hwalk⟩ := foldl_walk_of_descend [] hdepth []
      rw [List.map_nil, List.append_nil, List.append_nil, hnames] at hwalk
      have hlength : names.length = names'.length := by simpa using congrArg List.length hwalk
      have hpos : 0 < names'.length := hlength ▸ List.length_pos_iff.mpr hne
      exact ⟨names'.length - 1, congrArg some (by omega)⟩
  · rintro ⟨n, hn⟩ root
    obtain ⟨names, hlength, hwalk⟩ :=
      foldl_walk_of_descend [] hn (root.components.foldl walk [])
    exact ⟨names, List.ne_nil_of_length_eq_add_one hlength, hwalk⟩

end Path

/-! ### Files of a build -/

namespace Job

theorem isAbsolute_trimSlashes (relative : String) : (trimSlashes relative).isAbsolute = false := by
  have h := List.head?_dropWhile_not (fun c => c == '/' || c == '\\') relative.toList
  rw [Path.isAbsolute, trimSlashes, String.toList_ofList]
  split at h
  · rename_i c hc
    rw [hc]
    simp_all
  · rename_i hc
    rw [hc]
    rfl

/-- A job whose file has a fixed path and a fixed text. -/
def fixed (path : String) : Job where
  target.name := "txt"
  target.params.outputs := [⟨"model", path, none⟩]
  target.library := [("@path/0", .plain "@path/0" path), ("model", .plain "model" "a model")]
  target.templates := ["model"]
  index := 0
  output := ⟨"model", path, none⟩
  definitionName := "Shop"
  definition := .null

theorem renderPath_fixed (path : String) (h : Text.trim path ≠ "") (context : Fields) :
    (fixed path).target.renderPath (fixed path).index (fixed path).output context =
      .ok (Text.trim path) := by
  have hname : Target.pathName 0 = "@path/0" := by decide
  refine Target.renderPath_of_plain ?_ h context
  rw [show (fixed path).index = 0 from rfl, hname]
  rfl

theorem renderContents_fixed (path : String) (context : Fields) :
    (fixed path).target.renderContents (fixed path).output context = .ok "a model" :=
  Target.renderContents_of_plain rfl rfl context

/-- The file for an element that can be rendered lies below the root of the build, whatever the root
is, iff its path, without the slashes in front, does not lead up out of its start and ends further
down. -/
theorem file_isBelow_iff {j : Job} {element : Value} {relative contents : String}
    (hpath : j.target.renderPath j.index j.output (j.target.context element j.definition) =
      .ok relative)
    (hcontents : j.target.renderContents j.output (j.target.context element j.definition) =
      .ok contents) :
    (∀ root, ∃ path, j.file root element = .ok (path, contents) ∧ path.IsBelow root) ↔
      ∃ n, (trimSlashes relative).depth? = some (n + 1) := by
  have hfile := file_of_rendered hpath hcontents
  rw [← Path.join_isBelow_iff (isAbsolute_trimSlashes relative)]
  constructor
  · intro h root
    obtain ⟨path, hroot, hbelow⟩ := h root
    rw [hfile] at hroot
    cases hroot
    exact hbelow
  · intro h root
    exact ⟨_, hfile root, h root⟩

theorem file_isBelow_fixed : (trimSlashes "/lib/../a.txt").depth? = some 1 ∧
    ∀ root, ∃ path, (fixed "/lib/../a.txt").file root .null = .ok (path, "a model") ∧
      path.IsBelow root := by
  have htrim : Text.trim "/lib/../a.txt" = "/lib/../a.txt" := by decide
  have hpath := renderPath_fixed "/lib/../a.txt" (by decide)
  rw [htrim] at hpath
  have hdepth : (trimSlashes "/lib/../a.txt").depth? = some 1 := by decide
  exact ⟨hdepth, (file_isBelow_iff (hpath _) (renderContents_fixed _ _)).mpr ⟨0, hdepth⟩⟩

/-- Two dots in front lead out of the root. -/
theorem file_not_isBelow :
    ∃ path, (fixed "../a.txt").file ⟨"out"⟩ .null = .ok (path, "a model") ∧
      ¬ path.IsBelow ⟨"out"⟩ := by
  refine ⟨_, file_of_rendered (renderPath_fixed _ (by decide) _)
    (renderContents_fixed _ _) ⟨"out"⟩, ?_⟩
  rintro ⟨names, _, hnormal⟩
  have hout : Path.normal ⟨"out"⟩ = [.name "out"] := by decide
  have hpath : Path.normal (Path.join ⟨"out"⟩ (trimSlashes (Text.trim "../a.txt"))) =
      [.name "a.txt"] := by decide
  rw [hout, hpath] at hnormal
  simp at hnormal

end Job

end Stencil
