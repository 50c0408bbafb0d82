import Stencil.Glob.Expand
import Stencil.Proofs.Files.Joining

/-! How a pattern is read that starts with an escaped directory.

Each character of an escaped text is read as a part of a pattern that stands for this character
alone. So the pieces of the directory are read as components that stand for one name each
(`Component.exact`), and the pieces behind them as if nothing stood in front of them. -/

namespace Stencil.Glob

/-- Whether a character has a meaning of its own in patterns. -/
def isMeta (c : Char) : Bool := c == '?' || c == '*' || c == '[' || c == ']'

/-- How a character is escaped. -/
def escapeChar (c : Char) : List Char := if isMeta c then ['[', c, ']'] else [c]

/-- What an escaped character is read as. -/
def Token.exact (c : Char) : Token := if isMeta c then .within [.single c] else .char c

/-- What an escaped piece of a path is read as. -/
def Component.exact (s : String) : Component := .ofTokens (s.toList.map Token.exact)

theorem toList_escape (s : String) : (escape s).toList = s.toList.flatMap escapeChar := by
  rw [escape, String.toList_ofList]
  rfl

/-! ### Reading characters -/

theorem tokensFrom_plain {c : Char} (h : isMeta c = false) (position : Nat)
    (previous : Option Char) (rest : List Char) :
    tokensFrom position previous (c :: rest) =
      (tokensFrom (position + 1) c rest).map (.char c :: ·) := by
  simp only [isMeta, Bool.or_eq_false_iff, beq_eq_false_iff_ne] at h
  rw [tokensFrom]
  · cases tokensFrom (position + 1) c rest <;> rfl
  all_goals grind

theorem tokensFrom_class {c : Char} (h : c ≠ '!') (position : Nat) (previous : Option Char)
    (rest : List Char) :
    tokensFrom position previous ('[' :: c :: ']' :: rest) =
      (tokensFrom (position + 3) ']' rest).map (.within [.single c] :: ·) := by
  have hread : readClass (c :: ']' :: rest) = some (.within [.single c], rest) := by
    unfold readClass
    split
    · simp_all
    · simp [splitClass, ranges]
  have hposition : position + 1 + (c :: ']' :: rest).length - rest.length = position + 3 := by
    simp only [List.length_cons]
    omega
  rw [tokensFrom]
  split
  · simp_all
  · rename_i t after heq
    cases hread.symm.trans heq
    rw [hposition]
    cases tokensFrom (position + 3) ']' rest <;> rfl

/-- Escaped characters are read as parts that stand for these characters, whatever follows. -/
theorem exists_tokensFrom_escaped (s rest : List Char) (position : Nat) (previous : Option Char) :
    ∃ position' previous', tokensFrom position previous (s.flatMap escapeChar ++ rest) =
      (tokensFrom position' previous' rest).map (s.map Token.exact ++ ·) := by
  induction s generalizing position previous with
  | nil =>
    have hmap (x : Except Error (List Token)) : x = x.map ([] ++ ·) := by cases x <;> rfl
    exact ⟨position, previous, hmap _⟩
  | cons c s ih =>
    have hmap (x : Except Error (List Token)) (t : Token) :
        (x.map (s.map Token.exact ++ ·)).map (t :: ·) = x.map (t :: s.map Token.exact ++ ·) := by
      cases x <;> rfl
    rw [List.flatMap_cons, List.append_assoc, List.map_cons]
    cases hc : isMeta c with
    | false =>
      obtain ⟨position', previous', h⟩ := ih (position + 1) c
      refine ⟨position', previous', ?_⟩
      simp only [escapeChar, Token.exact, hc, Bool.false_eq_true, if_false, List.singleton_append]
      rw [tokensFrom_plain hc, h, hmap]
    | true =>
      obtain ⟨position', previous', h⟩ := ih (position + 3) ']'
      have hbang : c ≠ '!' := by rintro rfl; cases hc
      refine ⟨position', previous', ?_⟩
      simp only [escapeChar, Token.exact, hc, if_true, List.cons_append, List.nil_append]
      rw [tokensFrom_class hbang, h, hmap]
      rfl

theorem tokens_escaped (s : List Char) :
    tokens (s.flatMap escapeChar) = .ok (s.map Token.exact) := by
  obtain ⟨position, previous, h⟩ := exists_tokensFrom_escaped s [] 0 none
  rw [List.append_nil] at h
  rw [tokens, h, tokensFrom]
  simp [Except.map]

/-- Whether a pattern can be read depends neither on where it stands nor on what stands before it,
as long as it is the start of a component or not in both cases. -/
theorem tokensFrom_congr {position : Nat} {previous : Option Char} {cs : List Char}
    {ts : List Token} (h : tokensFrom position previous cs = .ok ts) (position' : Nat)
    {previous' : Option Char} (hstart : (previous == none || previous == some '/') =
      (previous' == none || previous' == some '/')) :
    tokensFrom position' previous' cs = .ok ts := by
  fun_induction tokensFrom position previous cs generalizing ts position' previous' with
  | case1 => rw [tokensFrom]; exact h
  | case2 position previous rest ih =>
    obtain ⟨_, hrest, hts⟩ := Outcome.bind_eq_ok.mp h
    rw [tokensFrom]
    exact Outcome.bind_eq_ok.mpr ⟨_, ih hrest _ rfl, hts⟩
  | case3 => cases h
  | case4 position previous rest t after hclass _ ih =>
    obtain ⟨_, hrest, hts⟩ := Outcome.bind_eq_ok.mp h
    rw [tokensFrom]
    split
    · rename_i hnone
      cases hclass.symm.trans hnone
    · rename_i heq
      cases hclass.symm.trans heq
      exact Outcome.bind_eq_ok.mpr ⟨_, ih hrest _ rfl, hts⟩
  | case5 => cases h
  | case6 position previous hprevious =>
    rw [tokensFrom, if_pos (hstart ▸ hprevious)]
    exact h
  | case7 position previous hprevious after _ ih =>
    obtain ⟨_, hrest, hts⟩ := Outcome.bind_eq_ok.mp h
    rw [tokensFrom, if_pos (hstart ▸ hprevious)]
    exact Outcome.bind_eq_ok.mpr ⟨_, ih hrest _ rfl, hts⟩
  | case8 => cases h
  | case9 => cases h
  | case10 position previous rest hthree htwo ih =>
    obtain ⟨_, hrest, hts⟩ := Outcome.bind_eq_ok.mp h
    rw [tokensFrom]
    · exact Outcome.bind_eq_ok.mpr ⟨_, ih hrest _ rfl, hts⟩
    · exact hthree
    · exact htwo
  | case11 position previous c rest hany hclass hthree htwo hone ih =>
    obtain ⟨_, hrest, hts⟩ := Outcome.bind_eq_ok.mp h
    rw [tokensFrom]
    · exact Outcome.bind_eq_ok.mpr ⟨_, ih hrest _ rfl, hts⟩
    · exact hany
    · exact hclass
    · exact hthree
    · exact htwo
    · exact hone

/-! ### Components -/

theorem Token.accepts_exact (c x : Char) : (Token.exact c).accepts x = (c == x) := by
  unfold Token.exact
  split <;> simp [Token.accepts, Range.contains]

theorem isMatch_cons {t : Token} (ht : t ≠ .anyText) (ts : List Token) (c : Char)
    (cs : List Char) : isMatch (t :: ts) (c :: cs) = (t.accepts c && isMatch ts cs) := by
  rw [isMatch]
  exact fun h => ht h

/-- Escaped characters stand for the text that they are. -/
theorem isMatch_exact {s name : List Char} : isMatch (s.map Token.exact) name ↔ name = s := by
  induction s generalizing name with
  | nil => cases name <;> simp [isMatch]
  | cons c s ih =>
    have hc : Token.exact c ≠ .anyText := by
      unfold Token.exact
      split <;> simp
    cases name with
    | nil =>
      rw [List.map_cons, isMatch]
      · simp
      · exact fun h => hc h
    | cons x name =>
      rw [List.map_cons, isMatch_cons hc, Bool.and_eq_true, Token.accepts_exact, beq_iff_eq, ih,
        List.cons.injEq, eq_comm]

theorem literal?_char (c : Char) (ts : List Token) :
    literal? (.char c :: ts) = (literal? ts).map (c :: ·) := by
  rw [literal?, List.mapM_cons]
  cases h : literal? ts <;> simp [literal?] at h ⊢ <;> simp [h]

theorem literal?_of_ne {t : Token} (h : ∀ c, t ≠ .char c) (ts : List Token) :
    literal? (t :: ts) = none := by
  rw [literal?, List.mapM_cons]
  cases t <;> simp_all

/-- A text without characters of a meaning of its own is looked up as it is. -/
theorem literal?_exact (s : List Char) :
    literal? (s.map Token.exact) = if s.any isMeta then none else some s := by
  induction s with
  | nil => rfl
  | cons c s ih =>
    cases hc : isMeta c with
    | false =>
      rw [List.map_cons, show Token.exact c = .char c by simp [Token.exact, hc], literal?_char, ih]
      simp only [List.any_cons, hc, Bool.false_or]
      split <;> rfl
    | true =>
      rw [List.map_cons, literal?_of_ne]
      · simp [hc]
      · simp [Token.exact, hc]

theorem Component.exact_eq (s : String) : Component.exact s =
    if s.toList.any isMeta then .wildcard (s.toList.map Token.exact) else .literal s := by
  have hdirs : s.toList.map Token.exact ≠ [.anyDirs] := by
    intro h
    obtain ⟨c, _, hc⟩ := List.mem_map.mp (h ▸ List.mem_singleton_self Token.anyDirs)
    unfold Token.exact at hc
    split at hc <;> cases hc
  rw [Component.exact, Component.ofTokens, if_neg hdirs, literal?_exact]
  cases s.toList.any isMeta <;> simp

theorem ne_char_of_readClass {cs after : List Char} {t : Token}
    (h : readClass cs = some (t, after)) (c : Char) : t ≠ .char c := by
  rintro rfl
  unfold readClass at h
  split at h <;> obtain ⟨_, _, ht⟩ := Option.map_eq_some_iff.mp h <;> cases ht

/-- Only a text that stands for itself is looked up as it is. -/
theorem eq_of_literal? {position : Nat} {previous : Option Char} {cs : List Char}
    {ts : List Token} (h : tokensFrom position previous cs = .ok ts) {name : List Char}
    (hname : literal? ts = some name) : name = cs := by
  have hnone {t : Token} (ht : ∀ c, t ≠ .char c) {x : Except Error (List Token)}
      {ts : List Token} (h : (do return t :: (← x)) = .ok ts) {name : List Char}
      (hname : literal? ts = some name) : False := by
    obtain ⟨rest, _, hts⟩ := Outcome.bind_eq_ok.mp h
    rw [Outcome.pure_eq_ok.mp hts, literal?_of_ne ht] at hname
    cases hname
  fun_induction tokensFrom position previous cs generalizing ts name with
  | case1 =>
    cases h
    exact (Option.some.inj hname).symm
  | case2 => exact (hnone (by simp) h hname).elim
  | case3 => cases h
  | case4 _ _ _ _ _ hclass => exact (hnone (ne_char_of_readClass hclass) h hname).elim
  | case5 => cases h
  | case6 =>
    cases h
    cases hname
  | case7 => exact (hnone (by simp) h hname).elim
  | case8 => cases h
  | case9 => cases h
  | case10 => exact (hnone (by simp) h hname).elim
  | case11 _ _ c rest _ _ _ _ _ ih =>
    obtain ⟨ts', hrest, hts⟩ := Outcome.bind_eq_ok.mp h
    rw [Outcome.pure_eq_ok.mp hts, literal?_char, Option.map_eq_some_iff] at hname
    obtain ⟨name', hname', rfl⟩ := hname
    rw [ih hrest hname']

/-! ### Escaped directories -/

theorem escape_append (s t : String) : escape (s ++ t) = escape s ++ escape t := by
  rw [← String.toList_inj]
  simp [toList_escape]

theorem isEmpty_escape (s : String) : (escape s).isEmpty = s.isEmpty := by
  have hne (c : Char) : escapeChar c ≠ [] := by
    unfold escapeChar
    split <;> simp
  rw [Bool.eq_iff_iff, String.isEmpty_iff, String.isEmpty_iff, ← String.toList_eq_nil_iff,
    ← String.toList_eq_nil_iff, toList_escape]
  cases s.toList <;> simp [hne]

theorem slash_notMem_escapeChar {c : Char} (h : c ≠ '/') : '/' ∉ escapeChar c := by
  unfold escapeChar
  split <;> simp [Ne.symm h]

theorem splitOn_append_of_notMem {s : List Char} (h : '/' ∉ s) (t : List Char) :
    (s ++ t).splitOn '/' = (t.splitOn '/').modifyHead (s ++ ·) := by
  induction s with
  | nil =>
    change t.splitOn '/' = (t.splitOn '/').modifyHead id
    rw [List.modifyHead_id, id]
  | cons c s ih =>
    obtain ⟨hc, hs⟩ := not_or.mp (mt List.mem_cons.mpr h)
    rw [List.cons_append, List.splitOn_cons_eq_if_modifyHead, if_neg (by simpa using Ne.symm hc),
      ih hs, List.modifyHead_modifyHead]
    rfl

/-- Escaping leaves slashes alone and makes no new ones. -/
theorem splitOn_escaped (s : List Char) :
    (s.flatMap escapeChar).splitOn '/' = (s.splitOn '/').map (·.flatMap escapeChar) := by
  induction s with
  | nil => simp
  | cons c s ih =>
    rw [List.flatMap_cons, List.splitOn_cons_eq_if_modifyHead]
    by_cases hc : c = '/'
    · subst hc
      rw [show escapeChar '/' = ['/'] from rfl, List.singleton_append,
        List.splitOn_cons_eq_if_modifyHead, ih]
      rfl
    · rw [splitOn_append_of_notMem (slash_notMem_escapeChar hc), ih, if_neg (by simpa using hc)]
      cases s.splitOn '/' <;> rfl

theorem pieces_escape (s : String) : Path.pieces ⟨escape s⟩ = (Path.pieces ⟨s⟩).map escape := by
  rw [Path.pieces, toList_escape, splitOn_escaped, Path.pieces, List.map_map, List.map_map]
  refine List.map_congr_left fun cs _ => ?_
  rw [Function.comp_apply, Function.comp_apply, ← String.toList_inj, toList_escape,
    String.toList_ofList, String.toList_ofList]

theorem endsInSlash_escape (s : String) :
    Disk.endsInSlash ⟨escape s⟩ = Disk.endsInSlash ⟨s⟩ := by
  unfold Disk.endsInSlash
  rw [toList_escape]
  rcases List.eq_nil_or_concat' s.toList with hnil | ⟨init, c, hs⟩
  · rw [hnil]
    rfl
  · rw [hs, List.flatMap_append, List.getLast?_concat]
    by_cases hc : isMeta c = true
    · have hslash : c ≠ '/' := by rintro rfl; cases hc
      simp [escapeChar, hc, hslash]
    · simp [escapeChar, hc]

theorem front_escape (s : String) : Path.front ⟨escape s⟩ = (Path.front ⟨s⟩).map escape := by
  unfold Path.front
  rw [pieces_escape, endsInSlash_escape, isEmpty_escape]
  split
  · rfl
  · split <;> simp

theorem isAbsolute_escape (s : String) : Path.isAbsolute ⟨escape s⟩ = Path.isAbsolute ⟨s⟩ := by
  unfold Path.isAbsolute
  rw [toList_escape]
  cases s.toList with
  | nil => rfl
  | cons c cs =>
    rw [List.flatMap_cons]
    by_cases hc : isMeta c = true
    · have hslash : c ≠ '/' := by rintro rfl; cases hc
      simp [escapeChar, hc, hslash]
    · simp [escapeChar, hc]

/-! ### Patterns behind an escaped directory -/

/-- The pieces of a directory that stand in front of a pattern, from the root or from the working
directory on. -/
def base (dir : Path) : List String := if dir.isAbsolute then dir.front.tail else dir.front

theorem filter_base (dir : Path) : (base dir).filter (· ≠ "") = dir.segments := by
  rw [← dir.filter_front, base]
  split
  · rename_i habsolute
    obtain ⟨k, hk⟩ := Path.exists_front_eq habsolute
    simp [hk]
  · rfl

/-- A pattern behind a directory can be read as a whole if it can be read alone. -/
theorem exists_tokens_join (dir : Path) {p : String} (hrelative : (Path.mk p).isAbsolute = false)
    {ts : List Token} (h : tokens p.toList = .ok ts) :
    ∃ ts', tokens (Path.join ⟨escape dir.text⟩ ⟨p⟩).text.toList = .ok ts' := by
  have hbehind (s : String) : ∃ ts', tokens (escape s ++ "/" ++ p).toList = .ok ts' := by
    have hlist : (escape s ++ "/" ++ p).toList =
        s.toList.flatMap escapeChar ++ '/' :: p.toList := by
      simp [toList_escape]
    obtain ⟨position, previous, hread⟩ :=
      exists_tokensFrom_escaped s.toList ('/' :: p.toList) 0 none
    have hp : tokensFrom (position + 1) (some '/') p.toList = .ok ts :=
      tokensFrom_congr h (position + 1) rfl
    rw [hlist, tokens, hread, tokensFrom_plain rfl, hp]
    exact ⟨_, rfl⟩
  rw [Path.join, hrelative, Bool.false_or]
  split
  · exact ⟨ts, h⟩
  · split
    · rename_i hslash
      have hslash : Disk.endsInSlash dir := (endsInSlash_escape dir.text).symm.trans hslash
      obtain ⟨s, htext, _⟩ := Path.exists_text_eq hslash
      rw [htext, escape_append]
      exact hbehind s
    · exact hbehind dir.text

theorem exact_ne_anyDirs (s : String) : Component.exact s ≠ .anyDirs := by
  rw [Component.exact_eq]
  split <;> simp

theorem collapse_append (names : List String) (cs : List Component) :
    collapse (names.map Component.exact ++ cs) = names.map Component.exact ++ collapse cs := by
  induction names with
  | nil => rfl
  | cons s names ih =>
    rw [List.map_cons, List.cons_append, collapse, ih]
    · rfl
    · exact fun _ h => absurd h (exact_ne_anyDirs s)

theorem splitOn_text (p : Path) : p.text.toList.splitOn '/' = p.pieces.map String.toList := by
  rw [Path.pieces, List.map_map]
  exact ((List.map_congr_left fun _ _ => String.toList_ofList).trans (List.map_id _)).symm

/-- What a pattern of paths is read from: its text without a slash in front. -/
def inner (pattern : Path) : List Char :=
  if pattern.isAbsolute then pattern.text.toList.tail else pattern.text.toList

theorem splitOn_inner (dir : Path) {p : String} (hrelative : (Path.mk p).isAbsolute = false) :
    (inner (Path.join ⟨escape dir.text⟩ ⟨p⟩)).splitOn '/' =
      (base dir).map (fun s => (escape s).toList) ++ p.toList.splitOn '/' := by
  have hpieces := splitOn_text (Path.join ⟨escape dir.text⟩ ⟨p⟩)
  rw [Path.pieces_join _ hrelative, front_escape, List.map_append, List.map_map,
    ← splitOn_text] at hpieces
  have habsolute : (Path.join ⟨escape dir.text⟩ ⟨p⟩).isAbsolute = dir.isAbsolute := by
    rw [Path.isAbsolute_join hrelative, isAbsolute_escape]
  rw [inner, base, habsolute]
  split
  · rename_i habs
    obtain ⟨rest, hrest⟩ := List.head?_eq_some_iff.mp
      (beq_iff_eq.mp (habsolute.trans habs))
    obtain ⟨k, hk⟩ := Path.exists_front_eq habs
    rw [hrest, hk, List.splitOn_cons_eq_if_modifyHead, if_pos (beq_self_eq_true '/'),
      List.map_cons, List.cons_append] at hpieces
    rw [hrest, hk]
    exact (List.cons.inj hpieces).2
  · exact hpieces

theorem components_eq_ok {pattern : Path} {cs : List Component} :
    components pattern = .ok cs ↔ (∃ ts, tokens pattern.text.toList = .ok ts) ∧
      ∃ parts, (pieces (inner pattern)).mapM tokens = .ok parts ∧
        cs = collapse (parts.map Component.ofTokens) := by
  unfold components
  simp only [Outcome.bind_eq_ok, Outcome.pure_eq_ok]
  constructor
  · rintro ⟨ts, hts, parts, hparts, rfl⟩
    exact ⟨⟨ts, hts⟩, parts, hparts, rfl⟩
  · rintro ⟨⟨ts, hts⟩, parts, hparts, rfl⟩
    exact ⟨ts, hts, parts, hparts, rfl⟩

theorem mapM_tokens_escaped (names : List String) :
    (names.map fun s => (escape s).toList).mapM tokens =
      .ok (names.map fun s => s.toList.map Token.exact) := by
  rw [Outcome.mapM_eq_ok, List.forall₂_map_left_iff, List.forall₂_map_right_iff, List.forall₂_same]
  intro s _
  rw [toList_escape, tokens_escaped]

theorem one_lt_length_splitOn {b : List Char} (hb : b ≠ [])
    (hlast : (b.splitOn '/').getLast? = some []) : (b.splitOn '/').length > 1 := by
  have hpos := List.length_pos_iff.mpr (List.splitOn_ne_nil '/' b)
  refine Nat.lt_of_le_of_ne hpos fun hlength => ?_
  obtain ⟨only, honly⟩ := List.length_eq_one_iff.mp hlength.symm
  have htext := @List.intercalate_splitOn _ b _ _ '/'
  rw [honly, List.intercalate_singleton] at htext
  rw [honly, htext] at hlast
  exact hb (Option.some.inj hlast)

/-- Only the last piece of a pattern may be dropped, and of a pattern that is not empty it is
dropped whatever stands in front. -/
theorem pieces_append {a b : List Char} {front : List (List Char)}
    (h : a.splitOn '/' = front ++ b.splitOn '/') (hb : b ≠ []) :
    pieces a = front ++ pieces b := by
  have hne := List.splitOn_ne_nil '/' b
  unfold pieces
  rw [h]
  simp only [List.getLast?_append_of_ne_nil _ hne, List.dropLast_append_of_ne_nil hne,
    List.length_append]
  by_cases hlast : (b.splitOn '/').getLast? = some []
  · have hlong := one_lt_length_splitOn hb hlast
    have hlonger : front.length + (b.splitOn '/').length > 1 := by omega
    simp [hlast, hlong, hlonger]
  · simp [hlast]

theorem components_of_pieces (dir : Path) {p : String}
    (hrelative : (Path.mk p).isAbsolute = false) {ts : List Token}
    (hts : tokens p.toList = .ok ts) {rest : List (List Char)}
    (hpieces : pieces (inner (Path.join ⟨escape dir.text⟩ ⟨p⟩)) =
      (base dir).map (fun s => (escape s).toList) ++ rest)
    {parts : List (List Token)} (hparts : rest.mapM tokens = .ok parts) :
    components (Path.join ⟨escape dir.text⟩ ⟨p⟩) =
      .ok ((base dir).map Component.exact ++ collapse (parts.map Component.ofTokens)) := by
  refine components_eq_ok.mpr ⟨exists_tokens_join dir hrelative hts,
    (base dir).map (fun s => s.toList.map Token.exact) ++ parts, ?_, ?_⟩
  · rw [hpieces, List.mapM_append, mapM_tokens_escaped]
    simp only [hparts]
    rfl
  · rw [List.map_append, List.map_map]
    exact (collapse_append (base dir) _).symm

/-- A pattern behind a directory is read as the pieces of the directory and then the pattern. -/
theorem components_join (dir : Path) {p : String} (hrelative : (Path.mk p).isAbsolute = false)
    (hne : p ≠ "") {cs : List Component} (h : components ⟨p⟩ = .ok cs) :
    components (Path.join ⟨escape dir.text⟩ ⟨p⟩) =
      .ok ((base dir).map Component.exact ++ cs) := by
  obtain ⟨⟨ts, hts⟩, parts, hparts, rfl⟩ := components_eq_ok.mp h
  rw [inner, hrelative, if_neg Bool.false_ne_true] at hparts
  have hpieces := pieces_append (splitOn_inner dir hrelative) (mt String.toList_eq_nil_iff.mp hne)
  exact components_of_pieces dir hrelative hts hpieces hparts

/-- Behind a directory the empty pattern adds at most an empty component. -/
theorem exists_components_join_empty (dir : Path) : ∃ cs, (cs = [] ∨ cs = [.literal ""]) ∧
    components (Path.join ⟨escape dir.text⟩ ⟨""⟩) = .ok ((base dir).map Component.exact ++ cs) := by
  have hempty : tokens "".toList = .ok [] := by rw [String.toList_empty, tokens, tokensFrom]
  have hsplit := splitOn_inner dir (p := "") rfl
  rw [show "".toList.splitOn '/' = [[]] from rfl] at hsplit
  cases hbase : base dir with
  | nil =>
    rw [hbase] at hsplit
    have hpieces : pieces (inner (Path.join ⟨escape dir.text⟩ ⟨""⟩)) =
        (base dir).map (fun s => (escape s).toList) ++ [[]] := by
      rw [pieces, hsplit, hbase]
      rfl
    have hparts : ["".toList].mapM tokens = .ok [[]] := by rw [List.mapM_cons, hempty]; rfl
    exact ⟨[.literal ""], .inr rfl, hbase ▸ components_of_pieces dir rfl hempty hpieces hparts⟩
  | cons s names =>
    have hpieces : pieces (inner (Path.join ⟨escape dir.text⟩ ⟨""⟩)) =
        (base dir).map (fun s => (escape s).toList) ++ [] := by
      have hlong : ((base dir).map (fun s => (escape s).toList) ++ [[]]).length > 1 := by
        simp [hbase]
      rw [pieces, hsplit]
      simp only [hlong, List.getLast?_concat, List.dropLast_concat]
      simp
    exact ⟨[], .inl rfl, hbase ▸ components_of_pieces dir rfl hempty hpieces rfl⟩

end Stencil.Glob
