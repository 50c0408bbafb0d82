import Mathlib.Data.Nat.Find
import Stencil.Words

/-! The words of a text are its runs of letters and numbers, cut where the case changes.

A run is a longest stretch of characters that may stand in a word (`IsRun`), and a word is what lies
between two neighbouring cuts of a run (`IsWord`). Both are stretches of places of the text, the end
not included. Whether a stretch is a word can be told from the characters in it and around it
(`isWord_iff`), which is all that splitting ever looks at: between two characters it knows a stretch
that is open (`IsOpen`), and it has given the words in front of it. -/

namespace Stencil.Words

open Text

/-- There is a character of a class at a place. -/
def Holds (cls : Char → Bool) (s : List Char) (i : Nat) : Prop := ∃ c, s[i]? = some c ∧ cls c = true

/-- A longest stretch of letters and numbers. -/
structure IsRun (s : List Char) (a b : Nat) : Prop where
  nonempty : a < b
  alphanumeric : ∀ i, a ≤ i → i < b → Holds isAlphanumeric s i
  before : a = 0 ∨ ¬ Holds isAlphanumeric s (a - 1)
  behind : ¬ Holds isAlphanumeric s b

/-- The case changes in front of a place: an upper-case character follows a lower-case character or
a number, or it follows another upper-case character and is followed by a lower-case one. -/
def CutBefore (s : List Char) (i : Nat) : Prop :=
  Holds isUppercase s i ∧
    (Holds isLowercase s (i - 1) ∨ Holds isNumeric s (i - 1) ∨
      (Holds isUppercase s (i - 1) ∧ Holds isLowercase s (i + 1)))

/-- A stretch of a run that starts with it or at a cut, ends with it or at a cut, and has no cut
inside. -/
structure IsWord (s : List Char) (a b : Nat) : Prop where
  nonempty : a < b
  uncut : ∀ i, a < i → i < b → ¬ CutBefore s i
  ofRun : ∃ first last, IsRun s first last ∧ first ≤ a ∧ b ≤ last ∧
    (a = first ∨ CutBefore s a) ∧ (b = last ∨ CutBefore s b)

/-! ### Words, told from the characters around them -/

/-- A word may start at a place: it does not continue one. -/
def Starts (s : List Char) (i : Nat) : Prop :=
  i = 0 ∨ ¬ Holds isAlphanumeric s (i - 1) ∨ CutBefore s i

/-- What may be the beginning of a word, up to a place. -/
structure IsOpen (s : List Char) (a n : Nat) : Prop where
  starts : Starts s a
  alphanumeric : ∀ i, a ≤ i → i < n → Holds isAlphanumeric s i
  uncut : ∀ i, a < i → i < n → ¬ CutBefore s i

theorem Holds.lt_length {cls : Char → Bool} {s : List Char} {i : Nat} (h : Holds cls s i) :
    i < s.length := by
  obtain ⟨c, hc, _⟩ := h
  exact (List.getElem?_eq_some_iff.mp hc).1

/-- Letters and numbers go on until some place behind. -/
theorem exists_behind (s : List Char) (i : Nat) :
    ∃ b, i ≤ b ∧ (∀ j, i ≤ j → j < b → Holds isAlphanumeric s j) ∧
      ¬ Holds isAlphanumeric s b := by
  classical
  have hsome : ∃ k, ¬ Holds isAlphanumeric s (i + k) :=
    ⟨s.length, fun h => absurd h.lt_length (by omega)⟩
  refine ⟨i + Nat.find hsome, by omega, fun j hij hj => ?_, Nat.find_spec hsome⟩
  have hmin := Nat.find_min hsome (m := j - i) (by omega)
  rw [show i + (j - i) = j by omega] at hmin
  exact not_not.mp hmin

/-- Letters and numbers go back to some place in front. -/
theorem exists_before (s : List Char) : ∀ i, ∃ a, a ≤ i ∧
    (∀ j, a ≤ j → j < i → Holds isAlphanumeric s j) ∧
      (a = 0 ∨ ¬ Holds isAlphanumeric s (a - 1))
  | 0 => ⟨0, by omega, by omega, .inl rfl⟩
  | i + 1 => by
    by_cases h : Holds isAlphanumeric s i
    · obtain ⟨a, ha, hinside, hbefore⟩ := exists_before s i
      refine ⟨a, by omega, fun j haj hj => ?_, hbefore⟩
      rcases Nat.lt_succ_iff_lt_or_eq.mp hj with hj | rfl
      · exact hinside j haj hj
      · exact h
    · exact ⟨i + 1, by omega, by omega, .inr h⟩

theorem exists_run {s : List Char} {i : Nat} (h : Holds isAlphanumeric s i) :
    ∃ first last, IsRun s first last ∧ first ≤ i ∧ i < last := by
  obtain ⟨first, hfirst, hfront, hbefore⟩ := exists_before s i
  obtain ⟨last, hlast, hback, hbehind⟩ := exists_behind s i
  have hne : i ≠ last := fun heq => hbehind (heq ▸ h)
  refine ⟨first, last, ⟨by omega, fun j hj hj' => ?_, hbefore, hbehind⟩, hfirst, by omega⟩
  by_cases hji : j < i
  · exact hfront j hj hji
  · exact hback j (by omega) hj'

theorem IsWord.alphanumeric {s : List Char} {a b : Nat} (h : IsWord s a b) :
    ∀ i, a ≤ i → i < b → Holds isAlphanumeric s i := by
  obtain ⟨first, last, hrun, hfirst, hlast, _, _⟩ := h.ofRun
  exact fun i hi hi' => hrun.alphanumeric i (by omega) (by omega)

/-- A word is what is open up to a place where no letter or number stands, or a cut. -/
theorem isWord_iff {s : List Char} {a b : Nat} :
    IsWord s a b ↔ a < b ∧ IsOpen s a b ∧ (¬ Holds isAlphanumeric s b ∨ CutBefore s b) := by
  constructor
  · intro h
    obtain ⟨first, last, hrun, _, _, hstart, hend⟩ := h.ofRun
    refine ⟨h.nonempty, ⟨?_, h.alphanumeric, h.uncut⟩, ?_⟩
    · rcases hstart with rfl | hcut
      · exact hrun.before.imp_right .inl
      · exact .inr (.inr hcut)
    · rcases hend with rfl | hcut
      · exact .inl hrun.behind
      · exact .inr hcut
  · rintro ⟨hab, hopen, hend⟩
    obtain ⟨first, last, hrun, hfirst, hlast⟩ := exists_run (hopen.alphanumeric a (by omega) hab)
    have hb : b ≤ last := by
      by_contra hlt
      exact hrun.behind (hopen.alphanumeric last (by omega) (by omega))
    refine ⟨hab, hopen.uncut, first, last, hrun, hfirst, hb, ?_, ?_⟩
    · rcases Nat.eq_or_lt_of_le hfirst with heq | hlt
      · exact .inl heq.symm
      · have hprevious := hrun.alphanumeric (a - 1) (by omega) (by omega)
        rcases hopen.starts with hzero | hbefore | hcut
        · omega
        · exact absurd hprevious hbefore
        · exact .inr hcut
    · rcases Nat.eq_or_lt_of_le hb with heq | hlt
      · exact .inl heq
      · exact .inr (hend.resolve_left (not_not_intro (hrun.alphanumeric b (by omega) hlt)))

theorem isOpen_of_starts {s : List Char} {n : Nat} (h : Starts s n) : IsOpen s n n :=
  ⟨h, by omega, by omega⟩

/-- One more letter or number stays in the word if it is the first one or is not cut off. -/
theorem IsOpen.extend {s : List Char} {a n : Nat} (h : IsOpen s a n)
    (hn : Holds isAlphanumeric s n) (hcut : a = n ∨ ¬ CutBefore s n) : IsOpen s a (n + 1) := by
  refine ⟨h.starts, fun i hi hi' => ?_, fun i hi hi' => ?_⟩
  · rcases Nat.lt_succ_iff_lt_or_eq.mp hi' with hlt | rfl
    · exact h.alphanumeric i hi hlt
    · exact hn
  · rcases Nat.lt_succ_iff_lt_or_eq.mp hi' with hlt | rfl
    · exact h.uncut i hi hlt
    · exact hcut.resolve_left (by omega)

/-! ### All words from a place on -/

/-- The words that start at a place or behind it, in order. -/
structure WordsFrom (s : List Char) (n : Nat) (spans : List (Nat × Nat)) : Prop where
  ordered : spans.Pairwise fun x y => x.2 ≤ y.1
  mem_iff : ∀ a b, (a, b) ∈ spans ↔ IsWord s a b ∧ n ≤ a

theorem wordsFrom_length (s : List Char) : WordsFrom s s.length [] := by
  refine ⟨.nil, fun a b => ⟨fun h => (by cases h), fun ⟨hword, ha⟩ => ?_⟩⟩
  have hlt := (hword.alphanumeric a (by omega) hword.nonempty).lt_length
  omega

/-- No word starts where no letter or number stands. -/
theorem WordsFrom.skip {s : List Char} {n : Nat} {spans : List (Nat × Nat)}
    (h : WordsFrom s (n + 1) spans) (hn : ¬ Holds isAlphanumeric s n) : WordsFrom s n spans := by
  refine ⟨h.ordered, fun a b => ?_⟩
  rw [h.mem_iff]
  refine and_congr_right fun hword => ⟨by omega, fun hna => ?_⟩
  have hne : n ≠ a := fun heq => hn (heq ▸ hword.alphanumeric a (by omega) hword.nonempty)
  omega

/-- Of the words from the start of a word on, that word is the first: no other word starts with it,
and none inside it. -/
theorem WordsFrom.cons {s : List Char} {a b : Nat} {spans : List (Nat × Nat)}
    (hword : IsWord s a b) (h : WordsFrom s b spans) : WordsFrom s a ((a, b) :: spans) := by
  have hab := hword.nonempty
  constructor
  · exact List.pairwise_cons.mpr ⟨fun ⟨a', b'⟩ hmem => ((h.mem_iff a' b').mp hmem).2, h.ordered⟩
  intro a' b'
  rw [List.mem_cons, h.mem_iff, Prod.mk.injEq]
  constructor
  · rintro (⟨rfl, rfl⟩ | ⟨hword', hb⟩)
    · exact ⟨hword, le_refl _⟩
    · exact ⟨hword', by omega⟩
  · rintro ⟨hword', ha⟩
    by_cases hb : b ≤ a'
    · exact .inr ⟨hword', hb⟩
    obtain ⟨_, hopen, hend⟩ := isWord_iff.mp hword
    obtain ⟨_, hopen', hend'⟩ := isWord_iff.mp hword'
    left
    -- inside the word there is neither a cut nor anything but letters and numbers
    have hstart : a' = a := by
      by_contra hne
      rcases hopen'.starts with hzero | hbefore | hcut
      · omega
      · exact hbefore (hopen.alphanumeric (a' - 1) (by omega) (by omega))
      · exact hopen.uncut a' (by omega) (by omega) hcut
    subst hstart
    refine ⟨rfl, ?_⟩
    rcases Nat.lt_trichotomy b b' with hlt | heq | hlt
    · rcases hend with hbehind | hcut
      · exact absurd (hopen'.alphanumeric b (by omega) hlt) hbehind
      · exact absurd hcut (hopen'.uncut b hab hlt)
    · exact heq.symm
    · rcases hend' with hbehind | hcut
      · exact absurd (hopen.alphanumeric b' (by omega) hlt) hbehind
      · exact absurd hcut (hopen.uncut b' (by omega) hlt)

/-! ### Splitting -/

/-- The characters of a stretch. -/
def stretch (s : List Char) (x : Nat × Nat) : List Char := (s.take x.2).drop x.1

theorem stretch_append (before middle rest : List Char) :
    stretch (before ++ middle ++ rest) (before.length, before.length + middle.length) = middle := by
  rw [stretch, ← List.length_append, List.take_left, List.drop_left]

theorem holds_iff {cls : Char → Bool} {s : List Char} {i : Nat} :
    Holds cls s i ↔ s[i]?.any cls = true := by
  rw [Option.any_eq_true]
  rfl

/-- A word is cut off in front of the next character iff the case changes there. -/
theorem isBoundary_iff {s before word rest : List Char} {previous c : Char}
    (hs : s = before ++ (previous :: word).reverse ++ c :: rest) :
    isBoundary previous c rest.head? = true ↔
      CutBefore s (before.length + (previous :: word).length) := by
  have hprevious : s[before.length + (previous :: word).length - 1]? = some previous := by simp [hs]
  have hcurrent : s[before.length + (previous :: word).length]? = some c := by simp [hs]
  have hnext : s[before.length + (previous :: word).length + 1]? = rest.head? := by
    have hlength : before.length + (previous :: word).length =
        (before ++ (previous :: word).reverse).length := by simp
    rw [hs, hlength, List.getElem?_append_right (Nat.le_add_right ..), Nat.add_sub_cancel_left,
      List.getElem?_cons_succ, List.head?_eq_getElem?]
  simp only [isBoundary, CutBefore, holds_iff, hprevious, hcurrent, hnext, Option.any_some,
    Bool.and_eq_true, Bool.or_eq_true, or_assoc]

/-- Closing the open word gives it in front of the words behind it. -/
theorem exists_close {s before word rest : List Char} (hs : s = before ++ word.reverse ++ rest)
    (hopen : IsOpen s before.length (before.length + word.length))
    (hend : ¬ Holds isAlphanumeric s (before.length + word.length) ∨
      CutBefore s (before.length + word.length)) {spans : List (Nat × Nat)}
    (hspans : WordsFrom s (before.length + word.length) spans) :
    ∃ spans', WordsFrom s before.length spans' ∧
      close word ++ spans.map (stretch s) = spans'.map (stretch s) := by
  cases word with
  | nil => exact ⟨spans, hspans, rfl⟩
  | cons previous word =>
    have hword : IsWord s before.length (before.length + (previous :: word).length) :=
      isWord_iff.mpr ⟨by simp, hopen, hend⟩
    refine ⟨_, hspans.cons hword, ?_⟩
    have hstretch := stretch_append before (previous :: word).reverse rest
    rw [← hs, List.length_reverse] at hstretch
    rw [List.map_cons, hstretch]
    rfl

/-- Splitting goes on from a word that is open: it gives the words from its start on. By induction
on the characters to come; each of them is skipped, opens a word, continues it or is cut off from
it. -/
theorem splitChars_gives {s : List Char} (before word rest : List Char)
    (hs : s = before ++ word.reverse ++ rest)
    (hopen : IsOpen s before.length (before.length + word.length)) :
    ∃ spans, WordsFrom s before.length spans ∧ splitChars word rest = spans.map (stretch s) := by
  fun_induction splitChars word rest generalizing before with
  | case1 word =>
    have hlength : before.length + word.length = s.length := by simp [hs]
    have hend : ¬ Holds isAlphanumeric s (before.length + word.length) := fun h =>
      absurd h.lt_length (by omega)
    obtain ⟨spans, hspans, heq⟩ := exists_close hs hopen (.inl hend)
      (hlength ▸ wordsFrom_length s)
    exact ⟨spans, hspans, by simpa using heq⟩
  | case2 c rest hc ih =>
    have hat : Holds isAlphanumeric s before.length := ⟨c, by simp [hs], hc⟩
    exact ih before (by simp [hs]) (hopen.extend hat (.inl rfl))
  | case3 c rest hc previous word hcut ih =>
    have hcut' := (isBoundary_iff hs).mp hcut
    have hat : Holds isAlphanumeric s (before.length + (previous :: word).length) :=
      ⟨c, by simp [hs], hc⟩
    have hlength : (before ++ (previous :: word).reverse).length =
        before.length + (previous :: word).length := by simp
    obtain ⟨spans, hspans, heq⟩ := ih (before ++ (previous :: word).reverse) (by simp [hs])
      (hlength ▸ (isOpen_of_starts (.inr (.inr hcut'))).extend hat (.inl rfl))
    rw [heq]
    exact exists_close hs hopen (.inr hcut') (hlength ▸ hspans)
  | case4 c rest hc previous word hcut ih =>
    have hcut' := mt (isBoundary_iff hs).mpr hcut
    have hat : Holds isAlphanumeric s (before.length + (previous :: word).length) :=
      ⟨c, by simp [hs], hc⟩
    exact ih before (by simp [hs]) (hopen.extend hat (.inr hcut'))
  | case5 word c rest hc ih =>
    have hend : ¬ Holds isAlphanumeric s (before.length + word.length) := by
      have hat : s[before.length + word.length]? = some c := by simp [hs]
      rw [holds_iff, hat]
      exact hc
    have hlength : (before ++ word.reverse ++ [c]).length = before.length + word.length + 1 := by
      simp [Nat.add_assoc]
    obtain ⟨spans, hspans, heq⟩ := ih (before ++ word.reverse ++ [c]) (by simp [hs])
      (hlength ▸ isOpen_of_starts (.inr (.inl hend)))
    rw [heq]
    exact exists_close hs hopen (.inl hend) (WordsFrom.skip (hlength ▸ hspans) hend)

/-- Splitting keeps the letters and numbers, in order, and drops all else. -/
theorem flatten_splitChars (word rest : List Char) :
    (splitChars word rest).flatten = word.reverse ++ rest.filter isAlphanumeric := by
  have hclose (word : List Char) : (close word).flatten = word.reverse := by
    cases word <;> simp [close]
  fun_induction splitChars word rest with
  | case1 word => simp [hclose]
  | case2 c rest hc ih => simp [hc, ih]
  | case3 c rest hc previous word hcut ih => simp [hc, ih, hclose]
  | case4 c rest hc previous word hcut ih => simp [hc, ih]
  | case5 word c rest hc ih => simp [hc, ih, hclose]

theorem IsWord.stretch_ne_nil {s : List Char} {a b : Nat} (h : IsWord s a b) :
    stretch s (a, b) ≠ [] := by
  have hab := h.nonempty
  have hb := (h.alphanumeric (b - 1) (by omega) (by omega)).lt_length
  refine List.ne_nil_of_length_pos ?_
  rw [stretch, List.length_drop, List.length_take]
  omega

/-- The words of a text are its longest stretches of letters and numbers, each cut where the case
changes in it, in order. So no word is empty, none has anything but letters and numbers in it, and
all words together are the letters and numbers of the text. -/
theorem split_cuts_runs (s : String) :
    (∃ spans : List (Nat × Nat), spans.Pairwise (fun x y => x.2 ≤ y.1) ∧
      (∀ a b, (a, b) ∈ spans ↔ IsWord s.toList a b) ∧
      split s = spans.map fun x => String.ofList (stretch s.toList x)) ∧
    String.join (split s) = String.ofList (s.toList.filter isAlphanumeric) ∧
    ∀ w ∈ split s, w ≠ "" ∧ ∀ c ∈ w.toList, isAlphanumeric c = true := by
  have hopen : IsOpen s.toList 0 0 := isOpen_of_starts (.inl rfl)
  obtain ⟨spans, hspans, hwords⟩ := splitChars_gives (s := s.toList) [] [] s.toList rfl hopen
  have hmem (a b : Nat) : (a, b) ∈ spans ↔ IsWord s.toList a b := by
    rw [hspans.mem_iff]
    exact and_iff_left (Nat.zero_le a)
  have hflatten := flatten_splitChars [] s.toList
  refine ⟨⟨spans, hspans.ordered, hmem, ?_⟩, ?_, fun w hw => ?_⟩
  · rw [split, hwords, List.map_map]
    rfl
  · rw [← String.toList_inj, String.toList_join, split, List.flatMap_def, List.map_map,
      String.toList_comp_ofList, List.map_id, hflatten, String.toList_ofList]
    rfl
  · obtain ⟨cs, hcs, rfl⟩ := List.mem_map.mp hw
    constructor
    · obtain ⟨⟨a, b⟩, hspan, rfl⟩ := List.mem_map.mp (hwords ▸ hcs)
      exact mt String.ofList_eq_empty_iff.mp ((hmem a b).mp hspan).stretch_ne_nil
    · intro c hc
      have hall : c ∈ (splitChars [] s.toList).flatten :=
        List.mem_flatten.mpr ⟨cs, hcs, by rwa [String.toList_ofList] at hc⟩
      rw [hflatten] at hall
      exact (List.mem_filter.mp hall).2

example : split "parseHTMLPage_v2Beta" = ["parse", "HTML", "Page", "v2", "Beta"] := by
  decide

end Stencil.Words
