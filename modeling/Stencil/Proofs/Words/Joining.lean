import Stencil.Proofs.Words.Splitting

/-! Words that have been joined can be split again.

All conversions start from the words in lower case (`lowWords`), so texts with the same words in
lower case are alike to each of them. Of ASCII text such words hold small letters and digits alone
(`IsLow`). Between two of them a separator is a boundary in any case. Without separators the capital
in front of a word is one if the word before it ends in a small letter or a digit, which it does
once it has a second character. -/

namespace Stencil.Words

open Text

/-- A text of ASCII characters. -/
def IsAsciiText (s : String) : Prop := ∀ c ∈ s.toList, isAscii c = true

instance (s : String) : Decidable (IsAsciiText s) :=
  decidable_of_iff (s.toList.all isAscii = true) List.all_eq_true

/-- Small letters and digits. -/
def isLow (c : Char) : Bool := c.isLower || c.isDigit

/-- A word of small letters and digits. -/
structure IsLow (w : String) : Prop where
  nonempty : w ≠ ""
  low : ∀ c ∈ w.toList, isLow c = true

/-- The words of a text in lower case. -/
def lowWords (s : String) : List String := (split s).map lower

theorem pascalCase_eq (s : String) : pascalCase s = String.join ((lowWords s).map upperFirst) := by
  rw [lowWords, List.map_map]
  rfl

/-- Conversions tell texts apart by their words in lower case alone. -/
theorem cases_eq_of_lowWords_eq {s t : String} (h : lowWords t = lowWords s) :
    snakeCase t = snakeCase s ∧ kebabCase t = kebabCase s ∧
      pascalCase t = pascalCase s ∧ camelCase t = camelCase s := by
  have hpascal : pascalCase t = pascalCase s := by rw [pascalCase_eq, pascalCase_eq, h]
  exact ⟨congrArg ("_".intercalate ·) h, congrArg ("-".intercalate ·) h, hpascal,
    congrArg lowerFirst hpascal⟩

/-! ### ASCII characters -/

theorem forall_ascii {P : Char → Prop} (h : ∀ n : Fin 128, P (Char.ofNat n)) {c : Char}
    (hc : isAscii c = true) : P c := by
  have hlt : c.toNat < 128 := by simpa [isAscii] using hc
  simpa using h ⟨c.toNat, hlt⟩

theorem isAscii_of_isLow {c : Char} (h : isLow c = true) : isAscii c = true := by
  have hle : c.toNat ≤ 'z'.toNat ∨ c.toNat ≤ '9'.toNat := by
    rcases Bool.or_eq_true_iff.mp h with hlower | hdigit
    · have hz := of_decide_eq_true (Bool.and_eq_true_iff.mp hlower).2
      exact .inl (UInt32.le_iff_toNat_le.mp hz)
    · exact .inr (Char.isDigit_iff_toNat.mp hdigit).2
  rw [isAscii, decide_eq_true_eq]
  have hz : 'z'.toNat = 122 := rfl
  have hnine : '9'.toNat = 57 := rfl
  omega

/-- What splitting and casing see of a small letter or digit. -/
structure LooksLow (c : Char) : Prop where
  alphanumeric : isAlphanumeric c = true
  notUpper : isUppercase c = false
  lowerOrNumber : isLowercase c = true ∨ isNumeric c = true
  upper : isAscii c.toUpper = true ∧ isAlphanumeric c.toUpper = true
  toLower : c.toLower = c
  toLower_toUpper : c.toUpper.toLower = c

theorem looksLow {c : Char} (h : isLow c = true) : LooksLow c := by
  obtain ⟨h₁, h₂, h₃, h₄, h₅, h₆⟩ := forall_ascii
    (P := fun c => isLow c = true → isAlphanumeric c = true ∧ isUppercase c = false ∧
      (isLowercase c = true ∨ isNumeric c = true) ∧
      (isAscii c.toUpper = true ∧ isAlphanumeric c.toUpper = true) ∧
      c.toLower = c ∧ c.toUpper.toLower = c)
    (by decide) (isAscii_of_isLow h) h
  exact ⟨h₁, h₂, h₃, h₄, h₅, h₆⟩

theorem isLow_toLower {c : Char} (hc : isAscii c = true) :
    isAlphanumeric c = true → isLow c.toLower = true :=
  forall_ascii (P := fun c => isAlphanumeric c = true → isLow c.toLower = true)
    (by decide) hc

theorem isUppercase_toUpper_toLower {c : Char} (hc : isAscii c = true) :
    isAlphabetic c = true → isUppercase c.toLower.toUpper = true :=
  forall_ascii (P := fun c => isAlphabetic c = true → isUppercase c.toLower.toUpper = true)
    (by decide) hc

/-! ### Casing of ASCII text -/

theorem lowerAfter_ascii : ∀ {cs : List Char} (before : List Char), (∀ c ∈ cs, isAscii c = true) →
    lowerAfter before cs = cs.map Char.toLower
  | [], _, _ => rfl
  | c :: cs, before, h => by
    obtain ⟨hc, hcs⟩ := List.forall_mem_cons.mp h
    have hsigma : ¬ (c == 'Σ') = true := fun heq => by simp [beq_iff_eq.mp heq, isAscii] at hc
    rw [lowerAfter, lowerAfter_ascii _ hcs, if_neg hsigma, lowerChar, if_pos hc]
    rfl

theorem toList_lower {s : String} (h : IsAsciiText s) :
    (lower s).toList = s.toList.map Char.toLower := by
  rw [lower, String.toList_ofList, lowerAfter_ascii [] h]

theorem map_toLower_low {cs : List Char} (h : ∀ c ∈ cs, isLow c = true) :
    cs.map Char.toLower = cs :=
  (List.map_congr_left fun c hc => (looksLow (h c hc)).toLower).trans (List.map_id cs)

theorem IsLow.isAsciiText {w : String} (h : IsLow w) : IsAsciiText w := fun c hc =>
  isAscii_of_isLow (h.low c hc)

theorem IsLow.lower_eq {w : String} (h : IsLow w) : lower w = w := by
  rw [← String.toList_inj, toList_lower h.isAsciiText, map_toLower_low h.low]

/-- A word in lower case with a capital in front. -/
theorem IsLow.exists_cons {w : String} (h : IsLow w) : ∃ c rest, w.toList = c :: rest ∧
    isLow c = true ∧ (∀ c ∈ rest, isLow c = true) ∧ (upperFirst w).toList = c.toUpper :: rest := by
  obtain ⟨c, rest, hw⟩ := List.exists_cons_of_ne_nil (mt String.toList_eq_nil_iff.mp h.nonempty)
  obtain ⟨hc, hrest⟩ := List.forall_mem_cons.mp (hw ▸ h.low)
  refine ⟨c, rest, hw, hc, hrest, ?_⟩
  rw [upperFirst, hw]
  simp [upperChar, isAscii_of_isLow hc]

theorem IsLow.lower_upperFirst {w : String} (h : IsLow w) : lower (upperFirst w) = w := by
  obtain ⟨c, rest, hw, hc, hrest, hupper⟩ := h.exists_cons
  have hascii : IsAsciiText (upperFirst w) := by
    intro x hx
    rw [hupper] at hx
    rcases List.mem_cons.mp hx with rfl | hx
    · exact (looksLow hc).upper.1
    · exact isAscii_of_isLow (hrest x hx)
  rw [← String.toList_inj, toList_lower hascii, hupper, hw, List.map_cons,
    (looksLow hc).toLower_toUpper, map_toLower_low hrest]

/-! ### Words of ASCII text -/

theorem ne_nil_of_mem_splitChars {word rest w : List Char} (h : w ∈ splitChars word rest) :
    w ≠ [] := by
  have hclose {word w : List Char} (h : w ∈ close word) : w ≠ [] := by
    unfold close at h
    split at h
    · cases h
    · simp_all
  fun_induction splitChars word rest with
  | case1 word => exact hclose h
  | case2 c rest hc ih => exact ih h
  | case3 c rest hc previous word hcut ih => exact (List.mem_append.mp h).elim hclose ih
  | case4 c rest hc previous word hcut ih => exact ih h
  | case5 word c rest hc ih => exact (List.mem_append.mp h).elim hclose ih

/-- A word of a text holds letters and numbers of the text. -/
theorem mem_split {s w : String} (h : w ∈ split s) :
    w ≠ "" ∧ ∀ c ∈ w.toList, c ∈ s.toList ∧ isAlphanumeric c = true := by
  obtain ⟨cs, hcs, rfl⟩ := List.mem_map.mp h
  refine ⟨mt String.ofList_eq_empty_iff.mp (ne_nil_of_mem_splitChars hcs), fun c hc => ?_⟩
  have hall : c ∈ (splitChars [] s.toList).flatten :=
    List.mem_flatten.mpr ⟨cs, hcs, by rwa [String.toList_ofList] at hc⟩
  rw [flatten_splitChars] at hall
  exact List.mem_filter.mp hall

theorem toList_lower_of_mem_split {s w : String} (hs : IsAsciiText s) (hw : w ∈ split s) :
    (lower w).toList = w.toList.map Char.toLower :=
  toList_lower fun c hc => hs c ((mem_split hw).2 c hc).1

theorem isLow_of_mem_lowWords {s w : String} (hs : IsAsciiText s) (h : w ∈ lowWords s) :
    IsLow w := by
  obtain ⟨w, hw, rfl⟩ := List.mem_map.mp h
  obtain ⟨hne, hmem⟩ := mem_split hw
  have hlower := toList_lower_of_mem_split hs hw
  constructor
  · rw [Ne, ← String.toList_eq_nil_iff, hlower, List.map_eq_nil_iff]
    exact mt String.toList_eq_nil_iff.mp hne
  · intro c hc
    rw [hlower] at hc
    obtain ⟨x, hx, rfl⟩ := List.mem_map.mp hc
    exact isLow_toLower (hs x (hmem x hx).1) (hmem x hx).2

/-! ### Splitting what was joined -/

/-- Letters and numbers of which at most the first is a capital, so that nothing is cut off. -/
structure IsWhole (w : List Char) : Prop where
  nonempty : w ≠ []
  alphanumeric : ∀ c ∈ w, isAlphanumeric c = true
  uncut : ∀ c ∈ w.tail, isUppercase c = false

/-- A word ends in front of what follows: no letter or number, or a capital behind a small letter or
a number. -/
def EndsBefore (w rest : List Char) : Prop :=
  ∀ c ∈ rest.head?, isAlphanumeric c = true →
    isUppercase c = true ∧ ∃ last ∈ w.getLast?, isLowercase last = true ∨ isNumeric last = true

theorem endsBefore_nil (w : List Char) : EndsBefore w [] := fun _ h => nomatch h

/-- An open word takes up all characters that may be in it. -/
theorem splitChars_open {w rest : List Char} (previous : Char) (word : List Char)
    (hw : ∀ c ∈ w, isAlphanumeric c = true ∧ isUppercase c = false)
    (hend : EndsBefore ((previous :: word).reverse ++ w) rest) :
    splitChars (previous :: word) (w ++ rest) =
      ((previous :: word).reverse ++ w) :: splitChars [] rest := by
  induction w generalizing previous word with
  | nil =>
    rw [List.append_nil] at hend ⊢
    cases rest with
    | nil => rfl
    | cons c rest =>
      by_cases hc : isAlphanumeric c = true
      · obtain ⟨hupper, last, hlast, hlow⟩ := hend c rfl hc
        have hprevious : previous = last := by simpa using hlast
        have hcut : isBoundary previous c rest.head? = true := by
          rw [isBoundary, hupper, hprevious]
          rcases hlow with h | h <;> simp [h]
        simp [splitChars, hc, hcut, close]
      · simp [splitChars, hc, close]
  | cons c w ih =>
    obtain ⟨⟨hc, hcase⟩, hw⟩ := List.forall_mem_cons.mp hw
    have hcut : isBoundary previous c (w ++ rest).head? = false := by
      rw [isBoundary, hcase, Bool.false_and]
    have hshift : (previous :: word).reverse ++ c :: w = (c :: previous :: word).reverse ++ w := by
      simp
    rw [hshift] at hend ⊢
    rw [← ih c (previous :: word) hw hend, List.cons_append, splitChars, if_pos hc]
    simp only [hcut, Bool.false_eq_true, if_false]

theorem splitChars_append {w rest : List Char} (hw : IsWhole w) (hend : EndsBefore w rest) :
    splitChars [] (w ++ rest) = w :: splitChars [] rest := by
  obtain ⟨c, tail, rfl⟩ := List.exists_cons_of_ne_nil hw.nonempty
  have htail : ∀ x ∈ tail, isAlphanumeric x = true ∧ isUppercase x = false := fun x hx =>
    ⟨hw.alphanumeric x (List.mem_cons_of_mem c hx), hw.uncut x hx⟩
  have hopen := splitChars_open c [] htail hend
  rw [List.cons_append, splitChars, if_pos (hw.alphanumeric c (List.mem_cons_self ..))]
  exact hopen

/-- Words with a separator between them are split at it. -/
theorem splitChars_intercalate {separator : Char} (hseparator : isAlphanumeric separator = false)
    {words : List (List Char)} (h : ∀ w ∈ words, IsWhole w) :
    splitChars [] ([separator].intercalate words) = words := by
  have hskip (rest : List Char) : splitChars [] (separator :: rest) = splitChars [] rest := by
    simp [splitChars, hseparator, close]
  induction words with
  | nil => rfl
  | cons w words ih =>
    obtain ⟨hw, hwords⟩ := List.forall_mem_cons.mp h
    cases words with
    | nil =>
      have hlast := splitChars_append hw (endsBefore_nil w)
      rw [List.append_nil] at hlast
      rw [List.intercalate_singleton, hlast]
      rfl
    | cons next words =>
      have hend : EndsBefore w (separator :: [separator].intercalate (next :: words)) := by
        intro c hc halpha
        cases hc
        rw [hseparator] at halpha
        cases halpha
      rw [List.intercalate_cons_cons, List.append_assoc, List.singleton_append,
        splitChars_append hw hend, hskip, ih hwords]

/-- Words without anything between them are split at their capitals. -/
theorem splitChars_flatten {words : List (List Char)}
    (h : ∀ w ∈ words, IsWhole w ∧ ∃ last ∈ w.getLast?, isLow last = true)
    (hcapital : ∀ w ∈ words.tail, ∃ first ∈ w.head?, isUppercase first = true) :
    splitChars [] words.flatten = words := by
  induction words with
  | nil => rfl
  | cons w words ih =>
    obtain ⟨⟨hw, last, hlast, hlow⟩, hwords⟩ := List.forall_mem_cons.mp h
    have hend : EndsBefore w words.flatten := by
      intro c hc _
      cases words with
      | nil => cases hc
      | cons next words =>
        obtain ⟨first, hfirst, hupper⟩ := hcapital next (List.mem_cons_self ..)
        have hsame : c = first := by
          obtain ⟨rest, rfl⟩ : ∃ rest, next = first :: rest := by
            cases next <;> simp_all
          simpa using hc.symm
        exact ⟨hsame ▸ hupper, last, hlast, (looksLow hlow).lowerOrNumber⟩
    have htail : ∀ w ∈ words.tail, ∃ first ∈ w.head?, isUppercase first = true := fun w hw =>
      hcapital w (List.mem_of_mem_tail hw)
    rw [List.flatten_cons, splitChars_append hw hend, ih hwords htail]

/-! ### Words in lower case, joined by a separator -/

theorem IsLow.isWhole {w : String} (h : IsLow w) : IsWhole w.toList where
  nonempty := mt String.toList_eq_nil_iff.mp h.nonempty
  alphanumeric c hc := (looksLow (h.low c hc)).alphanumeric
  uncut c hc := (looksLow (h.low c (List.mem_of_mem_tail hc))).notUpper

theorem split_eq {s : String} {words : List String}
    (h : splitChars [] s.toList = words.map String.toList) : split s = words := by
  rw [split, h, List.map_map]
  exact (List.map_congr_left fun w _ => String.ofList_toList).trans (List.map_id words)

/-- Words in lower case with separators between them have the same words in lower case. -/
theorem lowWords_intercalate {s : String} (hs : IsAsciiText s) {c : Char} (separator : String)
    (hseparator : separator.toList = [c]) (hc : isAlphanumeric c = false) :
    lowWords (separator.intercalate (lowWords s)) = lowWords s := by
  have hwhole : ∀ w ∈ (lowWords s).map String.toList, IsWhole w := by
    rw [List.forall_mem_map]
    exact fun w hw => (isLow_of_mem_lowWords hs hw).isWhole
  have hsplit : split (separator.intercalate (lowWords s)) = lowWords s := split_eq (by
    rw [String.toList_intercalate, hseparator, splitChars_intercalate hc hwhole])
  rw [lowWords, hsplit]
  exact (List.map_congr_left fun w hw => (isLow_of_mem_lowWords hs hw).lower_eq).trans
    (List.map_id _)

/-- A text of ASCII characters is converted like its snake case and like its kebab case. So these
two are normal forms, and the first is empty or consists of words of small letters and digits with
underscores between them. -/
theorem conversions_of_normal_form {s : String} (hs : IsAsciiText s) :
    (∀ n, n = snakeCase s ∨ n = kebabCase s →
      snakeCase n = snakeCase s ∧ kebabCase n = kebabCase s ∧
        pascalCase n = pascalCase s ∧ camelCase n = camelCase s) ∧
    snakeCase (snakeCase s) = snakeCase s ∧ kebabCase (kebabCase s) = kebabCase s ∧
    (snakeCase s = "" ∨
      ∃ words, words ≠ [] ∧ (∀ w ∈ words, IsLow w) ∧ snakeCase s = "_".intercalate words) := by
  have hsnake := cases_eq_of_lowWords_eq (lowWords_intercalate hs "_" rfl rfl)
  have hkebab := cases_eq_of_lowWords_eq (lowWords_intercalate hs "-" rfl rfl)
  refine ⟨?_, hsnake.1, hkebab.2.1, ?_⟩
  · rintro n (rfl | rfl)
    · exact hsnake
    · exact hkebab
  · by_cases hnone : lowWords s = []
    · exact .inl (congrArg ("_".intercalate ·) hnone)
    · exact .inr ⟨lowWords s, hnone, fun w hw => isLow_of_mem_lowWords hs hw, rfl⟩

theorem conversions_of_normal_form_page :
    snakeCase "parseHTMLPage  v2-Beta" = "parse_html_page_v2_beta" ∧
    pascalCase "parse_html_page_v2_beta" = "ParseHtmlPageV2Beta" ∧
    pascalCase (kebabCase "parseHTMLPage  v2-Beta") = pascalCase "parseHTMLPage  v2-Beta" ∧
    camelCase (snakeCase "parseHTMLPage  v2-Beta") = camelCase "parseHTMLPage  v2-Beta" := by
  have hs : IsAsciiText "parseHTMLPage  v2-Beta" := by decide
  have hall := (conversions_of_normal_form hs).1
  exact ⟨by decide, by decide, (hall _ (.inr rfl)).2.2.1,
    (hall _ (.inl rfl)).2.2.2⟩

/-! ### Words in lower case, joined by capitals -/

/-- A word in lower case of two characters or more, with or without a capital in front, is not cut
and ends in a small letter or a digit. -/
theorem IsLow.isWhole_hump {w v : String} (h : IsLow w) (hlong : 2 ≤ w.length)
    (hv : v = w ∨ v = upperFirst w) :
    IsWhole v.toList ∧ ∃ last ∈ v.toList.getLast?, isLow last = true := by
  obtain ⟨c, rest, hw, hc, hrest, hupper⟩ := h.exists_cons
  have hlast (first : Char) : ∃ last ∈ (first :: rest).getLast?, isLow last = true := by
    have hne : rest ≠ [] := by
      rintro rfl
      simp [← String.length_toList, hw] at hlong
    refine ⟨rest.getLast hne, ?_, hrest _ (List.getLast_mem hne)⟩
    rw [List.getLast?_cons_of_ne_nil hne, List.getLast?_eq_some_getLast hne]
    exact Option.mem_some_self _
  rcases hv with rfl | rfl
  · exact ⟨h.isWhole, hw ▸ hlast c⟩
  · rw [hupper]
    refine ⟨⟨List.cons_ne_nil _ _, ?_, fun x hx => (looksLow (hrest x hx)).notUpper⟩, hlast _⟩
    exact List.forall_mem_cons.mpr
      ⟨(looksLow hc).upper.2, fun x hx => (looksLow (hrest x hx)).alphanumeric⟩

/-- Words in lower case that start with capitals, the first one perhaps without, have the same words
in lower case when they are joined. -/
theorem lowWords_join {w v : String} {words : List String} (hv : v = w ∨ v = upperFirst w)
    (h : ∀ x ∈ w :: words, IsLow x ∧ 2 ≤ x.length)
    (hcapital : ∀ x ∈ words, ∃ first ∈ (upperFirst x).toList.head?, isUppercase first = true) :
    lowWords (String.join (v :: words.map upperFirst)) = w :: words := by
  obtain ⟨⟨hw, hlong⟩, hwords⟩ := List.forall_mem_cons.mp h
  have hsplit : split (String.join (v :: words.map upperFirst)) = v :: words.map upperFirst := by
    refine split_eq ?_
    rw [String.toList_join, List.flatMap_def]
    refine splitChars_flatten ?_ ?_
    · rw [List.map_cons, List.forall_mem_cons, List.map_map, List.forall_mem_map]
      exact ⟨hw.isWhole_hump hlong hv, fun x hx =>
        (hwords x hx).1.isWhole_hump (hwords x hx).2 (.inr rfl)⟩
    · rw [List.map_cons, List.tail_cons, List.map_map, List.forall_mem_map]
      exact hcapital
  have hfirst : lower v = w := by
    rcases hv with rfl | rfl
    · exact hw.lower_eq
    · exact hw.lower_upperFirst
  have hrest : (words.map upperFirst).map lower = words := by
    rw [List.map_map]
    exact (List.map_congr_left fun x hx => (hwords x hx).1.lower_upperFirst).trans (List.map_id _)
  rw [lowWords, hsplit, List.map_cons, hfirst, hrest]

/-- Lower camel case leaves the first word in lower case. -/
theorem camelCase_eq {s w : String} {words : List String} (hw : IsLow w)
    (h : lowWords s = w :: words) : camelCase s = String.join (w :: words.map upperFirst) := by
  obtain ⟨c, rest, hlow, hc, _, hupper⟩ := hw.exists_cons
  have hpascal : (pascalCase s).toList =
      c.toUpper :: (rest ++ (String.join (words.map upperFirst)).toList) := by
    rw [pascalCase_eq, h, List.map_cons, String.join_cons, String.toList_append, hupper,
      List.cons_append]
  rw [camelCase, lowerFirst, hpascal, ← String.toList_inj, String.join_cons, String.toList_append,
    hlow]
  simp [lowerChar, (looksLow hc).upper.1, (looksLow hc).toLower_toUpper]

/-- A word that starts with a letter gets a capital in front. -/
theorem isUppercase_upperFirst {s w : String} (hs : IsAsciiText s) (hw : w ∈ split s)
    (hletter : ∃ c ∈ w.toList.head?, isAlphabetic c = true) :
    ∃ first ∈ (upperFirst (lower w)).toList.head?, isUppercase first = true := by
  obtain ⟨c, hc, halpha⟩ := hletter
  have hmem : c ∈ w.toList := List.mem_of_mem_head? hc
  have hhead : (lower w).toList.head? = some c.toLower := by
    rw [toList_lower_of_mem_split hs hw, List.head?_map, hc]
    rfl
  obtain ⟨x, rest, hlow, _, _, hupper⟩ :=
    (isLow_of_mem_lowWords hs (List.mem_map_of_mem hw)).exists_cons
  have hx : x = c.toLower := by simpa [hlow] using hhead
  refine ⟨x.toUpper, by rw [hupper]; rfl, ?_⟩
  rw [hx]
  exact isUppercase_toUpper_toLower (hs c ((mem_split hw).2 c hmem).1) halpha

theorem lowWords_humps {s : String} (hs : IsAsciiText s) (hlong : ∀ w ∈ split s, 2 ≤ w.length)
    (hletter : ∀ w ∈ (split s).tail, ∃ c ∈ w.toList.head?, isAlphabetic c = true) :
    lowWords (pascalCase s) = lowWords s ∧ lowWords (camelCase s) = lowWords s := by
  cases hsplit : split s with
  | nil =>
    have hnone : lowWords s = [] := congrArg (List.map lower) hsplit
    have hpascal : pascalCase s = "" := by rw [pascalCase_eq, hnone]; rfl
    rw [camelCase, hpascal, hnone]
    exact ⟨rfl, rfl⟩
  | cons w words =>
    have hwords : lowWords s = lower w :: words.map lower := congrArg (List.map lower) hsplit
    have hlow : ∀ x ∈ lower w :: words.map lower, IsLow x ∧ 2 ≤ x.length := by
      rw [← hwords]
      intro x hx
      refine ⟨isLow_of_mem_lowWords hs hx, ?_⟩
      obtain ⟨y, hy, rfl⟩ := List.mem_map.mp hx
      rw [← String.length_toList, toList_lower_of_mem_split hs hy, List.length_map,
        String.length_toList]
      exact hlong y hy
    have hcapital : ∀ x ∈ words.map lower,
        ∃ first ∈ (upperFirst x).toList.head?, isUppercase first = true := by
      rw [List.forall_mem_map]
      intro x hx
      exact isUppercase_upperFirst hs (hsplit ▸ List.mem_cons_of_mem w hx)
        (hletter x (hsplit ▸ hx))
    have hcamel := camelCase_eq (hlow _ (List.mem_cons_self ..)).1 hwords
    rw [pascalCase_eq, hcamel, hwords]
    exact ⟨lowWords_join (.inr rfl) hlow hcapital, lowWords_join (.inl rfl) hlow hcapital⟩

/-- The camel cases of ASCII text keep its words apart, if each word has two characters and each but
the first starts with a letter. So both camel cases of either are those of the text. -/
theorem camel_cases_keep_words {s : String} (hs : IsAsciiText s)
    (hlong : ∀ w ∈ split s, 2 ≤ w.length)
    (hletter : ∀ w ∈ (split s).tail, ∃ c ∈ w.toList.head?, isAlphabetic c = true) :
    snakeCase (pascalCase s) = snakeCase s ∧ snakeCase (camelCase s) = snakeCase s ∧
    ∀ c, c = pascalCase s ∨ c = camelCase s →
      pascalCase c = pascalCase s ∧ camelCase c = camelCase s := by
  obtain ⟨hpascal, hcamel⟩ := lowWords_humps hs hlong hletter
  have hpascal := cases_eq_of_lowWords_eq hpascal
  have hcamel := cases_eq_of_lowWords_eq hcamel
  refine ⟨hpascal.1, hcamel.1, ?_⟩
  rintro c (rfl | rfl)
  · exact hpascal.2.2
  · exact hcamel.2.2

theorem camel_cases_keep_words_status :
    pascalCase "2nd HTTP-status_v3" = "2ndHttpStatusV3" ∧
    snakeCase "2ndHttpStatusV3" = "2nd_http_status_v3" ∧
    snakeCase (pascalCase "2nd HTTP-status_v3") = snakeCase "2nd HTTP-status_v3" ∧
    camelCase (pascalCase "2nd HTTP-status_v3") = camelCase "2nd HTTP-status_v3" := by
  have hs : IsAsciiText "2nd HTTP-status_v3" := by decide
  have hsplit : split "2nd HTTP-status_v3" = ["2nd", "HTTP", "status", "v3"] := by decide
  have hletter : ∀ w ∈ ["HTTP", "status", "v3"], ∃ c ∈ w.toList.head?, isAlphabetic c = true :=
    List.forall_mem_cons.mpr ⟨⟨'H', rfl, by decide⟩, List.forall_mem_cons.mpr
      ⟨⟨'s', rfl, by decide⟩, List.forall_mem_singleton.mpr ⟨'v', rfl, by decide⟩⟩⟩
  have hkeep := camel_cases_keep_words hs (by rw [hsplit]; decide) (by rw [hsplit]; exact hletter)
  exact ⟨by decide, by decide, hkeep.1, (hkeep.2.2 _ (.inl rfl)).2⟩

end Stencil.Words
