import Mathlib.Data.List.Basic
import Stencil.Build.Selection

/-! What dotted paths select.

A path is followed segment by segment, so that the segments of one path behind those of another
select from what the other selects. Null is left out only at the end of a path; but nothing can be
selected from null, so it makes no difference whether it is left out in between. -/

namespace Stencil.Value

/-- A text with no blank at either end. -/
structure IsTrimmed (s : String) : Prop where
  first : ∀ c ∈ s.toList.head?, Text.isBlank c = false
  last : ∀ c ∈ s.toList.getLast?, Text.isBlank c = false

instance (s : String) : Decidable (IsTrimmed s) :=
  decidable_of_iff (s.toList.head?.all (!Text.isBlank ·) ∧ s.toList.getLast?.all (!Text.isBlank ·))
    ⟨fun h => ⟨by simpa [Option.all_eq_true] using h.1, by simpa [Option.all_eq_true] using h.2⟩,
      fun h => ⟨by simpa [Option.all_eq_true] using h.first,
        by simpa [Option.all_eq_true] using h.last⟩⟩

/-- A step into a value: to a field of an object or to an item of a list. -/
inductive Step where
  | field (key : String)
  | item (index : Nat)

/-- How a step is written in a path. -/
def Step.text : Step → String
  | .field key => key
  | .item index => toString index

/-- Whether a path can tell of a step: by a key without dots, or by an index of 64 bits. -/
def Step.IsPlain : Step → Prop
  | .field key => '.' ∉ key.toList
  | .item index => index < Nat.pow 2 64

instance : DecidablePred Step.IsPlain
  | .field key => inferInstanceAs (Decidable ('.' ∉ key.toList))
  | .item index => inferInstanceAs (Decidable (index < Nat.pow 2 64))

/-- The path that consists of some steps. -/
def pathOf (steps : List Step) : String := ".".intercalate (steps.map Step.text)

/-- Steps lead from a value to a part of it. -/
inductive Reaches : Value → List Step → Value → Prop where
  | here (v : Value) : Reaches v [] v
  | field {fields : Fields} {key : String} {v w : Value} {steps : List Step}
      (h : fields.get? key = some v) (rest : Reaches v steps w) :
      Reaches (.object fields) (.field key :: steps) w
  | item {items : List Value} {index : Nat} {v w : Value} {steps : List Step}
      (h : items[index]? = some v) (rest : Reaches v steps w) :
      Reaches (.list items) (.item index :: steps) w

/-! ### Texts without blanks around them -/

theorem dropWhile_isBlank {cs : List Char} (h : ∀ c ∈ cs.head?, Text.isBlank c = false) :
    cs.dropWhile Text.isBlank = cs := by
  cases cs with
  | nil => rfl
  | cons c cs => rw [List.dropWhile_cons_of_neg (by simp [h c rfl])]

theorem IsTrimmed.trim_eq {s : String} (h : IsTrimmed s) : Text.trim s = s := by
  have hlast : ∀ c ∈ s.toList.reverse.head?, Text.isBlank c = false := by
    rw [List.head?_reverse]
    exact h.last
  rw [Text.trim, Text.trimStart, dropWhile_isBlank h.first, String.ofList_toList, Text.trimEnd,
    dropWhile_isBlank hlast, List.reverse_reverse, String.ofList_toList]

theorem IsTrimmed.append {p q : String} (hp : IsTrimmed p) (hq : IsTrimmed q) (hpne : p ≠ "")
    (hqne : q ≠ "") (middle : String) : IsTrimmed (p ++ middle ++ q) := by
  have hpne := mt String.toList_eq_nil_iff.mp hpne
  have hqne := mt String.toList_eq_nil_iff.mp hqne
  constructor
  · rw [String.toList_append, String.toList_append, List.append_assoc,
      List.head?_append_of_ne_nil _ hpne]
    exact hp.first
  · rw [String.toList_append, List.getLast?_append_of_ne_nil _ hqne]
    exact hq.last

/-- A path that is not empty is followed segment by segment. -/
theorem select?_eq {path : String} (hne : path ≠ "") (h : IsTrimmed path) (root : Value) :
    select? root path = (follow? root (path.toList.splitOn '.')).filter fun v => !v.isNull := by
  have hsome : path.toList.isEmpty = false := by
    simpa using mt String.toList_eq_nil_iff.mp hne
  rw [select?, h.trim_eq]
  simp [hsome]

/-! ### Paths behind each other -/

theorem follow?_append (v : Value) (segments segments' : List (List Char)) :
    follow? v (segments ++ segments') = (follow? v segments).bind (follow? · segments') :=
  List.foldlM_append

theorem follow?_null {segments : List (List Char)} (h : segments ≠ []) :
    follow? .null segments = none := by
  cases segments with
  | nil => exact absurd rfl h
  | cons segment segments => rfl

/-- Null may be left out before more segments are followed. -/
theorem filter_bind_follow? (found : Option Value) {segments : List (List Char)}
    (h : segments ≠ []) :
    (found.bind (follow? · segments)).filter (fun v => !v.isNull) =
      (found.filter fun v => !v.isNull).bind
        fun v => (follow? v segments).filter fun v => !v.isNull := by
  cases found with
  | none => rfl
  | some v =>
    cases v with
    | null => rw [Option.bind_some, follow?_null h]; rfl
    | _ => rfl

theorem select?_append (root : Value) {p q : String} (hp : p ≠ "") (hptrim : IsTrimmed p)
    (hq : q ≠ "") (hqtrim : IsTrimmed q) :
    select? root (p ++ "." ++ q) = (select? root p).bind (select? · q) := by
  have hsegments : (p ++ "." ++ q).toList.splitOn '.' =
      p.toList.splitOn '.' ++ q.toList.splitOn '.' := by
    rw [String.toList_append, String.toList_append, List.append_assoc]
    exact List.splitOn_append_cons_self ..
  have hne : p ++ "." ++ q ≠ "" := by simp [hp]
  rw [select?_eq hne (hptrim.append hqtrim hp hq "."), hsegments, follow?_append,
    filter_bind_follow? _ (List.splitOn_ne_nil '.' q.toList), ← select?_eq hp hptrim]
  simp only [select?_eq hq hqtrim]

/-! ### Steps -/

theorem index?_toString {i : Nat} (h : i < Nat.pow 2 64) : index? (toString i).toList = some i := by
  have htext : (toString i).toList = Nat.toDigits 10 i := Nat.toList_repr
  have hdigits : ∀ c ∈ Nat.toDigits 10 i, c.isDigit = true := fun c hc =>
    Nat.isDigit_of_mem_toDigits (by decide) (by decide) hc
  have hplus : ((Nat.toDigits 10 i).head? == some '+') = false := by
    rw [beq_eq_false_iff_ne]
    exact fun hhead => absurd (hdigits '+' (List.mem_of_mem_head? hhead)) (by decide)
  have hvalue : (Nat.toDigits 10 i).foldl (fun n c => 10 * n + (c.toNat - '0'.toNat)) 0 = i :=
    Nat.ofDigitChars_toDigits (by decide) (by decide)
  have hsome : (Nat.toDigits 10 i).isEmpty = false := by simp [Nat.toDigits_ne_nil]
  have hall : (Nat.toDigits 10 i).all Char.isDigit = true := List.all_eq_true.mpr hdigits
  rw [htext, index?]
  simp only [hplus, hsome, hall, hvalue, Bool.false_eq_true, if_false, Bool.not_true, Bool.or_self]
  exact if_pos h

/-- Steps are followed by their texts. -/
theorem follow?_of_reaches {root v : Value} {steps : List Step} (h : Reaches root steps v)
    (hplain : ∀ s ∈ steps, s.IsPlain) :
    follow? root (steps.map fun s => s.text.toList) = some v := by
  induction h with
  | here v => rfl
  | field h rest ih =>
    obtain ⟨_, hsteps⟩ := List.forall_mem_cons.mp hplain
    rw [List.map_cons, follow?, List.foldlM_cons, step?, Step.text, String.ofList_toList, h]
    exact ih hsteps
  | item h rest ih =>
    obtain ⟨hindex, hsteps⟩ := List.forall_mem_cons.mp hplain
    rw [List.map_cons, follow?, List.foldlM_cons, step?, Step.text, index?_toString hindex,
      Option.bind_some, h]
    exact ih hsteps

theorem Step.IsPlain.dot_notMem {s : Step} (h : s.IsPlain) : '.' ∉ s.text.toList := by
  cases s with
  | field key => exact h
  | item index =>
    intro hdot
    have htext : (toString index).toList = Nat.toDigits 10 index := Nat.toList_repr
    rw [Step.text, htext] at hdot
    exact absurd (Nat.isDigit_of_mem_toDigits (by decide) (by decide) hdot) (by decide)

theorem splitOn_pathOf {steps : List Step} (hne : steps ≠ []) (hplain : ∀ s ∈ steps, s.IsPlain) :
    (pathOf steps).toList.splitOn '.' = steps.map fun s => s.text.toList := by
  have hdots : ∀ l ∈ steps.map (fun s => s.text.toList), '.' ∉ l := by
    rw [List.forall_mem_map]
    exact fun s hs => (hplain s hs).dot_notMem
  rw [pathOf, String.toList_intercalate, List.map_map]
  exact List.splitOn_intercalate '.' hdots (by simpa using hne)

/-- A path behind another selects from what the other selects. The path of some steps selects what
they lead to, if that is not null. From a value that is not null nothing selects null. -/
theorem select?_follows_steps (root : Value) :
    (∀ p q : String, p ≠ "" → IsTrimmed p → q ≠ "" → IsTrimmed q →
      select? root (p ++ "." ++ q) = (select? root p).bind (select? · q)) ∧
    (∀ steps v, steps ≠ [] → (∀ s ∈ steps, s.IsPlain) → Reaches root steps v → v.isNull = false →
      pathOf steps ≠ "" → IsTrimmed (pathOf steps) → select? root (pathOf steps) = some v) ∧
    (root.isNull = false → ∀ path v, select? root path = some v → v.isNull = false) := by
  refine ⟨fun p q hp hptrim hq hqtrim => select?_append root hp hptrim hq hqtrim, ?_, ?_⟩
  · intro steps v hsteps hplain hreach hv hne htrim
    rw [select?_eq hne htrim, splitOn_pathOf hsteps hplain, follow?_of_reaches hreach hplain]
    simp [hv]
  · intro hroot path v hv
    rw [select?] at hv
    split at hv
    · cases hv
      exact hroot
    · simpa using (Option.filter_eq_some_iff.mp hv).2

/-- An order with two models, and with a field under the empty key. -/
def order : Value := .object
  [("", .object [("x y", .int 7)]),
   ("models", .list [.object [("name", .str "A")], .object [("name", .str "B")]])]

theorem select?_follows_steps_order :
    select? order "models.1.name" = some (.str "B") ∧ select? order ".x y" = some (.int 7) ∧
    select? order ("models" ++ "." ++ "1.name") =
      (select? order "models").bind (select? · "1.name") ∧
    select? order "models.2" ≠ some .null := by
  obtain ⟨happend, hreach, hnull⟩ := select?_follows_steps order
  have hname : pathOf [.field "models", .item 1, .field "name"] = "models.1.name" := by
    decide
  have hpair : pathOf [.field "", .field "x y"] = ".x y" := by decide
  refine ⟨?_, ?_, happend _ _ (by decide) (by decide) (by decide) (by decide),
    fun h => absurd (hnull rfl _ _ h) (by decide)⟩
  · rw [← hname]
    refine hreach _ _ (by simp) (by decide)
      (.field rfl (.item rfl (.field rfl (.here _)))) rfl ?_ ?_
    · rw [hname]
      decide
    · rw [hname]
      decide
  · rw [← hpair]
    refine hreach _ _ (by simp) (by decide) (.field rfl (.field rfl (.here _))) rfl ?_ ?_
    · rw [hpair]
      decide
    · rw [hpair]
      decide

end Stencil.Value
