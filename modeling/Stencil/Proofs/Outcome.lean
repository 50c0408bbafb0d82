import Mathlib.Data.List.Forall2

/-! Work that ends in a result or in an error.

Success is taken apart step by step: a sequence or a pass over a list succeeds iff all its steps do.
For failure, `fault?` is the error that work ends in. If the violations that each step may meet are
listed in the order of the steps, then the work ends in the first of them. -/

namespace Stencil.Outcome

variable {ε α β : Type}

/-! ### Success -/

theorem bind_eq_ok {x : Except ε α} {f : α → Except ε β} {b : β} :
    (x >>= f) = .ok b ↔ ∃ a, x = .ok a ∧ f a = .ok b := by
  cases x <;> simp [bind, Except.bind]

theorem bind_eq_error {x : Except ε α} {f : α → Except ε β} {e : ε} :
    (x >>= f) = .error e ↔ x = .error e ∨ ∃ a, x = .ok a ∧ f a = .error e := by
  cases x <;> simp [bind, Except.bind]

theorem pure_eq_ok {a b : α} : (pure a : Except ε α) = .ok b ↔ b = a := by
  simp [pure, Except.pure, eq_comm]

theorem toOption_eq_some {x : Except ε α} {a : α} : x.toOption = some a ↔ x = .ok a := by
  cases x <;> simp [Except.toOption]

/-- Work behind a guard succeeds iff the guard lets it through and it succeeds. -/
theorem guard_eq_ok {c : Prop} [Decidable c] {e : ε} {f : Unit → Except ε β} {b : β} :
    (if c then (throw e : Except ε Unit) >>= f else f ()) = .ok b ↔ ¬ c ∧ f () = .ok b := by
  by_cases h : c
  · simp [h, throw, throwThe, MonadExceptOf.throw, bind, Except.bind]
  · simp [h]

/-- A pass over a list succeeds iff it does at every element. -/
theorem mapM_eq_ok {f : α → Except ε β} : ∀ {l : List α} {r : List β},
    l.mapM f = .ok r ↔ List.Forall₂ (fun a b => f a = .ok b) l r
  | [], r => by rw [List.mapM_nil, pure_eq_ok, List.forall₂_nil_left_iff]
  | a :: l, r => by
    simp only [List.mapM_cons, bind_eq_ok, pure_eq_ok, mapM_eq_ok, List.forall₂_cons_left_iff]
    constructor
    · rintro ⟨b, hb, r', hr', rfl⟩; exact ⟨b, r', hb, hr', rfl⟩
    · rintro ⟨b, r', hb, hr', rfl⟩; exact ⟨b, hb, r', hr', rfl⟩

theorem exists_of_mem_right {R : α → β → Prop} {l : List α} {r : List β} (h : List.Forall₂ R l r)
    {b : β} (hb : b ∈ r) : ∃ a ∈ l, R a b := by
  induction h with
  | nil => cases hb
  | cons hab _ ih =>
    rcases List.mem_cons.mp hb with rfl | hb
    · exact ⟨_, List.mem_cons_self .., hab⟩
    · obtain ⟨a, ha, hR⟩ := ih hb
      exact ⟨a, List.mem_cons_of_mem _ ha, hR⟩

theorem exists_of_mem_left {R : α → β → Prop} {l : List α} {r : List β} (h : List.Forall₂ R l r)
    {a : α} (ha : a ∈ l) : ∃ b ∈ r, R a b :=
  exists_of_mem_right (R := flip R) (List.Forall₂.flip h) ha

theorem forall₂_trans {γ : Type} {R : α → β → Prop} {S : β → γ → Prop} {T : α → γ → Prop}
    (hT : ∀ a b c, R a b → S b c → T a c) {l : List α} {r : List β} (h : List.Forall₂ R l r)
    {s : List γ} (hs : List.Forall₂ S r s) : List.Forall₂ T l s := by
  induction h generalizing s with
  | nil => cases hs; exact .nil
  | cons hab _ ih =>
    cases hs with
    | cons hbc hs => exact .cons (hT _ _ _ hab hbc) (ih hs)

/-- Searches in two related lists find related elements, if the elements agree on what is looked
for. -/
theorem find?_rel {R : α → β → Prop} {p : α → Bool} {q : β → Bool}
    (hpq : ∀ a b, R a b → p a = q b) {l : List α} {r : List β} (h : List.Forall₂ R l r) :
    Option.Rel R (l.find? p) (r.find? q) := by
  induction h with
  | nil => exact .none
  | cons hab _ ih =>
    rw [List.find?_cons, List.find?_cons, hpq _ _ hab]
    split
    · exact .some hab
    · exact ih

/-- What a pass over a list gives comes from the elements of the list. -/
theorem exists_of_mem_mapM {f : α → Except ε β} {l : List α} {r : List β} (h : l.mapM f = .ok r)
    {b : β} (hb : b ∈ r) : ∃ a ∈ l, f a = .ok b :=
  exists_of_mem_right (mapM_eq_ok.mp h) hb

theorem mem_of_mapM_id {l : List (Except ε β)} {r : List β} (h : l.mapM id = .ok r) {b : β} :
    b ∈ r ↔ .ok b ∈ l := by
  have hrel := mapM_eq_ok.mp h
  constructor
  · intro hb
    obtain ⟨a, ha, heq⟩ := exists_of_mem_right hrel hb
    exact heq ▸ ha
  · intro hb
    obtain ⟨b', hb', heq⟩ := exists_of_mem_left hrel hb
    cases heq
    exact hb'

/-- A pass over a list fails as it does at some element. -/
theorem exists_of_mapM_eq_error {f : α → Except ε β} {e : ε} : ∀ {l : List α},
    l.mapM f = .error e → ∃ a ∈ l, f a = .error e
  | [], h => nomatch h
  | a :: l, h => by
    rw [List.mapM_cons, bind_eq_error] at h
    rcases h with h | ⟨b, -, h⟩
    · exact ⟨a, List.mem_cons_self, h⟩
    · rcases bind_eq_error.mp h with h | ⟨_, -, h⟩
      · obtain ⟨a, ha, h⟩ := exists_of_mapM_eq_error h
        exact ⟨a, List.mem_cons_of_mem _ ha, h⟩
      · cases h

/-- A pass over a list that keeps a view of the elements keeps the list of these views. -/
theorem map_eq_of_mapM {γ : Type} {f : α → Except ε β} {u : α → γ} {v : β → γ}
    (hf : ∀ a b, f a = .ok b → v b = u a) {l : List α} {r : List β} (h : l.mapM f = .ok r) :
    r.map v = l.map u := by
  have hrel := mapM_eq_ok.mp h
  induction hrel with
  | nil => rfl
  | cons hab hrest ih => rw [List.map_cons, List.map_cons, hf _ _ hab, ih (mapM_eq_ok.mpr hrest)]

/-- Passes over two related lists give related lists. -/
theorem forall₂_of_mapM {α' β' : Type} {R : α → α' → Prop} {S : β → β' → Prop}
    {f : α → Except ε β} {g : α' → Except ε β'}
    (hS : ∀ a a' b b', R a a' → f a = .ok b → g a' = .ok b' → S b b') {l : List α} {l' : List α'}
    (h : List.Forall₂ R l l') {r : List β} {r' : List β'} (hr : l.mapM f = .ok r)
    (hr' : l'.mapM g = .ok r') : List.Forall₂ S r r' := by
  rw [mapM_eq_ok] at hr hr'
  induction h generalizing r r' with
  | nil => cases hr; cases hr'; exact .nil
  | cons haa' _ ih =>
    cases hr with
    | cons hab hr =>
      cases hr' with
      | cons hab' hr' => exact .cons (hS _ _ _ _ haa' hab hab') (ih hr hr')

/-- A pass over a list, and one over what it gives, are one pass over the list. -/
theorem mapM_bind {γ : Type} {f : α → Except ε β} {g : β → Except ε γ} {l : List α} {r : List β}
    {s : List γ} (hr : l.mapM f = .ok r) (hs : r.mapM g = .ok s) :
    l.mapM (fun a => f a >>= g) = .ok s := by
  rw [mapM_eq_ok] at hr hs ⊢
  refine forall₂_trans ?_ hr hs
  exact fun a b c hab hbc => bind_eq_ok.mpr ⟨b, hab, hbc⟩

/-- What a pass gives at a place depends only on what stands there in the list. -/
theorem getElem?_of_mapM {f : α → Except ε β} {l : List α} {r : List β} (h : l.mapM f = .ok r)
    (i : Nat) : r[i]? = l[i]?.bind fun a => (f a).toOption := by
  have hrel := mapM_eq_ok.mp h
  clear h
  induction hrel generalizing i with
  | nil => rfl
  | cons hab _ ih =>
    cases i with
    | zero => simp [hab, Except.toOption]
    | succ i => simpa using ih i

theorem eq_filterMap_of_mapM {f : α → Except ε β} {l : List α} {r : List β}
    (h : l.mapM f = .ok r) : r = l.filterMap fun a => (f a).toOption := by
  have hrel := mapM_eq_ok.mp h
  clear h
  induction hrel with
  | nil => rfl
  | cons hab _ ih => rw [List.filterMap_cons_some (by rw [hab]; rfl), ← ih]

theorem exists_mapM_eq_ok {f : α → Except ε β} : ∀ {l : List α}, (∀ a ∈ l, ∃ b, f a = .ok b) →
    ∃ r, l.mapM f = .ok r
  | [], _ => ⟨[], rfl⟩
  | a :: l, h => by
    obtain ⟨b, hb⟩ := h a (List.mem_cons_self ..)
    obtain ⟨r, hr⟩ := exists_mapM_eq_ok fun a ha => h a (List.mem_cons_of_mem _ ha)
    exact ⟨b :: r, mapM_eq_ok.mpr (.cons hb (mapM_eq_ok.mp hr))⟩

/-- A pass over a list in another order gives the same results, in another order. -/
theorem exists_mapM_of_perm {f : α → Except ε β} {l l' : List α} {r : List β} (hperm : l'.Perm l)
    (h : l.mapM f = .ok r) : ∃ r', l'.mapM f = .ok r' ∧ r'.Perm r := by
  obtain ⟨r', h'⟩ : ∃ r', l'.mapM f = .ok r' := by
    refine exists_mapM_eq_ok fun a ha => ?_
    obtain ⟨b, _, hb⟩ := exists_of_mem_left (mapM_eq_ok.mp h) (hperm.mem_iff.mp ha)
    exact ⟨b, hb⟩
  refine ⟨r', h', ?_⟩
  rw [eq_filterMap_of_mapM h, eq_filterMap_of_mapM h']
  exact hperm.filterMap _

/-- A pass that comes to an element once more fails as it did before, or has its result once
more. -/
theorem mapM_again {f : α → Except ε β} {before : List α} {a : α} (ha : a ∈ before)
    (after : List α) :
    (∃ e, (before ++ after).mapM f = .error e ∧ (before ++ a :: after).mapM f = .error e) ∨
    ∃ first b later, b ∈ first ∧ (before ++ after).mapM f = .ok (first ++ later) ∧
      (before ++ a :: after).mapM f = .ok (first ++ b :: later) := by
  rw [List.mapM_append, List.mapM_append, List.mapM_cons]
  cases hbefore : before.mapM f with
  | error e => exact .inl ⟨e, rfl, rfl⟩
  | ok first =>
    obtain ⟨b, hb, hab⟩ := exists_of_mem_left (mapM_eq_ok.mp hbefore) ha
    rw [hab]
    cases after.mapM f with
    | error e => exact .inl ⟨e, rfl, rfl⟩
    | ok later => exact .inr ⟨first, b, later, hb, rfl, rfl⟩

/-- Passes over two lists are the same work if they are at each place. -/
theorem mapM_congr {α' : Type} {f : α → Except ε β} {g : α' → Except ε β} {l : List α}
    {l' : List α'} (h : List.Forall₂ (fun a a' => f a = g a') l l') : l.mapM f = l'.mapM g := by
  induction h with
  | nil => rfl
  | cons ha _ ih => rw [List.mapM_cons, List.mapM_cons, ha, ih]

/-- A pass that keeps each element beside its result puts the two lists side by side. -/
theorem mapM_pair {f : α → Except ε β} (l : List α) :
    l.mapM (fun a => do return (a, ← f a)) = (do return l.zip (← l.mapM f)) := by
  induction l with
  | nil => rfl
  | cons a l ih =>
    rw [List.mapM_cons, List.mapM_cons, ih]
    cases f a with
    | error e => rfl
    | ok b => cases l.mapM f <;> rfl

theorem option_mapM_eq_ok {f : α → Except ε β} {o : Option α} {r : Option β} :
    o.mapM f = .ok r ↔ (o = none ∧ r = none) ∨ ∃ a b, o = some a ∧ r = some b ∧ f a = .ok b := by
  cases o with
  | none => simp [pure, Except.pure, eq_comm]
  | some a =>
    cases h : f a <;> simp [h, Functor.map, Except.map, eq_comm]

/-- A fold keeps what each of its steps keeps. -/
theorem foldlM_invariant {f : β → α → Except ε β} {P : β → Prop} : ∀ {l : List α},
    (∀ a ∈ l, ∀ b b', P b → f b a = .ok b' → P b') →
    ∀ {b b' : β}, P b → l.foldlM f b = .ok b' → P b'
  | [], _, b, b', hb, h => by
    rw [List.foldlM_nil, pure_eq_ok] at h
    exact h ▸ hb
  | a :: l, hstep, b, b', hb, h => by
    rw [List.foldlM_cons, bind_eq_ok] at h
    obtain ⟨c, hc, hrest⟩ := h
    exact foldlM_invariant (fun a ha => hstep a (List.mem_cons_of_mem _ ha))
      (hstep a (List.mem_cons_self ..) b c hb hc) hrest

theorem forM_eq_ok {f : α → Except ε Unit} : ∀ {l : List α},
    l.forM f = .ok () ↔ ∀ a ∈ l, f a = .ok ()
  | [] => by simp [pure, Except.pure]
  | a :: l => by
    rw [List.forall_mem_cons, ← forM_eq_ok,
      show (a :: l).forM f = f a >>= fun _ => l.forM f from rfl, bind_eq_ok]
    constructor
    · rintro ⟨⟨⟩, ha, hl⟩; exact ⟨ha, hl⟩
    · rintro ⟨ha, hl⟩; exact ⟨(), ha, hl⟩

/-! ### Failure -/

/-- The error that work ends in, if it fails. -/
def fault? : Except ε α → Option ε
  | .ok _ => none
  | .error e => some e

@[simp] theorem fault?_ok (a : α) : fault? (.ok a : Except ε α) = none := rfl

@[simp] theorem fault?_pure (a : α) : fault? (pure a : Except ε α) = none := rfl

@[simp] theorem fault?_error (e : ε) : fault? (.error e : Except ε α) = some e := rfl

theorem fault?_eq_some {x : Except ε α} {e : ε} : fault? x = some e ↔ x = .error e := by
  cases x <;> simp [fault?]

theorem fault?_eq_none {x : Except ε α} : fault? x = none ↔ ∃ a, x = .ok a := by
  cases x <;> simp [fault?]

/-- The violations of a sequence: those of its first part, then those of the second. -/
theorem fault?_bind {x : Except ε α} {f : α → Except ε β} {vs ws : List ε}
    (hx : fault? x = vs.head?) (hf : ∀ a, x = .ok a → fault? (f a) = ws.head?) :
    fault? (x >>= f) = (vs ++ ws).head? := by
  rw [List.head?_append, ← hx]
  cases x with
  | error e => rfl
  | ok a => exact hf a rfl

/-- The violations of a pass over a list: those of its elements, one after another. -/
theorem fault?_mapM {f : α → Except ε β} {v : α → List ε} : ∀ {l : List α},
    (∀ a ∈ l, fault? (f a) = (v a).head?) → fault? (l.mapM f) = (l.flatMap v).head?
  | [], _ => rfl
  | a :: l, h => by
    rw [List.mapM_cons, List.flatMap_cons]
    refine fault?_bind (h a (List.mem_cons_self ..)) fun b _ => ?_
    rw [← fault?_mapM fun a ha => h a (List.mem_cons_of_mem _ ha)]
    cases l.mapM f <;> rfl

theorem fault?_forM {f : α → Except ε Unit} {v : α → List ε} : ∀ {l : List α},
    (∀ a ∈ l, fault? (f a) = (v a).head?) → fault? (l.forM f) = (l.flatMap v).head?
  | [], _ => rfl
  | a :: l, h => by
    rw [List.flatMap_cons]
    exact fault?_bind (h a (List.mem_cons_self ..)) fun _ _ =>
      fault?_forM fun a ha => h a (List.mem_cons_of_mem _ ha)

/-- Work that only puts the result of other work into shape fails like it. -/
theorem fault?_bind_pure {x : Except ε α} {g : α → β} :
    fault? (x >>= fun a => pure (g a)) = fault? x := by
  cases x <;> rfl

end Stencil.Outcome
