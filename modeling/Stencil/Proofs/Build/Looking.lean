import Mathlib.Data.List.Forall2
import Stencil.Build.Run

/-! Work in a world, taken apart.

The outcome of a sequence is that of its first part or that of the rest, run in the world that the
first part leaves behind. Two properties pass from the parts of work to the whole: that it only
looks at the files, so that they stay and nothing but them decides what comes of it (`OnlyLooks`),
and that it fails in certain ways only (`FailsOnly`). -/

namespace Stencil.Run

variable {α β : Type}

/-- The world after work, whatever came of it. -/
def after (x : Run α) (w : World) : World :=
  match x.run w with
  | .ok _ w' => w'
  | .error _ w' => w'

/-- Work that goes well with a certain result and leaves a certain disk behind. -/
def Gives (x : Run α) (w : World) (a : α) (d : Disk) : Prop :=
  ∃ w', x.run w = .ok a w' ∧ w'.disk = d

/-- How work fails, if it does. -/
def failure? (x : Run α) (w : World) : Option Error :=
  match x.run w with
  | .ok _ _ => none
  | .error e _ => some e

theorem failure?_eq_some {x : Run α} {w : World} {e : Error} :
    x.failure? w = some e ↔ ∃ w', x.run w = .error e w' := by
  unfold failure?
  cases x.run w with
  | ok a w' => simp
  | error e' w' => simp

/-- The result of work that goes well. -/
def result? (x : Run α) (w : World) : Option α :=
  match x.run w with
  | .ok a _ => some a
  | .error _ _ => none

theorem exists_of_result? {β : Type} {x : Run α} {w : World} {f : α → β} {b : β}
    (h : (x.result? w).map f = some b) : ∃ a w', x.run w = .ok a w' ∧ f a = b := by
  unfold result? at h
  split at h
  · rename_i a w' hrun
    exact ⟨a, w', hrun, Option.some.inj h⟩
  · cases h

theorem after_of_ok {x : Run α} {w w' : World} {a : α} (h : x.run w = .ok a w') :
    x.after w = w' := by
  rw [after, h]

theorem after_of_error {x : Run α} {w w' : World} {e : Error} (h : x.run w = .error e w') :
    x.after w = w' := by
  rw [after, h]

theorem failure?_eq_none {x : Run α} {w : World} :
    x.failure? w = none ↔ ∃ a w', x.run w = .ok a w' := by
  unfold failure?
  cases x.run w with
  | ok a w' => simp
  | error e w' => simp

/-! ### Sequences -/

theorem bind_of_ok {x : Run α} {f : α → Run β} {w w' : World} {a : α} (h : x.run w = .ok a w') :
    (x >>= f).run w = (f a).run w' := by
  simp only [EStateM.run_bind, h]

theorem bind_of_error {x : Run α} {f : α → Run β} {w w' : World} {e : Error}
    (h : x.run w = .error e w') : (x >>= f).run w = .error e w' := by
  simp only [EStateM.run_bind, h]

theorem bind_eq_ok {x : Run α} {f : α → Run β} {w w'' : World} {b : β} :
    (x >>= f).run w = .ok b w'' ↔
      ∃ a w', x.run w = .ok a w' ∧ (f a).run w' = .ok b w'' := by
  cases h : x.run w with
  | ok a w' =>
    rw [bind_of_ok h]
    constructor
    · exact fun hf => ⟨a, w', rfl, hf⟩
    · rintro ⟨a', v, heq, hf⟩; cases heq; exact hf
  | error e w' =>
    rw [bind_of_error h]
    constructor
    · intro hf; cases hf
    · rintro ⟨a', v, heq, _⟩; cases heq

theorem bind_eq_error {x : Run α} {f : α → Run β} {w w'' : World} {e : Error} :
    (x >>= f).run w = .error e w'' ↔ x.run w = .error e w'' ∨
      ∃ a w', x.run w = .ok a w' ∧ (f a).run w' = .error e w'' := by
  cases h : x.run w with
  | ok a w' =>
    rw [bind_of_ok h]
    constructor
    · exact fun hf => .inr ⟨a, w', rfl, hf⟩
    · rintro (heq | ⟨a', v, heq, hf⟩)
      · cases heq
      · cases heq; exact hf
  | error e' w' =>
    rw [bind_of_error h]
    constructor
    · intro heq; cases heq; exact .inl rfl
    · rintro (heq | ⟨a', v, heq, _⟩)
      · cases heq; rfl
      · cases heq

theorem gives_bind {x : Run α} {f : α → Run β} {w : World} {b : β} {d : Disk} :
    (x >>= f).Gives w b d ↔ ∃ a w', x.run w = .ok a w' ∧ (f a).Gives w' b d := by
  constructor
  · rintro ⟨w'', hrun, hd⟩
    obtain ⟨a, w', hx, hf⟩ := bind_eq_ok.mp hrun
    exact ⟨a, w', hx, w'', hf, hd⟩
  · rintro ⟨a, w', hx, w'', hf, hd⟩
    exact ⟨w'', bind_eq_ok.mpr ⟨a, w', hx, hf⟩, hd⟩

/-- Two sequences have the same outcome if their parts do, in the worlds that they meet. -/
theorem bind_run_congr {x x' : Run α} {f f' : α → Run β} {w : World} (hx : x.run w = x'.run w)
    (hf : ∀ a w', x.run w = .ok a w' → (f a).run w' = (f' a).run w') :
    (x >>= f).run w = (x' >>= f').run w := by
  cases h : x.run w with
  | ok a w' => rw [bind_of_ok h, bind_of_ok (hx.symm.trans h), hf a w' h]
  | error e w' => rw [bind_of_error h, bind_of_error (hx.symm.trans h)]

theorem report_run (records : List Record) (w : World) :
    (report records).run w = .ok () { w with log := w.log ++ records } := rfl

theorem ofExcept_run (r : Except Error α) (w : World) :
    (ofExcept r).run w = match r with
      | .ok a => .ok a w
      | .error e => .error e w := by
  cases r <;> rfl

theorem ofExcept_eq_ok {r : Except Error α} {w w' : World} {a : α} :
    (ofExcept r).run w = .ok a w' ↔ r = .ok a ∧ w' = w := by
  rw [ofExcept_run]
  cases r with
  | ok a' =>
    constructor
    · intro h; cases h; exact ⟨rfl, rfl⟩
    · rintro ⟨h, rfl⟩; cases h; rfl
  | error e =>
    constructor
    · intro h; cases h
    · rintro ⟨h, _⟩; cases h

theorem ofExcept_eq_error {r : Except Error α} {w w' : World} {e : Error} :
    (ofExcept r).run w = .error e w' ↔ r = .error e ∧ w' = w := by
  rw [ofExcept_run]
  cases r with
  | ok a =>
    constructor
    · intro h; cases h
    · rintro ⟨h, _⟩; cases h
  | error e' =>
    constructor
    · intro h; cases h; exact ⟨rfl, rfl⟩
    · rintro ⟨h, rfl⟩; cases h; rfl

theorem look_run (f : Disk → Except Error α) (w : World) :
    (look f).run w = (ofExcept (f w.disk)).run w := rfl

theorem look_eq_ok {f : Disk → Except Error α} {w w' : World} {a : α} :
    (look f).run w = .ok a w' ↔ f w.disk = .ok a ∧ w' = w := by
  rw [look_run, ofExcept_eq_ok]

theorem change_run (f : Disk → Except IoError Disk) (w : World) :
    (change f).run w = match f w.disk with
      | .ok disk => .ok () { w with disk }
      | .error cause => .error (.io cause) w := by
  simp only [change, EStateM.run_bind, EStateM.run_get]
  cases f w.disk <;> rfl

/-- What a pass over a list gives comes from its elements. -/
theorem exists_of_mem_mapM {f : α → Run β} : ∀ {l : List α} {w w' : World} {r : List β},
    (l.mapM f).run w = .ok r w' → ∀ b ∈ r, ∃ a ∈ l, ∃ v v', (f a).run v = .ok b v'
  | [], w, w', r, h, b, hb => by
    rw [List.mapM_nil, EStateM.run_pure] at h
    cases h
    cases hb
  | a :: l, w, w', r, h, b, hb => by
    rw [List.mapM_cons, bind_eq_ok] at h
    obtain ⟨b', v, hhead, hrest⟩ := h
    obtain ⟨bs, v', htail, hpure⟩ := bind_eq_ok.mp hrest
    cases hpure
    rcases List.mem_cons.mp hb with rfl | hb
    · exact ⟨a, List.mem_cons_self .., w, v, hhead⟩
    · obtain ⟨a', ha', hrun⟩ := exists_of_mem_mapM htail b hb
      exact ⟨a', List.mem_cons_of_mem _ ha', hrun⟩

theorem gives_mapM_nil {f : α → Run β} {w : World} {bs : List β} {d : Disk} :
    ([].mapM f).Gives w bs d ↔ bs = [] ∧ w.disk = d := by
  rw [List.mapM_nil]
  constructor
  · rintro ⟨w', hrun, hd⟩; cases hrun; exact ⟨rfl, hd⟩
  · rintro ⟨rfl, hd⟩; exact ⟨w, rfl, hd⟩

theorem gives_mapM_cons {f : α → Run β} {a : α} {l : List α} {w : World} {bs : List β} {d : Disk} :
    ((a :: l).mapM f).Gives w bs d ↔
      ∃ b w' rest, (f a).run w = .ok b w' ∧ (l.mapM f).Gives w' rest d ∧ bs = b :: rest := by
  rw [List.mapM_cons, gives_bind]
  constructor
  · rintro ⟨b, w', hhead, hrest⟩
    obtain ⟨rest, w'', htail, w''', hpure, hd⟩ := gives_bind.mp hrest
    cases hpure
    exact ⟨b, w', rest, hhead, ⟨w'', htail, hd⟩, rfl⟩
  · rintro ⟨b, w', rest, hhead, ⟨w'', htail, hd⟩, rfl⟩
    exact ⟨b, w', hhead, gives_bind.mpr ⟨rest, w'', htail, w'', rfl, hd⟩⟩

/-- A pass over a list that fails has gone well up to the element that fails, and ends there. -/
theorem mapM_eq_error {f : α → Run β} {l : List α} {w w' : World} {e : Error}
    (h : (l.mapM f).run w = .error e w') : ∃ before a after bs w₁, l = before ++ a :: after ∧
      (before.mapM f).run w = .ok bs w₁ ∧ (f a).run w₁ = .error e w' := by
  induction l generalizing w with
  | nil => cases h
  | cons a l ih =>
    rw [List.mapM_cons, bind_eq_error] at h
    rcases h with hhead | ⟨b, w₁, hhead, h⟩
    · exact ⟨[], a, l, [], w, rfl, rfl, hhead⟩
    rcases bind_eq_error.mp h with htail | ⟨bs, w₂, _, hpure⟩
    · obtain ⟨before, a', after, bs, w₂, rfl, hbefore, ha'⟩ := ih htail
      refine ⟨a :: before, a', after, b :: bs, w₂, rfl, ?_, ha'⟩
      rw [List.mapM_cons, bind_of_ok hhead, bind_of_ok hbefore]
      rfl
    · cases hpure

/-- What comes behind an element that fails plays no part. -/
theorem mapM_append_cons_of_error {f : α → Run β} {before : List α} {a : α} {bs : List β}
    {w w₁ w' : World} {e : Error} (hbefore : (before.mapM f).run w = .ok bs w₁)
    (ha : (f a).run w₁ = .error e w') (after : List α) :
    ((before ++ a :: after).mapM f).run w = .error e w' := by
  rw [List.mapM_append, bind_of_ok hbefore, List.mapM_cons]
  exact bind_of_error (bind_of_error ha)

/-! ### Work that only looks -/

/-- Work that leaves the files as they are and whose outcome they alone decide. -/
structure OnlyLooks (x : Run α) : Prop where
  ok : ∀ {w w' : World} {a : α}, x.run w = .ok a w' → w'.disk = w.disk ∧
    ∀ v : World, v.disk = w.disk → ∃ v', x.run v = .ok a v'
  error : ∀ {w w' : World} {e : Error}, x.run w = .error e w' → w'.disk = w.disk ∧
    ∀ v : World, v.disk = w.disk → ∃ v', x.run v = .error e v'

namespace OnlyLooks

theorem after_disk {x : Run α} (hx : OnlyLooks x) (w : World) : (x.after w).disk = w.disk := by
  unfold after
  split
  · exact (hx.ok ‹_›).1
  · exact (hx.error ‹_›).1

theorem of_pure (a : α) : OnlyLooks (pure a : Run α) := by
  constructor
  · intro w w' a' h
    cases h
    exact ⟨rfl, fun v _ => ⟨v, rfl⟩⟩
  · intro w w' e h
    cases h

theorem of_report (records : List Record) : OnlyLooks (report records) := by
  constructor
  · intro w w' a h
    cases h
    exact ⟨rfl, fun v _ => ⟨_, rfl⟩⟩
  · intro w w' e h
    cases h

theorem of_ofExcept (r : Except Error α) : OnlyLooks (ofExcept r) := by
  cases r with
  | ok a => exact of_pure a
  | error e =>
    constructor
    · intro w w' a h
      cases h
    · intro w w' e' h
      cases h
      exact ⟨rfl, fun v _ => ⟨v, rfl⟩⟩

theorem of_look (f : Disk → Except Error α) : OnlyLooks (look f) := by
  constructor
  · intro w w' a h
    rw [look_run] at h
    refine ⟨((of_ofExcept _).ok h).1, fun v hv => ?_⟩
    rw [look_run, hv]
    exact ((of_ofExcept _).ok h).2 v hv
  · intro w w' e h
    rw [look_run] at h
    refine ⟨((of_ofExcept _).error h).1, fun v hv => ?_⟩
    rw [look_run, hv]
    exact ((of_ofExcept _).error h).2 v hv

/-- In a sequence, the second part meets the files that the first part met. -/
theorem bind {x : Run α} {f : α → Run β} (hx : OnlyLooks x) (hf : ∀ a, OnlyLooks (f a)) :
    OnlyLooks (x >>= f) := by
  constructor
  · intro w w'' b h
    obtain ⟨a, w', hfirst, hsecond⟩ := bind_eq_ok.mp h
    obtain ⟨hdisk, hsame⟩ := hx.ok hfirst
    obtain ⟨hdisk', hsame'⟩ := (hf a).ok hsecond
    refine ⟨hdisk'.trans hdisk, fun v hv => ?_⟩
    obtain ⟨v', hv'⟩ := hsame v hv
    rw [bind_of_ok hv']
    exact hsame' v' ((hx.ok hv').1.trans (hv.trans hdisk.symm))
  · intro w w'' e h
    rcases bind_eq_error.mp h with hfirst | ⟨a, w', hfirst, hsecond⟩
    · obtain ⟨hdisk, hsame⟩ := hx.error hfirst
      refine ⟨hdisk, fun v hv => ?_⟩
      obtain ⟨v', hv'⟩ := hsame v hv
      exact ⟨v', bind_of_error hv'⟩
    · obtain ⟨hdisk, hsame⟩ := hx.ok hfirst
      obtain ⟨hdisk', hsame'⟩ := (hf a).error hsecond
      refine ⟨hdisk'.trans hdisk, fun v hv => ?_⟩
      obtain ⟨v', hv'⟩ := hsame v hv
      rw [bind_of_ok hv']
      exact hsame' v' ((hx.ok hv').1.trans (hv.trans hdisk.symm))

theorem mapM {f : α → Run β} (hf : ∀ a, OnlyLooks (f a)) : ∀ l : List α, OnlyLooks (l.mapM f)
  | [] => by rw [List.mapM_nil]; exact of_pure []
  | a :: l => by
    rw [List.mapM_cons]
    exact (hf a).bind fun b => (mapM hf l).bind fun bs => of_pure (b :: bs)

/-- A pass over a list that only looks meets the same files at each element. -/
theorem forall₂_of_mapM {f : α → Run β} (hf : ∀ a, OnlyLooks (f a)) {l : List α} {w w' : World}
    {bs : List β} (h : (l.mapM f).run w = .ok bs w') :
    List.Forall₂ (fun a b => ∃ v v' : World, v.disk = w.disk ∧ (f a).run v = .ok b v') l bs := by
  induction l generalizing w bs with
  | nil =>
    cases h
    exact .nil
  | cons a l ih =>
    rw [List.mapM_cons, bind_eq_ok] at h
    obtain ⟨b, w₁, hhead, hrest⟩ := h
    obtain ⟨bs', w₂, htail, hpure⟩ := bind_eq_ok.mp hrest
    cases hpure
    have hdisk : w₁.disk = w.disk := ((hf a).ok hhead).1
    exact .cons ⟨w, w₁, rfl, hhead⟩ (hdisk ▸ ih htail)

/-- Passes over two lists that only look have the same outcome if they have at each place. -/
theorem mapM_run_congr {f : α → Run β} (hf : ∀ a, OnlyLooks (f a)) {d : Disk} {l l' : List α}
    (h : List.Forall₂ (fun a b => ∀ w : World, w.disk = d → (f a).run w = (f b).run w) l l')
    {w : World} (hw : w.disk = d) : (l.mapM f).run w = (l'.mapM f).run w := by
  induction h generalizing w with
  | nil => rfl
  | cons hab _ ih =>
    rw [List.mapM_cons, List.mapM_cons]
    refine bind_run_congr (hab w hw) fun b w' hb => ?_
    exact bind_run_congr (ih (((hf _).ok hb).1.trans hw)) fun _ _ _ => rfl

end OnlyLooks

/-! ### Ways of failing -/

/-- Work that fails in certain ways only. -/
def FailsOnly (P : Error → Prop) (x : Run α) : Prop :=
  ∀ w e w', x.run w = .error e w' → P e

namespace FailsOnly

variable {P : Error → Prop}

theorem of_pure (a : α) : FailsOnly P (pure a : Run α) := by
  intro w e w' h
  cases h

theorem of_report (records : List Record) : FailsOnly P (report records) := by
  intro w e w' h
  cases h

theorem of_ofExcept {r : Except Error α} (hr : ∀ e, r = .error e → P e) :
    FailsOnly P (ofExcept r) := by
  intro w e w' h
  rw [ofExcept_run] at h
  split at h
  · cases h
  · cases h; exact hr e rfl

theorem of_change {f : Disk → Except IoError Disk} (hio : ∀ cause, P (.io cause)) :
    FailsOnly P (change f) := by
  intro w e w' h
  rw [change_run] at h
  split at h
  · cases h
  · cases h; exact hio _

theorem bind {x : Run α} {f : α → Run β} (hx : FailsOnly P x) (hf : ∀ a, FailsOnly P (f a)) :
    FailsOnly P (x >>= f) := by
  intro w e w'' h
  rcases bind_eq_error.mp h with hfirst | ⟨a, w', _, hsecond⟩
  · exact hx w e w'' hfirst
  · exact hf a w' e w'' hsecond

theorem mapM {f : α → Run β} (hf : ∀ a, FailsOnly P (f a)) : ∀ l : List α, FailsOnly P (l.mapM f)
  | [] => by rw [List.mapM_nil]; exact of_pure []
  | a :: l => by
    rw [List.mapM_cons]
    exact (hf a).bind fun b => (mapM hf l).bind fun bs => of_pure (b :: bs)

end FailsOnly

end Stencil.Run
