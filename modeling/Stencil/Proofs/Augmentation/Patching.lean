import Stencil.Proofs.Augmentation.Independence
import Stencil.Proofs.Fields

/-! What an augmentation makes of a document.

Patches are applied one after another, each to the first model of its name. No patch changes which
models there are, nor their names and order. So a model gets all patches for its name, one after
another, unless an earlier model has the same name (`models_foldl_applyPatch`); a patch for a name
that no model has is reported and does nothing else (`log_foldl_applyPatch`). -/

namespace Stencil.Augmentation

open Document

/-- The patches for models of a name. -/
def patchesFor (patches : List Patch) (name : String) : List Patch :=
  patches.filter (·.name = name)

/-- A model after patches have been applied to it one after another. -/
structure Patched (patches : List Patch) (m m' : Model) : Prop where
  bare : m'.bare = m.bare
  methods : m'.methods = m.methods ++ patches.flatMap (·.methods)
  extensions : Fields.PutOver m.extensions (patches.map (·.extensions)) m'.extensions

/-- A document after an augmentation: its extensions are overridden, each model that is the first of
its name gets the patches for that name, and everything else stays as it was. -/
structure Augments (a : Augmentation) (d d' : Document) : Prop where
  nameSpace : d'.nameSpace = d.nameSpace
  options : d'.options = d.options
  enums : d'.enums = d.enums
  contracts : d'.contracts = d.contracts
  services : d'.services = d.services
  extensions : Fields.PutOver d.extensions [a.extensions] d'.extensions
  length : d'.models.length = d.models.length
  patched : ∀ i m, d.models[i]? = some m → m.name ∉ (d.models.map (·.name)).take i →
    ∃ m', d'.models[i]? = some m' ∧ Patched (patchesFor a.models m.name) m m'
  kept : ∀ i m, d.models[i]? = some m →
    m.name ∈ (d.models.map (·.name)).take i ∨ patchesFor a.models m.name = [] →
    d'.models[i]? = some m

/-! ### One model -/

theorem patched_foldl (patches : List Patch) (m : Model) :
    Patched patches m (patches.foldl (fun m p => p.applyToModel m) m) := by
  induction patches using List.reverseRecOn with
  | nil => exact ⟨rfl, (List.append_nil _).symm, Fields.putOver_foldl m.extensions []⟩
  | append_singleton patches p ih =>
    rw [List.foldl_append, List.foldl_cons, List.foldl_nil]
    refine ⟨ih.bare, ?_, ?_⟩
    · rw [Patch.applyToModel, ih.methods, List.flatMap_append, List.flatMap_singleton,
        List.append_assoc]
    · rw [List.map_append]
      exact ih.extensions.override p.extensions

/-! ### One patch -/

/-- The first model of the name is changed and no other, place by place. -/
theorem getElem?_of_changeFirst {name : String} {change : Model → Model}
    {models models' : List Model} (h : changeFirst name change models = some models') (i : Nat) :
    models'[i]? = models[i]?.map fun m =>
      if m.name = name ∧ name ∉ (models.map (·.name)).take i then change m else m := by
  fun_induction changeFirst name change models generalizing models' i with
  | case1 => cases h
  | case2 m rest hname =>
    cases h
    cases i with
    | zero => simp [hname]
    | succ i => simp [hname]
  | case3 m rest hname ih =>
    obtain ⟨rest', hrest', rfl⟩ := Option.map_eq_some_iff.mp h
    cases i with
    | zero => simp [hname]
    | succ i =>
      rw [List.getElem?_cons_succ, List.getElem?_cons_succ, ih hrest' i]
      simp [Ne.symm hname]

variable (a : Augmentation)

theorem models_applyPatch (s : Document × List Record) (p : Patch) (i : Nat) :
    (a.applyPatch s p).1.models[i]? = s.1.models[i]?.map fun m =>
      if m.name = p.name ∧ p.name ∉ (s.1.models.map (·.name)).take i then p.applyToModel m
      else m := by
  rw [applyPatch]
  cases hchanged : changeFirst p.name p.applyToModel s.1.models with
  | some models => exact getElem?_of_changeFirst hchanged i
  | none =>
    have hunknown := changeFirst_eq_none.mp hchanged
    cases hm : s.1.models[i]? with
    | none => rfl
    | some m =>
      have hname : m.name ≠ p.name := fun heq =>
        hunknown (heq ▸ List.mem_map_of_mem (List.mem_of_getElem? hm))
      simp [hname]

theorem names_applyPatch (s : Document × List Record) (p : Patch) :
    (a.applyPatch s p).1.models.map (·.name) = s.1.models.map (·.name) :=
  (grows_applyPatch a s p).names

/-- A patch changes nothing but models. -/
theorem frame_applyPatch (s : Document × List Record) (p : Patch) :
    (a.applyPatch s p).1 = { s.1 with models := (a.applyPatch s p).1.models } := by
  rw [applyPatch]
  split <;> rfl

theorem log_applyPatch (s : Document × List Record) (p : Patch) :
    (a.applyPatch s p).2 =
      s.2 ++ if p.name ∈ s.1.models.map (·.name) then [] else [a.unknownModel p] := by
  rw [applyPatch]
  cases hchanged : changeFirst p.name p.applyToModel s.1.models with
  | some models =>
    obtain ⟨before, m, after, hmodels, _, hname, _⟩ := changeFirst_eq_some hchanged
    rw [if_pos (by simp [hmodels, hname]), List.append_nil]
  | none => rw [if_neg (changeFirst_eq_none.mp hchanged)]

/-! ### All patches -/

/-- By induction on the patches: what each of them does at a place depends only on the names of the
models, which stay the same. -/
theorem models_foldl_applyPatch : ∀ (patches : List Patch) (s : Document × List Record) (i : Nat),
    (patches.foldl a.applyPatch s).1.models[i]? = s.1.models[i]?.map fun m =>
      if m.name ∈ (s.1.models.map (·.name)).take i then m
      else (patchesFor patches m.name).foldl (fun m p => p.applyToModel m) m
  | [], s, i => by simp [patchesFor]
  | p :: patches, s, i => by
    rw [List.foldl_cons, models_foldl_applyPatch patches, names_applyPatch, models_applyPatch,
      Option.map_map]
    refine congrArg (Option.map · s.1.models[i]?) (funext fun m => ?_)
    rw [Function.comp_apply]
    by_cases hearlier : m.name ∈ (s.1.models.map (·.name)).take i
    · have hstays : ¬ (m.name = p.name ∧ p.name ∉ (s.1.models.map (·.name)).take i) :=
        fun h => h.2 (h.1 ▸ hearlier)
      rw [if_neg hstays, if_pos hearlier, if_pos hearlier]
    · by_cases hname : m.name = p.name
      · have hchanges : m.name = p.name ∧ p.name ∉ (s.1.models.map (·.name)).take i :=
          ⟨hname, hname ▸ hearlier⟩
        have hsame : (p.applyToModel m).name = m.name := rfl
        have hpatches : patchesFor (p :: patches) m.name = p :: patchesFor patches m.name :=
          List.filter_cons_of_pos (by simp [hname])
        rw [if_pos hchanges, hsame, if_neg hearlier, if_neg hearlier, hpatches, List.foldl_cons]
      · have hstays : ¬ (m.name = p.name ∧ p.name ∉ (s.1.models.map (·.name)).take i) :=
          fun h => hname h.1
        have hpatches : patchesFor (p :: patches) m.name = patchesFor patches m.name :=
          List.filter_cons_of_neg (by simp [Ne.symm hname])
        rw [if_neg hstays, if_neg hearlier, if_neg hearlier, hpatches]

theorem frame_foldl_applyPatch : ∀ (patches : List Patch) (s : Document × List Record),
    (patches.foldl a.applyPatch s).1 =
      { s.1 with models := (patches.foldl a.applyPatch s).1.models }
  | [], _ => rfl
  | p :: patches, s => by
    rw [List.foldl_cons, frame_foldl_applyPatch patches, frame_applyPatch]

theorem log_foldl_applyPatch : ∀ (patches : List Patch) (s : Document × List Record),
    (patches.foldl a.applyPatch s).2 =
      s.2 ++ (patches.filter (·.name ∉ s.1.models.map (·.name))).map a.unknownModel
  | [], s => (List.append_nil _).symm
  | p :: patches, s => by
    rw [List.foldl_cons, log_foldl_applyPatch patches, names_applyPatch, log_applyPatch]
    by_cases hname : p.name ∈ s.1.models.map (·.name)
    · rw [if_pos hname, List.append_nil, List.filter_cons_of_neg (by simpa using hname)]
    · rw [if_neg hname, List.filter_cons_of_pos (by simpa using hname), List.map_cons,
        List.append_assoc, List.singleton_append]

/-! ### The augmentation -/

theorem frame_applyTo (d : Document) :
    (a.applyTo d).1 = { d with extensions := d.extensions.override a.extensions
                               models := (a.applyTo d).1.models } :=
  frame_foldl_applyPatch a a.models _

theorem models_applyTo (d : Document) (i : Nat) :
    (a.applyTo d).1.models[i]? = d.models[i]?.map fun m =>
      if m.name ∈ (d.models.map (·.name)).take i then m
      else (patchesFor a.models m.name).foldl (fun m p => p.applyToModel m) m :=
  models_foldl_applyPatch a a.models _ i

theorem augments_applyTo (d : Document) : a.Augments d (a.applyTo d).1 := by
  have hmodels := models_applyTo a d
  rw [frame_applyTo]
  refine ⟨rfl, rfl, rfl, rfl, rfl, Fields.putOver_foldl d.extensions [a.extensions], ?_,
    fun i m hm hfirst => ?_, fun i m hm hkept => ?_⟩
  · have hnames := congrArg List.length (grows_applyTo a d).names
    rwa [List.length_map, List.length_map] at hnames
  · refine ⟨_, ?_, patched_foldl (patchesFor a.models m.name) m⟩
    rw [hmodels, hm, Option.map_some, if_neg hfirst]
  · rw [hmodels, hm, Option.map_some]
    rcases hkept with hearlier | hnone
    · rw [if_pos hearlier]
    · rw [hnone, List.foldl_nil, ite_self]

/-- Patches for names that no model has may be left out. -/
theorem applyTo_of_known_only (d : Document) :
    (({ a with models := a.models.filter (·.name ∈ d.models.map (·.name)) } :
      Augmentation).applyTo d).1 = (a.applyTo d).1 := by
  rw [frame_applyTo a, frame_applyTo]
  congr 1
  refine List.ext_getElem? fun i => ?_
  rw [models_applyTo, models_applyTo]
  cases hm : d.models[i]? with
  | none => rfl
  | some m =>
    have hknown : m.name ∈ d.models.map (·.name) := List.mem_map_of_mem (List.mem_of_getElem? hm)
    have hpatches : patchesFor (a.models.filter (·.name ∈ d.models.map (·.name))) m.name =
        patchesFor a.models m.name := by
      rw [patchesFor, patchesFor, List.filter_filter]
      refine List.filter_congr fun p _ => ?_
      by_cases hname : p.name = m.name
      · simp only [hname, hknown, decide_true, Bool.and_self]
      · simp only [hname, decide_false, Bool.false_and]
    rw [Option.map_some, Option.map_some, hpatches]

/-- An augmentation overrides the extensions of a document, and of each name that models have it
changes the first model: the methods of all patches for it are added behind its own, in order, and
under each key its extensions have what the last of these patches gives, if one does. Nothing else
changes. The patches for names that no model has do nothing but that each is reported once. -/
theorem applyTo_changes_first_models (a : Augmentation) (d : Document) :
    a.Augments d (a.applyTo d).1 ∧
    (a.applyTo d).2 =
      (a.models.filter (·.name ∉ d.models.map (·.name))).map a.unknownModel ∧
    (({ a with models := a.models.filter (·.name ∈ d.models.map (·.name)) } :
      Augmentation).applyTo d).1 = (a.applyTo d).1 := by
  refine ⟨augments_applyTo a d, ?_, applyTo_of_known_only a d⟩
  have hlog := log_foldl_applyPatch a a.models
    ({ d with extensions := d.extensions.override a.extensions }, [])
  rwa [List.nil_append] at hlog

end Stencil.Augmentation
