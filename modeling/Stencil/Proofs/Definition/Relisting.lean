import Mathlib.Data.List.Nodup
import Mathlib.Data.List.Perm.Basic
import Stencil.Proofs.Definition.Merging

/-! Models that list their contracts in another order, or some of them more than once.

Merging finds a conflict by comparing each offered property with the first one of its name. Whether
there is one does not depend on the order: there is none iff all offered properties of a name have
one type, and that of the first own property of the name (`Compatible`). Which names are taken over,
and with which types, is then settled by what is offered, in whatever order (`takenOver_perm`). But
which of several contracts a property is taken from does depend on the order, and with it the rest
of the property. -/

namespace Stencil.Definition

open Outcome

/-- The offered properties of a name have one type, which is that of the first own property of the
name, if there is one. -/
structure Compatible (own : List Property) (offered : List (String × Property)) : Prop where
  withOwn : ∀ q ∈ offered, ∀ first, own.find? (·.name = q.2.name) = some first →
    first.dataType = q.2.dataType
  together : ∀ q ∈ offered, ∀ q' ∈ offered, q'.2.name = q.2.name → q'.2.dataType = q.2.dataType

/-- The name and the type of a property. -/
def Property.signature (p : Property) : String × DataType := (p.name, p.dataType)

variable {own : List Property} {offered offered' : List (String × Property)}

/-! ### Conflicts -/

theorem no_conflict_iff :
    (∀ i q first, ¬ ConflictAt own offered i q first) ↔ Compatible own offered := by
  constructor
  · intro h
    constructor
    · intro q hq first hfirst
      obtain ⟨first', hfirst', htype⟩ := exists_first_of_no_conflict h hq
      rw [List.find?_append, hfirst, Option.some_or, Option.some.injEq] at hfirst'
      rw [hfirst', htype]
    · intro q hq q' hq' hname
      obtain ⟨first, hfirst, htype⟩ := exists_first_of_no_conflict h hq
      obtain ⟨first', hfirst', htype'⟩ := exists_first_of_no_conflict h hq'
      rw [hname, hfirst, Option.some.injEq] at hfirst'
      rw [← htype', ← hfirst', htype]
  · rintro ⟨hown, htogether⟩ i q first ⟨hplace, hfound, htypes⟩
    have hq : q ∈ offered := List.mem_of_getElem? hplace
    rw [earlier, List.find?_append, Option.or_eq_some_iff] at hfound
    rcases hfound with hfound | ⟨_, hfound⟩
    · exact htypes (hown q hq first hfound)
    · obtain ⟨q', hq', rfl⟩ := List.mem_map.mp (List.mem_of_find?_eq_some hfound)
      have hname : q'.2.name = q.2.name := by simpa using List.find?_some hfound
      exact htypes (htogether q hq q' (List.mem_of_mem_take hq') hname)

theorem Compatible.of_same (h : Compatible own offered) (hsame : ∀ q, q ∈ offered' ↔ q ∈ offered) :
    Compatible own offered' :=
  ⟨fun q hq => h.withOwn q ((hsame q).mp hq),
    fun q hq q' hq' => h.together q ((hsame q).mp hq) q' ((hsame q').mp hq')⟩

/-! ### What is taken over -/

/-- A name that is offered and not an own one is taken over. -/
theorem exists_takenOver {q : String × Property} (hq : q ∈ offered)
    (hown : q.2.name ∉ own.map (·.name)) : ∃ p ∈ takenOver own offered, p.name = q.2.name := by
  have hfind := find?_takenOver own offered q.2.name
  obtain ⟨first, hfirst⟩ := exists_find?_name.mpr
    (show q.2.name ∈ (own ++ offered.map (·.2)).map (·.name) from
      List.mem_map_of_mem (List.mem_append_right _ (List.mem_map_of_mem hq)))
  rw [hfirst, Option.map_some, Option.map_eq_some_iff] at hfind
  obtain ⟨p, hp, _⟩ := hfind
  have hname : p.name = q.2.name := by simpa using List.find?_some hp
  rcases List.mem_append.mp (List.mem_of_find?_eq_some hp) with hmem | hmem
  · exact absurd (hname ▸ List.mem_map_of_mem hmem) hown
  · exact ⟨p, hmem, hname⟩

theorem nodup_names_takenOver (own : List Property) (offered : List (String × Property)) :
    ((takenOver own offered).map (·.name)).Nodup := by
  induction offered using List.reverseRecOn with
  | nil => exact List.nodup_nil
  | append_singleton seen q ih =>
    rw [takenOver_concat]
    split
    · rwa [List.append_nil]
    · rename_i hnew
      rw [List.map_append, List.nodup_append]
      refine ⟨ih, List.nodup_singleton _, fun a ha b hb heq => hnew ?_⟩
      obtain ⟨p, hp, rfl⟩ := List.mem_map.mp ha
      obtain ⟨_, q', hq', rfl⟩ := exists_of_mem_takenOver hp
      have hqname : q'.2.name = q.2.name := heq.trans (List.mem_singleton.mp hb)
      rw [← hqname]
      exact List.mem_map_of_mem (List.mem_append_right _ (List.mem_map_of_mem hq'))

/-- Taken over is each name that is offered and not an own one, with the type that it is offered
with. -/
theorem mem_signatures_takenOver (h : Compatible own offered) {n : String} {t : DataType} :
    (n, t) ∈ (takenOver own offered).map Property.signature ↔
      n ∉ own.map (·.name) ∧ ∃ q ∈ offered, q.2.signature = (n, t) := by
  constructor
  · intro hmem
    obtain ⟨p, hp, hsignature⟩ := List.mem_map.mp hmem
    obtain ⟨hown, q, hq, rfl⟩ := exists_of_mem_takenOver hp
    cases hsignature
    exact ⟨hown, q, hq, rfl⟩
  · rintro ⟨hown, q, hq, hsignature⟩
    cases hsignature
    obtain ⟨p, hp, hname⟩ := exists_takenOver hq hown
    obtain ⟨_, q', hq', rfl⟩ := exists_of_mem_takenOver hp
    have htype : q'.2.dataType = q.2.dataType := h.together q hq q' hq' hname
    refine List.mem_map.mpr ⟨_, hp, ?_⟩
    rw [Property.signature, hname, show (takeOver q').dataType = q.2.dataType from htype]

/-- The names and types of what is taken over depend only on what is offered. -/
theorem takenOver_perm (h : Compatible own offered) (hsame : ∀ q, q ∈ offered' ↔ q ∈ offered) :
    ((takenOver own offered).map Property.signature).Perm
      ((takenOver own offered').map Property.signature) := by
  have hnodup (row : List (String × Property)) :
      ((takenOver own row).map Property.signature).Nodup := by
    refine List.Nodup.of_map Prod.fst ?_
    rw [List.map_map]
    exact nodup_names_takenOver own row
  rw [List.perm_ext_iff_of_nodup (hnodup offered) (hnodup offered')]
  rintro ⟨n, t⟩
  rw [mem_signatures_takenOver h, mem_signatures_takenOver (h.of_same hsame)]
  simp only [hsame]

/-! ### Offers that are made again -/

/-- A property that has been merged already changes nothing. -/
theorem includeProperty_again {model : String} {properties : List Property}
    (h : offered.foldlM (includeProperty model) own = .ok properties) {q : String × Property}
    (hq : q ∈ offered) : includeProperty model properties q = .ok properties := by
  obtain ⟨hnone, rfl⟩ := merge_eq_ok.mp h
  obtain ⟨first, hfirst, htype⟩ := exists_first_of_no_conflict hnone hq
  rw [includeProperty_of_earlier model hfirst, if_pos htype, takenOver_concat,
    if_pos (exists_find?_name.mp ⟨first, hfirst⟩), List.append_nil]

theorem merge_again {model : String} {properties : List Property}
    (h : offered.foldlM (includeProperty model) own = .ok properties) :
    ∀ {again : List (String × Property)}, (∀ q ∈ again, q ∈ offered) →
      again.foldlM (includeProperty model) properties = .ok properties
  | [], _ => rfl
  | q :: again, hagain => by
    rw [List.foldlM_cons, includeProperty_again h (hagain q (List.mem_cons_self ..))]
    exact merge_again h fun q hq => hagain q (List.mem_cons_of_mem _ hq)

theorem merge_insert_again (model : String) {before again : List (String × Property)}
    (hagain : ∀ q ∈ again, q ∈ before) (after : List (String × Property)) :
    (before ++ (again ++ after)).foldlM (includeProperty model) own =
      (before ++ after).foldlM (includeProperty model) own := by
  rw [List.foldlM_append, List.foldlM_append]
  cases hbefore : before.foldlM (includeProperty model) own with
  | error e => rfl
  | ok properties =>
    show (again ++ after).foldlM (includeProperty model) properties =
      after.foldlM (includeProperty model) properties
    rw [List.foldlM_append, merge_again hbefore hagain]
    rfl

/-! ### Models -/

variable {known : KnownNames} {contracts included : List Contract} {m : Document.Model}
  {methods : List Method}

theorem mem_includedContracts {model : String} {names : List String}
    (h : includedContracts contracts model names = .ok included) {c : Contract} :
    c ∈ included ↔ ∃ name ∈ names, Contract.find? contracts name = some c := by
  have hrel := includedContracts_eq_ok.mp h
  constructor
  · exact exists_of_mem_right hrel
  · rintro ⟨name, hname, hfind⟩
    obtain ⟨c', hc', hfind'⟩ := exists_of_mem_left hrel hname
    rwa [Option.some.inj (hfind.symm.trans hfind')]

/-- If the same contracts are listed, then the same properties are offered. -/
theorem Model.Parts.relist (h : Model.Parts known contracts m own methods included)
    {names : List String} (hnames : ∀ name, name ∈ names ↔ name ∈ m.contracts) :
    ∃ included', Model.Parts known contracts { m with contracts := names } own methods included' ∧
      ∀ q, q ∈ contractProperties included' ↔ q ∈ contractProperties included := by
  obtain ⟨included', hincluded'⟩ : ∃ included',
      includedContracts contracts m.name names = .ok included' := by
    refine exists_mapM_eq_ok fun name hname => ?_
    obtain ⟨c, _, hc⟩ := exists_of_mem_left (mapM_eq_ok.mp h.included) ((hnames name).mp hname)
    exact ⟨c, hc⟩
  refine ⟨included', ⟨h.own, h.methods, hincluded'⟩, fun q => ?_⟩
  simp only [mem_contractProperties, mem_includedContracts hincluded',
    mem_includedContracts h.included, hnames]

/-- Two models that differ in no more than the contracts that they list, and in the properties that
were taken over: their order, and of each its contract, the text of its type and its extensions. -/
structure Model.Relists (own : List Property) (b b' : Model) : Prop where
  name : b'.name = b.name
  isAbstract : b'.isAbstract = b.isAbstract
  baseModel : b'.baseModel = b.baseModel
  methods : b'.methods = b.methods
  extensions : b'.extensions = b.extensions
  ownFirst : own <+: b.properties
  ownFirst' : own <+: b'.properties
  signatures : (b.properties.map Property.signature).Perm (b'.properties.map Property.signature)

theorem exists_build_of_relisted {names : List String}
    (hnames : ∀ name, name ∈ names ↔ name ∈ m.contracts) {b : Model}
    (h : Model.build known contracts m = .ok b) :
    ∃ own b', m.properties.mapM (Property.build known) = .ok own ∧
      Model.build known contracts { m with contracts := names } = .ok b' ∧ b.Relists own b' := by
  obtain ⟨own, methods, included, hparts, hnone, rfl⟩ := Model.build_eq_ok_iff.mp h
  obtain ⟨included', hparts', hsame⟩ := hparts.relist hnames
  have hcompatible := no_conflict_iff.mp hnone
  refine ⟨own, _, hparts.own, Model.build_eq_ok_iff.mpr ⟨own, methods, included', hparts',
    no_conflict_iff.mpr (hcompatible.of_same hsame), rfl⟩, ?_⟩
  refine ⟨rfl, rfl, rfl, rfl, rfl, List.prefix_append .., List.prefix_append .., ?_⟩
  simp only [List.map_append]
  exact (takenOver_perm hcompatible hsame).append_left _

theorem contractProperties_append (cs ds : List Contract) :
    contractProperties (cs ++ ds) = contractProperties cs ++ contractProperties ds := by
  rw [contractProperties, contractProperties, contractProperties, List.flatMap_append]

/-- A contract that is listed once more changes nothing but the list, also if the model cannot be
built. -/
theorem build_again {before after : List String} (hm : m.contracts = before ++ after)
    {name : String} (hname : name ∈ before) :
    Model.build known contracts { m with contracts := before ++ name :: after } =
      (Model.build known contracts m).map fun b =>
        { b with contracts := before ++ name :: after } := by
  rw [Model.build, Model.build]
  cases m.properties.mapM (Property.build known) with
  | error e => rfl
  | ok own =>
    cases m.methods.mapM (Method.build known) with
    | error e => rfl
    | ok methods =>
      simp only [hm, includedContracts]
      rcases mapM_again hname after with ⟨e, herror, herror'⟩ | ⟨first, c, later, hc, hok, hok'⟩
      · rw [herror, herror']
        rfl
      · have hagain : ∀ q ∈ contractProperties [c], q ∈ contractProperties first := by
          intro q hq
          obtain ⟨c', hc', hq⟩ := mem_contractProperties.mp hq
          exact mem_contractProperties.mpr ⟨c', List.mem_singleton.mp hc' ▸ hc, hq⟩
        have hmerge : (contractProperties (first ++ c :: later)).foldlM
            (includeProperty m.name) own =
              (contractProperties (first ++ later)).foldlM (includeProperty m.name) own := by
          rw [← List.singleton_append, contractProperties_append, contractProperties_append,
            contractProperties_append, merge_insert_again m.name hagain]
        rw [hok, hok']
        simp only [bind, Except.bind]
        rw [hmerge]
        cases (contractProperties (first ++ later)).foldlM (includeProperty m.name) own <;> rfl

/-- Whether a model can be built does not depend on the order in which it lists its contracts, nor
on how often. The models that are built from two lists of the same contracts have the same own
properties in front and the same names with the same types; all else that may differ is the order of
what was taken over, and of each property its contract, the text of its type and its extensions. A
contract that is listed again, behind the place where it stands already, changes nothing at all. -/
theorem build_of_relisted (known : KnownNames) (contracts : List Contract) (m : Document.Model)
    (names : List String) (hnames : ∀ name, name ∈ names ↔ name ∈ m.contracts) :
    ((∃ b, Model.build known contracts m = .ok b) ↔
      ∃ b', Model.build known contracts { m with contracts := names } = .ok b') ∧
    (∀ b b', Model.build known contracts m = .ok b →
      Model.build known contracts { m with contracts := names } = .ok b' →
      ∃ own, m.properties.mapM (Property.build known) = .ok own ∧ b.Relists own b') ∧
    ∀ before after name, m.contracts = before ++ after → name ∈ before →
      Model.build known contracts { m with contracts := before ++ name :: after } =
        (Model.build known contracts m).map fun b =>
          { b with contracts := before ++ name :: after } := by
  refine ⟨⟨?_, ?_⟩, ?_, fun before after name hm hname => build_again hm hname⟩
  · rintro ⟨b, hb⟩
    obtain ⟨_, b', _, hb', _⟩ := exists_build_of_relisted hnames hb
    exact ⟨b', hb'⟩
  · rintro ⟨b', hb'⟩
    -- the other way round: the first list is a relisting of the second one
    obtain ⟨_, b, _, hb, _⟩ := exists_build_of_relisted (fun name => (hnames name).symm) hb'
    exact ⟨b, hb⟩
  · intro b b' hb hb'
    obtain ⟨own, b'', hown, hb'', hrelists⟩ := exists_build_of_relisted hnames hb
    cases hb'.symm.trans hb''
    exact ⟨own, hown, hrelists⟩

/-- Two contracts that offer one property with different extensions. -/
def units : List Contract :=
  [⟨"Metric", [⟨"width", "int", .primitive .integer false, none, [("unit", .str "mm")]⟩,
     ⟨"weight", "double", .primitive .double false, none, []⟩], []⟩,
   ⟨"Imperial", [⟨"width", "Integer", .primitive .integer false, none, [("unit", .str "inch")]⟩],
     []⟩]

/-- A model that lists contracts. -/
def crate (names : List String) : Document.Model where
  name := "Crate"
  properties := [{ name := "label", type := "string" }]
  contracts := names

theorem build_of_relisted_crate : ∃ own b b',
    Model.build ⟨[], []⟩ units (crate ["Metric", "Imperial"]) = .ok b ∧
    Model.build ⟨[], []⟩ units (crate ["Imperial", "Metric", "Imperial"]) = .ok b' ∧
    b.Relists own b' ∧
    b.properties.map (·.name) = ["label", "width", "weight"] := by
  have hnames : (Model.build ⟨[], []⟩ units (crate ["Metric", "Imperial"])).toOption.map
      (fun b => b.properties.map (·.name)) = some ["label", "width", "weight"] := by
    decide +kernel
  obtain ⟨b, hb, hnames⟩ := Option.map_eq_some_iff.mp hnames
  rw [toOption_eq_some] at hb
  obtain ⟨hiff, hrelists, _⟩ := build_of_relisted ⟨[], []⟩ units (crate ["Metric", "Imperial"])
    ["Imperial", "Metric", "Imperial"] (by simp [crate, or_comm])
  obtain ⟨b', hb'⟩ := hiff.mp ⟨b, hb⟩
  obtain ⟨own, _, hrelists⟩ := hrelists b b' hb hb'
  exact ⟨own, b, b', hb, hb', hrelists, hnames⟩

/-- The unit of a property, if it has one. -/
def Property.unit? (p : Property) : Option String := (p.extensions.get? "unit").bind Value.asText?

/-- The extensions of a property that two contracts offer depend on which of them is listed first.
So they change under a permutation, and also if a contract is listed again in front of the other. -/
theorem extensions_of_relisted_crate : ∃ b,
    Model.build ⟨[], []⟩ units (crate ["Metric", "Imperial"]) = .ok b ∧
    ∀ names ∈ [["Imperial", "Metric"], ["Imperial", "Metric", "Imperial"]],
      ∃ b', Model.build ⟨[], []⟩ units (crate names) = .ok b' ∧
        ∃ p ∈ b.properties, ∀ p' ∈ b'.properties, p'.name = p.name →
          p'.extensions ≠ p.extensions := by
  have hunits : (Model.build ⟨[], []⟩ units (crate ["Metric", "Imperial"])).toOption.map
      (fun b => b.properties.map fun p => (p.name, p.unit?)) =
        some [("label", none), ("width", some "mm"), ("weight", none)] := by decide +kernel
  have hunits' : ∀ names ∈ [["Imperial", "Metric"], ["Imperial", "Metric", "Imperial"]],
      (Model.build ⟨[], []⟩ units (crate names)).toOption.map
        (fun b => b.properties.map fun p => (p.name, p.unit?)) =
          some [("label", none), ("width", some "inch"), ("weight", none)] := by decide +kernel
  obtain ⟨b, hb, hmetric⟩ := Option.map_eq_some_iff.mp hunits
  refine ⟨b, toOption_eq_some.mp hb, fun names hnames => ?_⟩
  obtain ⟨b', hb', himperial⟩ := Option.map_eq_some_iff.mp (hunits' names hnames)
  obtain ⟨p, hp, hwidth⟩ : ∃ p ∈ b.properties, (p.name, p.unit?) = ("width", some "mm") :=
    List.mem_map.mp (by rw [hmetric]; simp)
  refine ⟨b', toOption_eq_some.mp hb', p, hp, fun p' hp' hname hextensions => ?_⟩
  have hunit : p'.unit? = p.unit? := by rw [Property.unit?, hextensions, Property.unit?]
  have hmem : (p'.name, p'.unit?) ∈ [("label", none), ("width", some "inch"), ("weight", none)] :=
    himperial ▸ List.mem_map_of_mem hp'
  rw [hname, hunit, hwidth] at hmem
  simp at hmem

end Stencil.Definition
