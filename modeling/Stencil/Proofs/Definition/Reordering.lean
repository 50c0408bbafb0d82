import Mathlib.Data.List.Nodup
import Stencil.Proofs.Definition.Acceptance
import Stencil.Proofs.Definition.Closed
import Stencil.Proofs.TypeText

/-! The order of declarations does not matter.

Construction, and what templates see of its result, look declarations up by their names and resolve
types against the set of all names. If no two declarations of a kind share a name, then all these
lookups find the same in any order of the declarations. So every function of the construction is the
same function for two orders of a document (`Model.build_congr`), and so is every function of the
contexts (`Agrees.modelContext_eq`); each of them is applied to each declaration, wherever it
stands. -/

namespace Stencil

/-! ### Lists in another order -/

/-- A lookup by name finds the same in any order, if the names are distinct. -/
theorem find?_name_perm {α : Type} {nameOf : α → String} {l l' : List α}
    (hdistinct : (l.map nameOf).Nodup) (h : l.Perm l') (name : String) :
    l.find? (nameOf · = name) = l'.find? (nameOf · = name) := by
  cases hfound' : l'.find? (nameOf · = name) with
  | none =>
    rw [Definition.find?_name_eq_none, ← (h.map nameOf).mem_iff] at hfound'
    exact Definition.find?_name_eq_none.mpr hfound'
  | some a =>
    have ha : a ∈ l := h.mem_iff.mpr (List.mem_of_find?_eq_some hfound')
    have hname : nameOf a = name := by simpa using List.find?_some hfound'
    obtain ⟨b, hb⟩ := Definition.exists_find?_name.mpr
      (show name ∈ l.map nameOf from hname ▸ List.mem_map_of_mem ha)
    have hbname : nameOf b = name := by simpa using List.find?_some hb
    rw [hb, List.inj_on_of_nodup_map hdistinct (List.mem_of_find?_eq_some hb) ha
      (hbname.trans hname.symm)]

/-- Two orders of declarations, and what has been made of them one by one: what is made of a
declaration stands in its place, moves with it, and is found under its name in both orders. -/
structure MovesWith {α β : Type} (nameOf : α → String) (nameOf' : β → String) (l l' : List α)
    (r r' : List β) : Prop where
  names : r.map nameOf' = l.map nameOf
  places : ∀ i j : Nat, l[i]? = l'[j]? → r[i]? = r'[j]?
  lookups : ∀ name, r.find? (nameOf' · = name) = r'.find? (nameOf' · = name)

theorem movesWith_of_mapM {ε α β : Type} {f : α → Except ε β} {nameOf : α → String}
    {nameOf' : β → String} (hname : ∀ a b, f a = .ok b → nameOf' b = nameOf a) {l l' : List α}
    (hdistinct : (l.map nameOf).Nodup) (h : l.Perm l') {r r' : List β} (hr : l.mapM f = .ok r)
    (hr' : l'.mapM f = .ok r') : MovesWith nameOf nameOf' l l' r r' := by
  have hnames : r.map nameOf' = l.map nameOf := Outcome.map_eq_of_mapM hname hr
  refine ⟨hnames, fun i j hij => ?_, fun name => find?_name_perm (hnames ▸ hdistinct) ?_ name⟩
  · rw [Outcome.getElem?_of_mapM hr, Outcome.getElem?_of_mapM hr', hij]
  · rw [Outcome.eq_filterMap_of_mapM hr, Outcome.eq_filterMap_of_mapM hr']
    exact h.filterMap _

/-! ### Types -/

/-- The same names are known, in whatever order. -/
structure KnownNames.Same (known known' : KnownNames) : Prop where
  enums : ∀ name, name ∈ known.enums ↔ name ∈ known'.enums
  models : ∀ name, name ∈ known.models ↔ name ∈ known'.models

theorem KnownNames.Same.symm {known known' : KnownNames} (h : known.Same known') :
    known'.Same known :=
  ⟨fun name => (h.enums name).symm, fun name => (h.models name).symm⟩

namespace DataType

variable {known known' : KnownNames}

theorem Names.of_same (hsame : known.Same known') {base : List Char} {kind : Bool → DataType}
    (h : Names known base kind) : Names known' base kind := by
  cases h with
  | keyword kind spelled => exact .keyword kind spelled
  | enum noKeyword declared => exact .enum noKeyword ((hsame.enums _).mp declared)
  | model noKeyword noEnum declared =>
    exact .model noKeyword (mt (hsame.enums _).mpr noEnum) ((hsame.models _).mp declared)

/-- Resolution depends only on which names there are. -/
theorem resolve?_congr (hsame : known.Same known') (cs : List Char) :
    resolve? known cs = resolve? known' cs := by
  by_cases hnames : ∃ kind, Names known (stripMark cs).1 kind
  · obtain ⟨kind, hkind⟩ := hnames
    rw [resolve?_of_names hkind, resolve?_of_names (hkind.of_same hsame)]
  · have hnot := not_exists.mp hnames
    rw [resolve?_of_not_names hnot,
      resolve?_of_not_names fun kind hkind => hnot kind (hkind.of_same hsame.symm)]
    cases hitem : itemText? (stripMark cs).1 with
    | none => rfl
    | some item =>
      have := Nat.lt_of_lt_of_le (length_lt_of_itemText? hitem) (length_stripMark_le cs)
      rw [Option.bind_some, Option.bind_some, resolve?_congr hsame item]
termination_by cs.length

theorem parse_congr (hsame : known.Same known') : parse known = parse known' := by
  funext raw
  rw [parse, parse, resolve?_congr hsame]

end DataType

namespace Document

open Definition (namesOf)

/-- No two declarations of a kind share a name. -/
structure NamesDistinct (d : Document) : Prop where
  enums : (d.enums.map (·.name)).Nodup
  contracts : (d.contracts.map (·.name)).Nodup
  models : (d.models.map (·.name)).Nodup
  services : (d.services.map (·.name)).Nodup

/-- A document with its declarations in another order. -/
structure Reorders (d d' : Document) : Prop where
  nameSpace : d'.nameSpace = d.nameSpace
  options : d'.options = d.options
  extensions : d'.extensions = d.extensions
  enums : d.enums.Perm d'.enums
  contracts : d.contracts.Perm d'.contracts
  models : d.models.Perm d'.models
  services : d.services.Perm d'.services

variable {d d' : Document}

theorem Reorders.symm (h : d.Reorders d') : d'.Reorders d :=
  ⟨h.nameSpace.symm, h.options.symm, h.extensions.symm, h.enums.symm, h.contracts.symm,
    h.models.symm, h.services.symm⟩

theorem NamesDistinct.of_reorders (hd : d.NamesDistinct) (h : d.Reorders d') :
    d'.NamesDistinct :=
  ⟨(h.enums.map _).nodup hd.enums, (h.contracts.map _).nodup hd.contracts,
    (h.models.map _).nodup hd.models, (h.services.map _).nodup hd.services⟩

theorem Reorders.same (h : d.Reorders d') : (namesOf d).Same (namesOf d') :=
  ⟨fun _ => (h.enums.map _).mem_iff, fun _ => (h.models.map _).mem_iff⟩

theorem Reorders.includedProperties_eq (hd : d.NamesDistinct) (h : d.Reorders d') (m : Model) :
    d'.includedProperties m = d.includedProperties m := by
  simp only [includedProperties, find?_name_perm hd.contracts h.contracts]

theorem isConsistent_of_reorders (hd : d.NamesDistinct) (h : d.Reorders d')
    (hconsistent : d.IsConsistent) : d'.IsConsistent := by
  have hparse := DataType.parse_congr h.same
  have htype : (namesOf d).typeOf? = (namesOf d').typeOf? := by
    funext raw
    rw [KnownNames.typeOf?, KnownNames.typeOf?, hparse]
  obtain ⟨hc, hp, hf, hs, hn, hq, hb⟩ := hconsistent
  rw [hparse] at hc hp hf hs
  rw [htype] at hq
  refine ⟨fun c hc' => hc c (h.contracts.mem_iff.mpr hc'),
    fun m hm => hp m (h.models.mem_iff.mpr hm), fun m hm => hf m (h.models.mem_iff.mpr hm),
    fun s hs' => hs s (h.services.mem_iff.mpr hs'), fun m hm name hname => ?_, fun m hm => ?_,
    fun m hm base hbase => ?_⟩
  · exact (h.contracts.map _).mem_iff.mp (hn m (h.models.mem_iff.mpr hm) name hname)
  · rw [h.includedProperties_eq hd]
    exact hq m (h.models.mem_iff.mpr hm)
  · exact (h.models.map _).mem_iff.mp (hb m (h.models.mem_iff.mpr hm) base hbase)

end Document

namespace Definition

open Outcome

/-! ### Construction -/

variable {known known' : KnownNames}

theorem Property.build_congr (hsame : known.Same known') :
    Property.build known = Property.build known' := by
  funext p
  rw [Property.build, Property.build, DataType.parse_congr hsame]

theorem Method.build_congr (hsame : known.Same known') :
    Method.build known = Method.build known' := by
  have hparam : Param.build known = Param.build known' := by
    funext p
    rw [Param.build, Param.build, DataType.parse_congr hsame]
  funext m
  rw [Method.build, Method.build, DataType.parse_congr hsame, hparam]

theorem Contract.build_congr (hsame : known.Same known') :
    Contract.build known = Contract.build known' := by
  funext c
  rw [Contract.build, Contract.build, Property.build_congr hsame]

theorem Service.build_congr (hsame : known.Same known') :
    Service.build known = Service.build known' := by
  funext s
  rw [Service.build, Service.build, Method.build_congr hsame]

theorem includedContracts_congr {contracts contracts' : List Contract}
    (hfind : Contract.find? contracts = Contract.find? contracts') :
    includedContracts contracts = includedContracts contracts' := by
  funext model names
  rw [includedContracts, includedContracts, hfind]

theorem Model.build_congr (hsame : known.Same known') {contracts contracts' : List Contract}
    (hfind : Contract.find? contracts = Contract.find? contracts') :
    Model.build known contracts = Model.build known' contracts' := by
  funext m
  rw [Model.build, Model.build, Property.build_congr hsame, Method.build_congr hsame,
    includedContracts_congr hfind]

/-! ### Contexts -/

/-- Definitions in which the same is found under every name. -/
structure Agrees (d d' : Definition) : Prop where
  extensions : d.extensions = d'.extensions
  enums : d.enum? = d'.enum?
  contracts : d.contract? = d'.contract?
  models : d.model? = d'.model?

namespace Agrees

variable {d d' : Definition}

theorem describeType_eq (h : d.Agrees d') : d.describeType = d'.describeType := by
  funext t
  induction t with
  | primitive kind n => rfl
  | enum name n => rw [describeType, describeType, h.enums]
  | model name n => rw [describeType, describeType, h.models]
  | list item n ih => rw [describeType, describeType, ih]

theorem propertyContext_eq (h : d.Agrees d') : d.propertyContext = d'.propertyContext := by
  funext inherited p
  rw [propertyContext, propertyContext, h.describeType_eq]

theorem methodContext_eq (h : d.Agrees d') : d.methodContext = d'.methodContext := by
  have hparam : d.paramContext = d'.paramContext := by
    funext p
    rw [paramContext, paramContext, h.describeType_eq]
  funext inherited m
  rw [methodContext, methodContext, h.describeType_eq, hparam]

theorem enumContext_eq (h : d.Agrees d') : d.enumContext = d'.enumContext := by
  funext e
  rw [enumContext, enumContext, h.extensions]

theorem contractContext_eq (h : d.Agrees d') : d.contractContext = d'.contractContext := by
  funext c
  rw [contractContext, contractContext, h.extensions, h.propertyContext_eq]

theorem serviceContext_eq (h : d.Agrees d') : d.serviceContext = d'.serviceContext := by
  funext s
  rw [serviceContext, serviceContext, h.extensions, h.methodContext_eq]

theorem modelContext_eq (h : d.Agrees d') : d.modelContext = d'.modelContext := by
  have hbase : d.baseModel = d'.baseModel := by
    funext m
    rw [baseModel, baseModel, h.models]
  have hcontracts : d.modelContracts = d'.modelContracts := by
    funext m
    rw [modelContracts, modelContracts, includedContracts_congr h.contracts]
  have hinherited : d.inheritedExtensions = d'.inheritedExtensions := by
    funext m contracts p
    rw [inheritedExtensions, inheritedExtensions, h.extensions]
  funext m
  rw [modelContext, modelContext, h.extensions, hbase, hcontracts, hinherited,
    h.propertyContext_eq, h.contractContext_eq, h.methodContext_eq]

end Agrees

/-! ### Both together -/

/-- What templates see of two orders of a document. -/
structure Context.Reorders (doc doc' : Document) (c c' : Context) : Prop where
  name : c'.name = c.name
  nameSpace : c'.nameSpace = c.nameSpace
  options : c'.options = c.options
  extensions : c'.extensions = c.extensions
  enums : MovesWith (·.name) (·.name) doc.enums doc'.enums c.enums c'.enums
  contracts : MovesWith (·.name) (·.name) doc.contracts doc'.contracts c.contracts c'.contracts
  models : MovesWith (·.name) (·.name) doc.models doc'.models c.models c'.models
  services : MovesWith (·.name) (·.name) doc.services doc'.services c.services c'.services

variable {name : String} {doc doc' : Document} {options : Fields} {d d' : Definition}

/-- What is built from two orders of a document is found under the same names. -/
theorem agrees_of_build (hdistinct : doc.NamesDistinct) (h : doc.Reorders doc')
    (hd : build name doc options = .ok d) (hd' : build name doc' options = .ok d') :
    d.Agrees d' := by
  obtain ⟨contracts, models, services, hcontracts, hmodels, _, _, rfl⟩ := build_eq_ok.mp hd
  obtain ⟨contracts', models', services', hcontracts', hmodels', _, _, rfl⟩ := build_eq_ok.mp hd'
  rw [Contract.build_congr h.same] at hcontracts
  have hcontract : Contract.find? contracts = Contract.find? contracts' := by
    funext name
    exact (movesWith_of_mapM (fun _ _ => Contract.build_name) hdistinct.contracts h.contracts
      hcontracts hcontracts').lookups name
  rw [Model.build_congr h.same hcontract] at hmodels
  refine ⟨h.extensions.symm, ?_, hcontract, ?_⟩
  · funext name
    have hnames : ((doc.enums.map Enum.build).map (·.name)).Nodup := by
      rw [List.map_map]
      exact hdistinct.enums
    exact find?_name_perm hnames (h.enums.map _) name
  · funext name
    exact (movesWith_of_mapM (fun _ _ => Model.build_name) hdistinct.models h.models
      hmodels hmodels').lookups name

/-- What templates see of a definition that was built, as passes over the declarations of the
document. -/
structure Context.Shows (name : String) (doc : Document) (options : Fields) (d : Definition)
    (c : Context) : Prop where
  name : c.name = name
  nameSpace : c.nameSpace = doc.nameSpace
  options : c.options = doc.options.override options
  extensions : c.extensions = doc.extensions
  enums : doc.enums.mapM (fun e => pure (d.enumContext (Enum.build e))) =
    (.ok c.enums : Except Error (List EnumContext))
  contracts : doc.contracts.mapM (fun k => Contract.build (namesOf doc) k >>= d.contractContext) =
    .ok c.contracts
  models : doc.models.mapM (fun m => Model.build (namesOf doc) d.contracts m >>= d.modelContext) =
    .ok c.models
  services : doc.services.mapM (fun s => Service.build (namesOf doc) s >>= d.serviceContext) =
    .ok c.services

theorem shows_of_build (hd : build name doc options = .ok d) {c : Context}
    (hc : d.context = .ok c) : c.Shows name doc options d := by
  obtain ⟨contracts, models, services, hcontracts, hmodels, hservices, _, rfl⟩ :=
    build_eq_ok.mp hd
  obtain ⟨_, _, _, hcontracts', hmodels', hservices', rfl⟩ := context_eq_ok.mp hc
  refine ⟨rfl, rfl, rfl, rfl, ?_, mapM_bind hcontracts hcontracts', mapM_bind hmodels hmodels',
    mapM_bind hservices hservices'⟩
  rw [List.mapM_pure]
  simp only [assemble, List.map_map]
  rfl

/-- The contexts of two orders of a document: both come from one pass over the declarations. -/
theorem context_reorders (hdistinct : doc.NamesDistinct) (h : doc.Reorders doc')
    (hd : build name doc options = .ok d) (hd' : build name doc' options = .ok d') {c c' : Context}
    (hc : d.context = .ok c) (hc' : d'.context = .ok c') : c.Reorders doc doc' c' := by
  have hagrees := agrees_of_build hdistinct h hd hd'
  have hshows := shows_of_build hd hc
  have hshows' := shows_of_build hd' hc'
  have henums := hshows.enums
  have hcontracts := hshows.contracts
  have hmodels := hshows.models
  have hservices := hshows.services
  rw [hagrees.enumContext_eq] at henums
  rw [Contract.build_congr h.same, hagrees.contractContext_eq] at hcontracts
  rw [Model.build_congr h.same hagrees.contracts, hagrees.modelContext_eq] at hmodels
  rw [Service.build_congr h.same, hagrees.serviceContext_eq] at hservices
  refine ⟨?_, ?_, ?_, ?_, ?_, ?_, ?_, ?_⟩
  · rw [hshows.name, hshows'.name]
  · rw [hshows.nameSpace, hshows'.nameSpace, h.nameSpace]
  · rw [hshows.options, hshows'.options, h.options]
  · rw [hshows.extensions, hshows'.extensions, h.extensions]
  · refine movesWith_of_mapM (fun e c hec => ?_) hdistinct.enums h.enums henums hshows'.enums
    rw [pure_eq_ok.mp hec]
    rfl
  · refine movesWith_of_mapM (fun k c hkc => ?_) hdistinct.contracts h.contracts hcontracts
      hshows'.contracts
    obtain ⟨built, hbuilt, hc⟩ := bind_eq_ok.mp hkc
    rw [contractContext_name hc, Contract.build_name hbuilt]
  · refine movesWith_of_mapM (fun m c hmc => ?_) hdistinct.models h.models hmodels hshows'.models
    obtain ⟨built, hbuilt, hc⟩ := bind_eq_ok.mp hmc
    rw [modelContext_name hc, Model.build_name hbuilt]
  · refine movesWith_of_mapM (fun s c hsc => ?_) hdistinct.services h.services hservices
      hshows'.services
    obtain ⟨built, hbuilt, hc⟩ := bind_eq_ok.mp hsc
    rw [serviceContext_name hc, Service.build_name hbuilt]

/-- A document whose names are distinct can be built iff it can be built with its declarations in
another order. What templates see of each declaration is the same then, and moves with it. -/
theorem build_of_reordered (name : String) (doc doc' : Document) (options : Fields)
    (hdistinct : doc.NamesDistinct) (h : doc.Reorders doc') :
    ((∃ d, build name doc options = .ok d) ↔ ∃ d', build name doc' options = .ok d') ∧
    ∀ d d', build name doc options = .ok d → build name doc' options = .ok d' →
      ∃ c c', d.context = .ok c ∧ d'.context = .ok c' ∧ c.Reorders doc doc' c' := by
  constructor
  · rw [exists_build_iff, exists_build_iff]
    exact ⟨Document.isConsistent_of_reorders hdistinct h,
      Document.isConsistent_of_reorders (hdistinct.of_reorders h) h.symm⟩
  · intro d d' hd hd'
    obtain ⟨c, hc⟩ := exists_context (closed_of_build hd)
    obtain ⟨c', hc'⟩ := exists_context (closed_of_build hd')
    exact ⟨c, c', hc, hc', context_reorders hdistinct h hd hd' hc hc'⟩

/-- The shop with all its declarations backwards. -/
def backwards : Document :=
  { shop with enums := shop.enums.reverse, contracts := shop.contracts.reverse
              models := shop.models.reverse, services := shop.services.reverse }

theorem build_backwards : ∃ d d' c c', build "Shop" shop [] = .ok d ∧
    build "Shop" backwards [] = .ok d' ∧ d.context = .ok c ∧ d'.context = .ok c' ∧
    c.Reorders shop backwards c' ∧
    backwards.models.map (·.name) = ["Customer", "Entity", "Order"] := by
  have hdistinct : shop.NamesDistinct :=
    ⟨by decide, by decide, by decide, by decide⟩
  have hreorders : shop.Reorders backwards :=
    ⟨rfl, rfl, rfl, (List.reverse_perm _).symm, (List.reverse_perm _).symm,
      (List.reverse_perm _).symm, (List.reverse_perm _).symm⟩
  have hbuilt := build_of_reordered "Shop" shop backwards [] hdistinct hreorders
  have hok : (build "Shop" shop []).isOk = true := by decide +kernel
  cases hd : build "Shop" shop [] with
  | error e => rw [hd] at hok; cases hok
  | ok d =>
    obtain ⟨d', hd'⟩ := hbuilt.1.mp ⟨d, hd⟩
    obtain ⟨c, c', hc, hc', hcontexts⟩ := hbuilt.2 d d' hd hd'
    exact ⟨d, d', c, c', rfl, hd', hc, hc', hcontexts, by decide⟩

end Definition

end Stencil
