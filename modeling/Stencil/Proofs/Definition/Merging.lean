import Mathlib.Data.List.Induction
import Stencil.Proofs.Definition.Inversion

/-! What merging makes of the properties that contracts offer to a model.

The offered properties stand in a row behind the own ones of the model. One whose name does not
occur before it is taken over; any other must have the type of the first property of its name.
Merging searches only among the own properties and those taken over so far, but the first property
of a name is the same there as in the row (`find?_takenOver`). So the row settles the outcome:
merging ends in its first conflict, and if it has none, in the own properties and those taken over
(`merge_eq_ok`, `merge_eq_error`). -/

namespace Stencil.Definition

open Outcome

/-- A property of a contract as a model takes it over. -/
def takeOver (q : String × Property) : Property := { q.2 with contract := some q.1 }

/-- The properties before a place among the offered ones: the own ones and those offered earlier. -/
def earlier (own : List Property) (offered : List (String × Property)) (i : Nat) : List Property :=
  own ++ (offered.take i).map (·.2)

/-- The offered properties that are taken over: those whose name does not occur before them. -/
def takenOver (own : List Property) (offered : List (String × Property)) : List Property :=
  (offered.zipIdx.filter fun (q, i) => q.2.name ∉ (earlier own offered i).map (·.name)).map
    fun (q, _) => takeOver q

/-- An offered property has another type than the first property of its name before it. -/
structure ConflictAt (own : List Property) (offered : List (String × Property)) (i : Nat)
    (q : String × Property) (first : Property) : Prop where
  place : offered[i]? = some q
  found : (earlier own offered i).find? (·.name = q.2.name) = some first
  types : first.dataType ≠ q.2.dataType

/-- The conflict that comes before all others. -/
def FirstConflict (own : List Property) (offered : List (String × Property))
    (q : String × Property) (first : Property) : Prop :=
  ∃ i, ConflictAt own offered i q first ∧
    ∀ j < i, ∀ q' first', ¬ ConflictAt own offered j q' first'

variable {own : List Property} {offered : List (String × Property)}

/-! ### The row of properties -/

theorem earlier_append {seen : List (String × Property)} {i : Nat} (h : i ≤ seen.length)
    (rest : List (String × Property)) : earlier own (seen ++ rest) i = earlier own seen i := by
  rw [earlier, earlier, List.take_append_of_le_length h]

theorem earlier_length (own : List Property) (seen : List (String × Property)) :
    earlier own seen seen.length = own ++ seen.map (·.2) := by
  rw [earlier, List.take_length]

theorem takenOver_nil (own : List Property) : takenOver own [] = [] := rfl

/-- One more property is taken over unless its name is there. -/
theorem takenOver_concat (own : List Property) (seen : List (String × Property))
    (q : String × Property) :
    takenOver own (seen ++ [q]) = takenOver own seen ++
      if q.2.name ∈ (own ++ seen.map (·.2)).map (·.name) then [] else [takeOver q] := by
  have hsame : ∀ p ∈ seen.zipIdx,
      decide (p.1.2.name ∉ (earlier own (seen ++ [q]) p.2).map (·.name)) =
        decide (p.1.2.name ∉ (earlier own seen p.2).map (·.name)) := by
    rintro ⟨p, i⟩ hp
    obtain ⟨_, hi, _⟩ := List.mem_zipIdx hp
    rw [earlier_append (by omega)]
  have hlast : earlier own (seen ++ [q]) seen.length = own ++ seen.map (·.2) := by
    rw [earlier_append (Nat.le_refl _), earlier_length]
  rw [takenOver, List.zipIdx_append, List.filter_append, List.map_append,
    List.filter_congr hsame, ← takenOver]
  congr 1
  simp only [List.zipIdx_singleton, Nat.zero_add, List.filter_cons, List.filter_nil, hlast]
  by_cases hname : q.2.name ∈ (own ++ seen.map (·.2)).map (·.name)
  · rw [if_pos hname, if_neg (mt of_decide_eq_true (not_not_intro hname)), List.map_nil]
  · rw [if_neg hname, if_pos (decide_eq_true hname), List.map_singleton]

theorem exists_of_mem_takenOver {p : Property} (h : p ∈ takenOver own offered) :
    p.name ∉ own.map (·.name) ∧ ∃ q ∈ offered, p = takeOver q := by
  obtain ⟨⟨q, i⟩, hq, rfl⟩ := List.mem_map.mp h
  obtain ⟨hzip, hnew⟩ := List.mem_filter.mp hq
  refine ⟨fun hown => of_decide_eq_true hnew ?_, q, List.fst_mem_of_mem_zipIdx hzip, rfl⟩
  rw [earlier, List.map_append]
  exact List.mem_append_left _ hown

/-- The texts and types of properties, which is what conflicts are about. -/
def Property.typing (p : Property) : String × DataType := (p.rawType, p.dataType)

/-- Among the own properties and those taken over, the first one of a name is that of the row. -/
theorem find?_takenOver (own : List Property) (seen : List (String × Property)) (name : String) :
    ((own ++ takenOver own seen).find? (·.name = name)).map Property.typing =
      ((own ++ seen.map (·.2)).find? (·.name = name)).map Property.typing := by
  induction seen using List.reverseRecOn with
  | nil => rw [takenOver_nil, List.map_nil]
  | append_singleton seen q ih =>
    have hrow : own ++ (seen ++ [q]).map (·.2) = own ++ seen.map (·.2) ++ [q.2] := by simp
    have happend (l l' : List Property) : ((l ++ l').find? (·.name = name)).map Property.typing =
        ((l.find? (·.name = name)).map Property.typing).or
          ((l'.find? (·.name = name)).map Property.typing) := by
      rw [List.find?_append, Option.map_or]
    rw [takenOver_concat, hrow, ← List.append_assoc, happend (own ++ takenOver own seen),
      happend (own ++ seen.map (·.2)), ih]
    by_cases hthere : q.2.name ∈ (own ++ seen.map (·.2)).map (·.name)
    · rw [if_pos hthere]
      by_cases hname : q.2.name = name
      · -- an earlier property of that name comes first
        obtain ⟨first, hfirst⟩ := exists_find?_name.mpr (hname ▸ hthere)
        rw [hfirst]
        rfl
      · simp [hname]
    · rw [if_neg hthere, List.find?_singleton, List.find?_singleton]
      by_cases hname : q.2.name = name <;> simp [hname, takeOver, Property.typing]

/-! ### Merging -/

/-- One step of merging, where the name of the property does not occur before it. -/
theorem includeProperty_of_new (model : String) {seen : List (String × Property)}
    {q : String × Property}
    (h : (own ++ seen.map (·.2)).find? (·.name = q.2.name) = none) :
    includeProperty model (own ++ takenOver own seen) q =
      .ok (own ++ takenOver own (seen ++ [q])) := by
  have hnone := find?_takenOver own seen q.2.name
  rw [h, Option.map_none, Option.map_eq_none_iff] at hnone
  rw [takenOver_concat, if_neg (find?_name_eq_none.mp h), ← List.append_assoc]
  exact includeProperty_eq_ok.mpr (.inr ⟨hnone, rfl⟩)

/-- One step of merging, where there is an earlier property of the name. -/
theorem includeProperty_of_earlier (model : String) {seen : List (String × Property)}
    {q : String × Property} {first : Property}
    (h : (own ++ seen.map (·.2)).find? (·.name = q.2.name) = some first) :
    includeProperty model (own ++ takenOver own seen) q =
      if first.dataType = q.2.dataType then .ok (own ++ takenOver own (seen ++ [q]))
      else .error (.propertyTypeConflict model q.2.name first.rawType q.2.rawType) := by
  have hfound := find?_takenOver own seen q.2.name
  rw [h, Option.map_some, Option.map_eq_some_iff] at hfound
  obtain ⟨existing, hexisting, htyping⟩ := hfound
  have hraw : existing.rawType = first.rawType := congrArg Prod.fst htyping
  have htype : existing.dataType = first.dataType := congrArg Prod.snd htyping
  rw [includeProperty, hexisting, takenOver_concat, if_pos (exists_find?_name.mp ⟨first, h⟩),
    List.append_nil]
  simp only [hraw, htype]

/-- There is no conflict at a place where a step of merging succeeds. -/
theorem not_conflictAt_length {seen rest : List (String × Property)} {q : String × Property}
    (h : ∀ first, (own ++ seen.map (·.2)).find? (·.name = q.2.name) = some first →
      first.dataType = q.2.dataType) (q' : String × Property) (first : Property) :
    ¬ ConflictAt own (seen ++ q :: rest) seen.length q' first := by
  rintro ⟨hplace, hfirst, htypes⟩
  rw [List.getElem?_append_right (Nat.le_refl _), Nat.sub_self] at hplace
  cases hplace
  rw [earlier_append (Nat.le_refl _), earlier_length] at hfirst
  exact htypes (h first hfirst)

/-- Merging the rest of a row in whose beginning there is no conflict: by induction on the rest, for
one step either adds to the beginning or meets the first conflict. -/
theorem merge_rest (model : String) (own : List Property) :
    ∀ (rest seen : List (String × Property)),
    (∀ j < seen.length, ∀ q first, ¬ ConflictAt own (seen ++ rest) j q first) →
    ((∀ j q first, ¬ ConflictAt own (seen ++ rest) j q first) ∧
      rest.foldlM (includeProperty model) (own ++ takenOver own seen) =
        .ok (own ++ takenOver own (seen ++ rest))) ∨
    ∃ q first, FirstConflict own (seen ++ rest) q first ∧
      rest.foldlM (includeProperty model) (own ++ takenOver own seen) =
        .error (.propertyTypeConflict model q.2.name first.rawType q.2.rawType)
  | [], seen, hseen => by
    refine .inl ⟨fun j q first hconflict => ?_, by rw [List.append_nil]; rfl⟩
    obtain ⟨hj, _⟩ := List.getElem?_eq_some_iff.mp hconflict.place
    rw [List.append_nil] at hj
    exact hseen j hj q first hconflict
  | q :: rest, seen, hseen => by
    have hmoved : seen ++ q :: rest = seen ++ [q] ++ rest := by simp
    have hnext (hhere : ∀ first, (own ++ seen.map (·.2)).find? (·.name = q.2.name) = some first →
        first.dataType = q.2.dataType) :
        ∀ j < (seen ++ [q]).length, ∀ q' first,
          ¬ ConflictAt own (seen ++ [q] ++ rest) j q' first := by
      intro j hj q' first
      rw [List.length_append, List.length_singleton] at hj
      rw [← hmoved]
      rcases Nat.lt_or_eq_of_le (Nat.le_of_lt_succ hj) with hj | rfl
      · exact hseen j hj q' first
      · exact not_conflictAt_length hhere q' first
    rw [List.foldlM_cons, hmoved]
    cases hfind : (own ++ seen.map (·.2)).find? (·.name = q.2.name) with
    | none =>
      rw [includeProperty_of_new model hfind]
      exact merge_rest model own rest (seen ++ [q]) (hnext fun first h => by simp [hfind] at h)
    | some first =>
      rw [includeProperty_of_earlier model hfind]
      by_cases htype : first.dataType = q.2.dataType
      · rw [if_pos htype]
        refine merge_rest model own rest (seen ++ [q]) (hnext fun first' h => ?_)
        cases hfind.symm.trans h
        exact htype
      · rw [if_neg htype, ← hmoved]
        refine .inr ⟨q, first, ⟨seen.length, ⟨?_, ?_, htype⟩, hseen⟩, rfl⟩
        · rw [List.getElem?_append_right (Nat.le_refl _), Nat.sub_self, List.getElem?_cons_zero]
        · rw [earlier_append (Nat.le_refl _), earlier_length, hfind]

theorem merge_cases (model : String) (own : List Property) (offered : List (String × Property)) :
    ((∀ j q first, ¬ ConflictAt own offered j q first) ∧
      offered.foldlM (includeProperty model) own = .ok (own ++ takenOver own offered)) ∨
    ∃ q first, FirstConflict own offered q first ∧
      offered.foldlM (includeProperty model) own =
        .error (.propertyTypeConflict model q.2.name first.rawType q.2.rawType) := by
  have hmerge := merge_rest model own offered [] (by simp)
  rwa [takenOver_nil, List.append_nil, List.nil_append] at hmerge

/-- There is only one first conflict. -/
theorem FirstConflict.unique {q q' : String × Property} {first first' : Property}
    (h : FirstConflict own offered q first) (h' : FirstConflict own offered q' first') :
    q = q' ∧ first = first' := by
  obtain ⟨i, hi, hbefore⟩ := h
  obtain ⟨j, hj, hbefore'⟩ := h'
  have hij : i = j := by
    rcases Nat.lt_trichotomy i j with hlt | heq | hlt
    · exact absurd hi (hbefore' i hlt q first)
    · exact heq
    · exact absurd hj (hbefore j hlt q' first')
  subst hij
  obtain rfl : q = q' := Option.some.inj (hi.place.symm.trans hj.place)
  exact ⟨rfl, Option.some.inj (hi.found.symm.trans hj.found)⟩

theorem merge_eq_ok {model : String} {properties : List Property} :
    offered.foldlM (includeProperty model) own = .ok properties ↔
      (∀ j q first, ¬ ConflictAt own offered j q first) ∧
        properties = own ++ takenOver own offered := by
  rcases merge_cases model own offered with ⟨hnone, hok⟩ | ⟨q, first, ⟨i, hi, _⟩, herror⟩
  · rw [hok, Except.ok.injEq, eq_comm]
    exact ⟨fun h => ⟨hnone, h⟩, fun h => h.2⟩
  · rw [herror]
    exact ⟨nofun, fun h => absurd hi (h.1 i q first)⟩

theorem merge_eq_error {model : String} {e : Error} :
    offered.foldlM (includeProperty model) own = .error e ↔
      ∃ q first, FirstConflict own offered q first ∧
        e = .propertyTypeConflict model q.2.name first.rawType q.2.rawType := by
  rcases merge_cases model own offered with ⟨hnone, hok⟩ | ⟨q, first, hconflict, herror⟩
  · rw [hok]
    refine ⟨nofun, ?_⟩
    rintro ⟨q, first, ⟨i, hi, _⟩, _⟩
    exact absurd hi (hnone i q first)
  · rw [herror, Except.error.injEq]
    refine ⟨fun h => ⟨q, first, hconflict, h.symm⟩, ?_⟩
    rintro ⟨q', first', hconflict', rfl⟩
    obtain ⟨rfl, rfl⟩ := hconflict.unique hconflict'
    rfl

/-- Without conflicts, an offered property has the type of the first property of its name. -/
theorem exists_first_of_no_conflict (h : ∀ i q first, ¬ ConflictAt own offered i q first)
    {q : String × Property} (hq : q ∈ offered) :
    ∃ first, (own ++ offered.map (·.2)).find? (·.name = q.2.name) = some first ∧
      first.dataType = q.2.dataType := by
  obtain ⟨i, hi⟩ := List.mem_iff_getElem?.mp hq
  have hsplit : own ++ offered.map (·.2) = earlier own offered i ++ (offered.drop i).map (·.2) := by
    rw [earlier, List.append_assoc, ← List.map_append, List.take_append_drop]
  rw [hsplit, List.find?_append]
  cases hfind : (earlier own offered i).find? (·.name = q.2.name) with
  | some first =>
    refine ⟨first, rfl, ?_⟩
    by_contra htypes
    exact h i q first ⟨hi, hfind, htypes⟩
  | none =>
    -- no earlier property has its name, so that it is the first one itself
    obtain ⟨hlt, hget⟩ := List.getElem?_eq_some_iff.mp hi
    rw [List.drop_eq_getElem_cons hlt, hget]
    exact ⟨q.2, by simp, rfl⟩

/-- Every offered property is there after merging, under its name and with its type. -/
theorem exists_merged_of_no_conflict (h : ∀ i q first, ¬ ConflictAt own offered i q first)
    {q : String × Property} (hq : q ∈ offered) :
    ∃ p ∈ own ++ takenOver own offered, p.name = q.2.name ∧ p.dataType = q.2.dataType := by
  obtain ⟨first, hfirst, htype⟩ := exists_first_of_no_conflict h hq
  have hfind := find?_takenOver own offered q.2.name
  rw [hfirst, Option.map_some, Option.map_eq_some_iff] at hfind
  obtain ⟨p, hp, htyping⟩ := hfind
  have hname : p.name = q.2.name := by simpa using List.find?_some hp
  exact ⟨p, List.mem_of_find?_eq_some hp, hname, (congrArg Prod.snd htyping).trans htype⟩

/-! ### Models -/

/-- What a model is put together from before its contracts are merged: its own properties and
methods with their types, and the contracts that it names. -/
structure Model.Parts (known : KnownNames) (contracts : List Contract) (m : Document.Model)
    (own : List Property) (methods : List Method) (included : List Contract) : Prop where
  own : m.properties.mapM (Property.build known) = .ok own
  methods : m.methods.mapM (Method.build known) = .ok methods
  included : includedContracts contracts m.name m.contracts = .ok included

variable {known : KnownNames} {contracts included : List Contract} {m : Document.Model}
  {methods : List Method}

/-- Once the parts are there, only merging can fail. -/
theorem Model.Parts.build_eq (h : Model.Parts known contracts m own methods included) :
    Model.build known contracts m = (do
      let properties ← (contractProperties included).foldlM (includeProperty m.name) own
      return ⟨m.name, m.isAbstract, m.baseModel, properties, methods, m.contracts,
        m.extensions⟩) := by
  rw [Model.build, h.own, h.methods, h.included]
  rfl

theorem Model.Parts.contract_eq_none (h : Model.Parts known contracts m own methods included) :
    ∀ p ∈ own, p.contract = none := by
  intro p hp
  obtain ⟨raw, _, hraw⟩ := exists_of_mem_mapM h.own hp
  obtain ⟨t, _, rfl⟩ := Property.build_eq_ok.mp hraw
  rfl

/-- A model can be built iff its parts are there and its contracts offer no conflict. -/
theorem Model.build_eq_ok_iff {built : Model} :
    Model.build known contracts m = .ok built ↔
      ∃ own methods included, Model.Parts known contracts m own methods included ∧
        (∀ i q first, ¬ ConflictAt own (contractProperties included) i q first) ∧
        built = ⟨m.name, m.isAbstract, m.baseModel,
          own ++ takenOver own (contractProperties included), methods, m.contracts,
          m.extensions⟩ := by
  rw [Model.build_eq_ok]
  constructor
  · rintro ⟨own, methods, included, properties, hown, hmethods, hincluded, hmerge, rfl⟩
    obtain ⟨hnone, rfl⟩ := merge_eq_ok.mp hmerge
    exact ⟨own, methods, included, ⟨hown, hmethods, hincluded⟩, hnone, rfl⟩
  · rintro ⟨own, methods, included, ⟨hown, hmethods, hincluded⟩, hnone, rfl⟩
    exact ⟨own, methods, included, _, hown, hmethods, hincluded, merge_eq_ok.mpr ⟨hnone, rfl⟩, rfl⟩

/-- A property is an own one of a model, or was taken over from one of its contracts. -/
def Property.ComesFrom (included : List Contract) (p : Property) : Prop :=
  p.contract = none ∨ ∃ c ∈ included, ∃ q ∈ c.properties, p = takeOver (c.name, q)

/-- What merging has made of a model of a definition that could be built. -/
theorem exists_included_of_build {name : String} {doc : Document} {options : Fields} {d : Definition}
    (h : build name doc options = .ok d) {m : Model} (hm : m ∈ d.models) :
    ∃ included, d.modelContracts m = .ok included ∧
      (∀ p ∈ m.properties, p.ComesFrom included) ∧
      ∀ c ∈ included, ∀ q ∈ c.properties,
        ∃ p ∈ m.properties, p.name = q.name ∧ p.dataType = q.dataType := by
  obtain ⟨contracts, models, services, _, hmodels, _, _, rfl⟩ := build_eq_ok.mp h
  obtain ⟨raw, _, hraw⟩ := exists_of_mem_mapM hmodels hm
  obtain ⟨own, methods, included, hparts, hnone, rfl⟩ := Model.build_eq_ok_iff.mp hraw
  refine ⟨included, hparts.included, fun p hp => ?_, fun c hc q hq => ?_⟩
  · rcases List.mem_append.mp hp with hp | hp
    · exact .inl (hparts.contract_eq_none p hp)
    · obtain ⟨_, ⟨contract, q⟩, hq, rfl⟩ := exists_of_mem_takenOver hp
      obtain ⟨c, hc, hname, hmem⟩ := mem_contractProperties.mp hq
      cases hname
      exact .inr ⟨c, hc, q, hmem, rfl⟩
  · have hoffered : (c.name, q) ∈ contractProperties included :=
      mem_contractProperties.mpr ⟨c, hc, rfl, hq⟩
    exact exists_merged_of_no_conflict hnone hoffered

/-- The properties of a model are its own ones, none of which has a contract, and behind them those
properties of its contracts whose name does not occur before them, each with its contract. If
merging fails, then the error is about the first property of a contract whose type differs from that
of the first property of its name before it, and it tells the texts of these two types. -/
theorem merge_keeps_first (known : KnownNames) (contracts : List Contract) (m : Document.Model) :
    (∀ built, Model.build known contracts m = .ok built →
      ∃ own methods included, Model.Parts known contracts m own methods included ∧
        (∀ p ∈ own, p.contract = none) ∧
        built.properties = own ++ takenOver own (contractProperties included)) ∧
    ∀ own methods included, Model.Parts known contracts m own methods included →
      ∀ e, Model.build known contracts m = .error e ↔
        ∃ q first, FirstConflict own (contractProperties included) q first ∧
          e = .propertyTypeConflict m.name q.2.name first.rawType q.2.rawType := by
  constructor
  · intro built hbuilt
    obtain ⟨own, methods, included, hparts, _, rfl⟩ := Model.build_eq_ok_iff.mp hbuilt
    exact ⟨own, methods, included, hparts, hparts.contract_eq_none, rfl⟩
  · intro own methods included hparts e
    rw [← merge_eq_error, hparts.build_eq, bind_eq_error]
    exact ⟨fun h => h.resolve_right nofun, .inl⟩

/-- Contracts that offer some names more than once, `weight` with two types. -/
def cargo : List Contract :=
  [⟨"Sized", [⟨"width", "int", .primitive .integer false, none, []⟩,
     ⟨"width", "integer", .primitive .integer false, none, []⟩], []⟩,
   ⟨"Heavy", [⟨"weight", "double", .primitive .double false, none, []⟩,
     ⟨"width", "INT", .primitive .integer false, none, []⟩], []⟩,
   ⟨"Light", [⟨"weight", "float", .primitive .float false, none, []⟩], []⟩]

/-- A model with two own properties of one name. -/
def parcel (names : List String) : Document.Model where
  name := "Parcel"
  properties := [{ name := "label", type := "string" }, { name := "label", type := "any" }]
  contracts := names

theorem merge_keeps_first_parcel :
    (∃ built own included, Model.build ⟨[], []⟩ cargo (parcel ["Heavy", "Sized", "Heavy"]) =
        .ok built ∧ built.properties = own ++ takenOver own (contractProperties included) ∧
      built.properties.map (fun p => (p.name, p.rawType, p.contract)) =
        [("label", "string", none), ("label", "any", none), ("weight", "double", some "Heavy"),
         ("width", "INT", some "Heavy")]) ∧
    ∃ own methods included q first,
      Model.Parts ⟨[], []⟩ cargo (parcel ["Heavy", "Light", "Sized"]) own methods included ∧
      FirstConflict own (contractProperties included) q first ∧
      (q.2.name, first.rawType, q.2.rawType) = ("weight", "double", "float") := by
  constructor
  · have hproperties :
        (Model.build ⟨[], []⟩ cargo (parcel ["Heavy", "Sized", "Heavy"])).toOption.map
          (fun built => built.properties.map fun p => (p.name, p.rawType, p.contract)) =
        some [("label", "string", none), ("label", "any", none), ("weight", "double", some "Heavy"),
          ("width", "INT", some "Heavy")] := by decide +kernel
    obtain ⟨built, hbuilt, hproperties⟩ := Option.map_eq_some_iff.mp hproperties
    obtain ⟨own, _, included, _, _, hmerged⟩ :=
      (merge_keeps_first _ _ _).1 built (toOption_eq_some.mp hbuilt)
    exact ⟨built, own, included, toOption_eq_some.mp hbuilt, hmerged, hproperties⟩
  · have hfault : fault? (Model.build ⟨[], []⟩ cargo (parcel ["Heavy", "Light", "Sized"])) =
        some (.propertyTypeConflict "Parcel" "weight" "double" "float") := by decide +kernel
    obtain ⟨own, hown⟩ : ∃ own, (parcel ["Heavy", "Light", "Sized"]).properties.mapM
        (Property.build ⟨[], []⟩) = .ok own := fault?_eq_none.mp (by decide +kernel)
    obtain ⟨included, hincluded⟩ : ∃ included, includedContracts cargo "Parcel"
        ["Heavy", "Light", "Sized"] = .ok included := fault?_eq_none.mp (by decide +kernel)
    have hparts : Model.Parts ⟨[], []⟩ cargo (parcel ["Heavy", "Light", "Sized"]) own [] included :=
      ⟨hown, rfl, hincluded⟩
    obtain ⟨q, first, hconflict, herror⟩ :=
      ((merge_keeps_first _ _ _).2 _ _ _ hparts _).mp (fault?_eq_some.mp hfault)
    injection herror with _ hname hfirst hraw
    exact ⟨own, [], included, q, first, hparts, hconflict, by rw [← hname, ← hfirst, ← hraw]⟩

end Stencil.Definition
