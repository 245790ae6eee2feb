import SemanticLayer.Proofs.Compilation
import SemanticLayer.Proofs.Scope

/-!
# What the tables of a model stand for in a compiled query

A compiled query puts the items of its models in front of its own, and an item may name a table that
another item has the name of. `captured` says what becomes of such a name in the item of a model,
from the query and the registry alone. In a plain WITH clause it is taken by the last model of the
name, of those that the query reads and that were registered before. In a recursive clause every
model that the query reads may take it, and the items of the query itself come first. Names are
never changed to avoid this.

`same_readings_iff` compares two compiled queries: they hold the same statement for a model, and its
tables stand for the same in both exactly if `captured` agrees on the names that are free in it. So
nothing is captured by plain queries if no model that was registered earlier has such a name. Where
one has, the tables of a model do depend on what else the query reads (`read_model_captures_table`).
-/

namespace SemanticLayer

open Sql (Node)
open Query (tableNames allTableNames items itemName? isRecursive Extended Reading lookup partScope
  reads freeNames resolve itemReads)

namespace Compiler

/-- The models that were registered before a model. -/
def registeredBefore (c : Compiler) (m : SemanticModel) : List SemanticModel :=
  c.registry.models.takeWhile fun other => other.name != m.name

/-- The models whose items are in sight in the item of a model: those that the query reads, and of
them only the ones registered before the model if the query is not recursive. -/
def modelsInSight (c : Compiler) (m : SemanticModel) (query : Node) : List SemanticModel :=
  (if isRecursive query then c.registry.models else c.registeredBefore m).filter fun other =>
    decide (other.name ∈ tableNames query)

/-- The WITH item that takes a name which is free in the statement of a model, in the compiled
query; none if the name is left to the database. -/
def captured (same : String → String → Bool) (c : Compiler) (m : SemanticModel) (query : Node)
    (name : String) : Option Node :=
  let ofQuery := if isRecursive query then lookup same (items query).reverse name else none
  let ofModels := (c.modelsInSight m query).reverse.find? fun other => same name other.name
  ofQuery.or (ofModels.bind fun other => (c.modelItem other).toOption)

/-- What the tables in the item of the model `m`, which holds `body`, stand for in the compiled
query `written`. -/
structure ReadsAs (same : String → String → Bool) (c : Compiler) (m : SemanticModel)
    (query written body : Node) (readings : List Reading) : Prop where
  /-- These are the readings in the first item with the name of the model. -/
  found : itemReads same written m.name = some readings
  /-- There is one for each unqualified table of the statement. -/
  tables : readings.map Prod.fst = allTableNames body
  /-- A table that an item inside the statement does not take is captured or left to the
  database. -/
  resolved : readings = (reads same [] body).map (resolve (c.captured same m query))

variable {same : String → String → Bool} {c : Compiler} {m : SemanticModel}

/-! ## The items around the item of a model -/

/-- The item of a model is determined by it. -/
theorem IsItemOf.unique {i j : Node} (hi : c.IsItemOf m i) (hj : c.IsItemOf m j) : i = j :=
  Except.ok.inj ((modelItem_eq_ok_iff.2 hi).symm.trans (modelItem_eq_ok_iff.2 hj))

/-- A name is looked up among the items of models by looking for a model of the name. -/
theorem lookup_items {ms : List SemanticModel} {new : List Node}
    (h : List.Forall₂ c.IsItemOf ms new) (name : String) :
    lookup same new name =
      (ms.find? fun other => same name other.name).bind fun other =>
        (c.modelItem other).toOption := by
  induction h with
  | nil => rfl
  | @cons other i _ _ hitem _ ih =>
    have hname : itemName? i = some other.name := by
      obtain ⟨_, _, -, -, rfl⟩ := hitem
      rfl
    rw [lookup] at ih ⊢
    rw [List.find?_cons, List.find?_cons, hname, Option.any_some]
    cases same name other.name with
    | true => exact (congrArg Except.toOption (modelItem_eq_ok_iff.2 hitem)).symm
    | false => exact ih

/-- The registry lists the models registered before a model, and then the model. -/
theorem models_eq_append (hm : m ∈ c.registry.models) :
    ∃ later, c.registry.models = c.registeredBefore m ++ m :: later ∧
      m.name ∉ (c.registeredBefore m).map SemanticModel.name := by
  obtain ⟨earlier, later, hmodels⟩ := List.append_of_mem hm
  have hnot : m.name ∉ earlier.map SemanticModel.name := by
    have hdistinct := c.registry.distinct
    rw [hmodels, List.map_append, List.map_cons, List.nodup_append] at hdistinct
    exact fun hmem => hdistinct.2.2 _ hmem _ List.mem_cons_self rfl
  have hbefore : c.registeredBefore m = earlier := by
    have hearlier : ∀ other ∈ earlier, (other.name != m.name) = true := fun other hother =>
      bne_iff_ne.2 fun heq => hnot (heq ▸ List.mem_map_of_mem hother)
    rw [registeredBefore, hmodels, List.takeWhile_append_of_pos hearlier,
      List.takeWhile_cons_of_neg (by simp), List.append_nil]
  rw [hbefore]
  exact ⟨later, hmodels, hnot⟩

/-- The items of the models that a query reads, around the item of one of them. -/
theorem items_around (hm : m ∈ c.registry.models) {query : Node} (hread : m.name ∈ tableNames query)
    {new : List Node}
    (hnew : List.Forall₂ c.IsItemOf (c.registry.resolveOrdered (tableNames query)) new) :
    ∃ before i after, new = before ++ i :: after ∧ c.IsItemOf m i ∧
      (∀ j ∈ before, itemName? j ≠ some m.name) ∧
      List.Forall₂ c.IsItemOf
        ((c.registeredBefore m).filter fun other => decide (other.name ∈ tableNames query))
        before := by
  obtain ⟨later, hmodels, hnot⟩ := models_eq_append hm
  rw [Registry.resolveOrdered_eq_filter, hmodels, List.filter_append,
    List.filter_cons_of_pos (by simpa using hread)] at hnew
  have hbefore := (List.forall₂_take_append _ _ _ hnew.flip).flip
  have hrest := (List.forall₂_drop_append _ _ _ hnew.flip).flip
  obtain ⟨i, after, hitem, -, hdrop⟩ := List.forall₂_cons_left_iff.1 hrest
  refine ⟨_, i, after, ?_, hitem, fun j hj hname => hnot ?_, hbefore⟩
  · rw [← hdrop, List.take_append_drop]
  have hmem := List.mem_filterMap.2 ⟨j, hj, hname⟩
  rw [itemNames_of_isItemOf hbefore] at hmem
  exact (List.filter_sublist.map SemanticModel.name).subset hmem

/-- What a name stands for among the items in sight in the item of a model. -/
theorem lookup_in_sight {query : Node} {before new : List Node}
    (hnew : List.Forall₂ c.IsItemOf (c.registry.resolveOrdered (tableNames query)) new)
    (hbefore : List.Forall₂ c.IsItemOf
      ((c.registeredBefore m).filter fun other => decide (other.name ∈ tableNames query)) before)
    (name : String) :
    lookup same (if isRecursive query then (items query).reverse ++ new.reverse
      else before.reverse) name = c.captured same m query name := by
  unfold captured modelsInSight
  cases isRecursive query with
  | true =>
    rw [Registry.resolveOrdered_eq_filter] at hnew
    have hmodels : lookup same new.reverse name = _ := lookup_items (List.rel_reverse hnew) name
    exact (Query.lookup_append _ _ _).trans (congrArg _ hmodels)
  | false => exact lookup_items (List.rel_reverse hbefore) name

/-- What the tables in the item of a model stand for in a compiled query that reads it. -/
theorem readsAs_of_extend (same : String → String → Bool) (hm : m ∈ c.registry.models)
    {query written : Node} (hread : m.name ∈ tableNames query)
    (h : c.extend query = .ok written) :
    ∃ body readings, c.IsItemOf m (Query.item m.name body) ∧
      ReadsAs same c m query written body readings := by
  obtain ⟨-, new, hnew, hext⟩ := extend_eq_ok_iff.1 h
  obtain ⟨before, i, after, rfl, hitem, hother, hbefore⟩ := items_around hm hread hnew
  have hitem' := hitem
  obtain ⟨_, body, -, -, rfl⟩ := hitem'
  have hreads : itemReads same written m.name = _ :=
    Query.itemReads_of_extended hext rfl hother
  rw [Query.reads_item] at hreads
  refine ⟨body, _, hitem, hreads, Query.map_fst_reads _ body, ?_⟩
  rw [Query.reads_eq_map]
  exact congrArg (fun f => (reads same [] body).map (resolve f))
    (funext (lookup_in_sight hnew hbefore))

/-- Nothing is captured by a plain query if no model registered earlier has the name. -/
theorem captured_eq_none {query : Node} {name : String} (hplain : isRecursive query = false)
    (hnone : ∀ other ∈ c.registeredBefore m, same name other.name = false) :
    c.captured same m query name = none := by
  have hfind : (c.modelsInSight m query).reverse.find? (fun other => same name other.name) =
      none := by
    refine List.find?_eq_none.2 fun other hother => ?_
    rw [modelsInSight, hplain, List.mem_reverse, List.mem_filter] at hother
    exact Bool.not_eq_true _ ▸ hnone other hother.1
  rw [captured, hplain, hfind]
  rfl

/-! ## Two compiled queries -/

/-- Two compiled queries that read a model hold the same statement for it. The tables of the
statement stand for the same in both exactly if the same items capture its free names. Plain queries
capture none of them if no model that was registered earlier has such a name. -/
theorem same_readings_iff (same : String → String → Bool) {c : Compiler} {m : SemanticModel}
    {text₁ text₂ : String} {out₁ out₂ : Compiled} (hm : m ∈ c.registry.models)
    (h₁ : c.compile text₁ = .ok out₁) (h₂ : c.compile text₂ = .ok out₂) :
    ∃ query₁ written₁ query₂ written₂,
      (readQuery text₁ = .ok query₁ ∧ c.extend query₁ = .ok written₁ ∧
        out₁.sql = c.dialect.render c.overrides written₁) ∧
      (readQuery text₂ = .ok query₂ ∧ c.extend query₂ = .ok written₂ ∧
        out₂.sql = c.dialect.render c.overrides written₂) ∧
      (m.name ∈ tableNames query₁ → m.name ∈ tableNames query₂ →
        ∃ body readings₁ readings₂, c.IsItemOf m (Query.item m.name body) ∧
          ReadsAs same c m query₁ written₁ body readings₁ ∧
          ReadsAs same c m query₂ written₂ body readings₂ ∧
          (readings₁ = readings₂ ↔ ∀ name ∈ freeNames same body,
            c.captured same m query₁ name = c.captured same m query₂ name) ∧
          (isRecursive query₁ = false → isRecursive query₂ = false →
            (∀ name ∈ freeNames same body, ∀ other ∈ c.registeredBefore m,
              same name other.name = false) →
            readings₁ = readings₂ ∧ ∀ name ∈ freeNames same body, (name, none) ∈ readings₁)) := by
  obtain ⟨query₁, written₁, hquery₁, hext₁, rfl⟩ := compile_eq_ok_iff.1 h₁
  obtain ⟨query₂, written₂, hquery₂, hext₂, rfl⟩ := compile_eq_ok_iff.1 h₂
  refine ⟨query₁, written₁, query₂, written₂, ⟨hquery₁, hext₁, rfl⟩, ⟨hquery₂, hext₂, rfl⟩, ?_⟩
  intro hread₁ hread₂
  obtain ⟨body, readings₁, hitem, hreads₁⟩ := readsAs_of_extend same hm hread₁ hext₁
  obtain ⟨body₂, readings₂, hitem₂, hreads₂⟩ := readsAs_of_extend same hm hread₂ hext₂
  -- The item of a model does not depend on the query.
  obtain rfl : body = body₂ := List.singleton_inj.1 (congrArg Node.parts (hitem.unique hitem₂))
  have hiff : readings₁ = readings₂ ↔ ∀ name ∈ freeNames same body,
      c.captured same m query₁ name = c.captured same m query₂ name := by
    rw [hreads₁.resolved, hreads₂.resolved]
    exact Query.map_resolve_eq_iff
  refine ⟨body, readings₁, readings₂, hitem, hreads₁, hreads₂, hiff, ?_⟩
  intro hplain₁ hplain₂ hnone
  constructor
  · refine hiff.2 fun name hname => ?_
    rw [captured_eq_none hplain₁ (hnone name hname), captured_eq_none hplain₂ (hnone name hname)]
  · intro name hname
    have hleft : resolve (c.captured same m query₁) (name, none) = (name, none) :=
      congrArg (Prod.mk name) (captured_eq_none hplain₁ (hnone name hname))
    rw [hreads₁.resolved, ← hleft]
    exact List.mem_map_of_mem (Query.mem_freeNames.1 hname)

/-- The raw figures of a data mart. -/
def rawFigures : SemanticModel := { name := "raw", select := "SELECT 1 AS x" }

/-- The margins of a data mart, from a table that has the name of the other model. -/
def margins : SemanticModel := { name := "margin", select := "SELECT * FROM raw" }

/-- A data mart in which the raw figures are registered before the margins. -/
def mart : Compiler where
  registry := ⟨[rawFigures, margins], by decide⟩
  dialect := .duckdb

/-- A query that reads the margins alone. -/
def marginQuery : String := "SELECT * FROM margin"

/-- A query that reads the margins and the raw figures. -/
def marginAndRawQuery : String := "SELECT * FROM margin, raw"

/-- The tables in an item of a compiled query with the names of the items that they stand for, if
only equal names are the same. -/
def readNames (written : Node) (name : String) : Option (List (String × Option String)) :=
  (itemReads (· == ·) written name).map (List.map fun r => (r.1, r.2.bind itemName?))

/-- What the item of the margins reads in the query that is written for a text, if the walk over the
text gets to the margins. -/
def marginReads (text : String) : Option (List (String × Option String)) :=
  (readQuery text).toOption.bind fun query => (mart.extend query).toOption.bind fun written =>
    if "margin" ∈ tableNames query then readNames written "margin" else none

theorem exists_of_marginReads {text : String} {names : List (String × Option String)}
    (h : marginReads text = some names) :
    ∃ query written, readQuery text = .ok query ∧ mart.extend query = .ok written ∧
      "margin" ∈ tableNames query ∧ readNames written "margin" = some names := by
  obtain ⟨query, hquery, h⟩ := Option.bind_eq_some_iff.1 h
  obtain ⟨written, hext, h⟩ := Option.bind_eq_some_iff.1 h
  split at h
  · next hread =>
    exact ⟨query, written, Outcome.eq_ok_of_toOption hquery, Outcome.eq_ok_of_toOption hext, hread,
      h⟩
  · nomatch h

/-- The table of the margins is left to the database in the first query, and stands for the raw
figures in the second one. -/
theorem readNames_mart :
    ∃ query₁ written₁ query₂ written₂,
      (readQuery marginQuery = .ok query₁ ∧ mart.extend query₁ = .ok written₁ ∧
        "margin" ∈ tableNames query₁ ∧ readNames written₁ "margin" = some [("raw", none)]) ∧
      (readQuery marginAndRawQuery = .ok query₂ ∧ mart.extend query₂ = .ok written₂ ∧
        "margin" ∈ tableNames query₂ ∧
        readNames written₂ "margin" = some [("raw", some "raw")]) ∧
      itemReads (· == ·) written₁ "margin" ≠ itemReads (· == ·) written₂ "margin" := by
  -- Both queries are evaluated in one go, since they share the readings of the two models.
  have hreads : [marginQuery, marginAndRawQuery].map marginReads =
      [some [("raw", none)], some [("raw", some "raw")]] := by decide +kernel
  obtain ⟨hreads₁, hreads⟩ := List.cons.inj hreads
  obtain ⟨query₁, written₁, hquery₁, hext₁, hread₁, hnames₁⟩ := exists_of_marginReads hreads₁
  obtain ⟨query₂, written₂, hquery₂, hext₂, hread₂, hnames₂⟩ :=
    exists_of_marginReads (List.cons.inj hreads).1
  refine ⟨query₁, written₁, query₂, written₂, ⟨hquery₁, hext₁, hread₁, hnames₁⟩,
    ⟨hquery₂, hext₂, hread₂, hnames₂⟩, fun hsame => ?_⟩
  rw [readNames, hsame] at hnames₁
  nomatch hnames₁.symm.trans hnames₂

/-- The two queries of the data mart capture a free name of the margins differently. -/
theorem same_readings_iff_mart :
    ∃ out₁ query₁ out₂ query₂, mart.compile marginQuery = .ok out₁ ∧
      readQuery marginQuery = .ok query₁ ∧ mart.compile marginAndRawQuery = .ok out₂ ∧
      readQuery marginAndRawQuery = .ok query₂ ∧
      ∃ body, mart.IsItemOf margins (Query.item "margin" body) ∧
        ¬ ∀ name ∈ freeNames (· == ·) body,
          mart.captured (· == ·) margins query₁ name =
            mart.captured (· == ·) margins query₂ name := by
  obtain ⟨q₁, w₁, q₂, w₂, ⟨hq₁, hw₁, hread₁, -⟩, ⟨hq₂, hw₂, hread₂, -⟩, hne⟩ := readNames_mart
  have hcompile₁ := compile_eq_ok_iff.2 ⟨q₁, w₁, hq₁, hw₁, rfl⟩
  have hcompile₂ := compile_eq_ok_iff.2 ⟨q₂, w₂, hq₂, hw₂, rfl⟩
  obtain ⟨query₁, written₁, query₂, written₂, ⟨hquery₁, hext₁, -⟩, ⟨hquery₂, hext₂, -⟩, hreads⟩ :=
    same_readings_iff (· == ·) (m := margins) (by simp [mart]) hcompile₁ hcompile₂
  obtain rfl := Except.ok.inj (hq₁.symm.trans hquery₁)
  obtain rfl := Except.ok.inj (hq₂.symm.trans hquery₂)
  obtain rfl := Except.ok.inj (hw₁.symm.trans hext₁)
  obtain rfl := Except.ok.inj (hw₂.symm.trans hext₂)
  obtain ⟨body, readings₁, readings₂, hitem, hreads₁, hreads₂, hiff, -⟩ := hreads hread₁ hread₂
  refine ⟨_, q₁, _, q₂, hcompile₁, hq₁, hcompile₂, hq₂, body, hitem, fun hall => hne ?_⟩
  calc itemReads (· == ·) w₁ "margin"
    _ = some readings₁ := hreads₁.found
    _ = some readings₂ := congrArg some (hiff.2 hall)
    _ = itemReads (· == ·) w₂ "margin" := hreads₂.found.symm

/-- What the margins read depends on whether the query reads the raw figures too. -/
theorem read_model_captures_table :
    Registry.build [.model rawFigures, .model margins] = .ok mart.registry ∧
      ∃ out₁ query₁ written₁ out₂ query₂ written₂,
        (mart.compile marginQuery = .ok out₁ ∧ readQuery marginQuery = .ok query₁ ∧
          mart.extend query₁ = .ok written₁ ∧
          out₁.sql = mart.dialect.render mart.overrides written₁ ∧
          "margin" ∈ tableNames query₁) ∧
        (mart.compile marginAndRawQuery = .ok out₂ ∧ readQuery marginAndRawQuery = .ok query₂ ∧
          mart.extend query₂ = .ok written₂ ∧
          out₂.sql = mart.dialect.render mart.overrides written₂ ∧
          "margin" ∈ tableNames query₂) ∧
        readNames written₁ "margin" = some [("raw", none)] ∧
        readNames written₂ "margin" = some [("raw", some "raw")] ∧
        itemReads (· == ·) written₁ "margin" ≠ itemReads (· == ·) written₂ "margin" := by
  have hraw : (Definition.model rawFigures).validate = .ok rawFigures :=
    Outcome.eq_ok_of_toOption (by decide +kernel)
  have hmargins : (Definition.model margins).validate = .ok margins :=
    Outcome.eq_ok_of_toOption (by decide +kernel)
  obtain ⟨query₁, written₁, query₂, written₂, ⟨hquery₁, hext₁, hread₁, hnames₁⟩,
    ⟨hquery₂, hext₂, hread₂, hnames₂⟩, hne⟩ := readNames_mart
  have hcompile₁ := compile_eq_ok_iff.2 ⟨query₁, written₁, hquery₁, hext₁, rfl⟩
  have hcompile₂ := compile_eq_ok_iff.2 ⟨query₂, written₂, hquery₂, hext₂, rfl⟩
  exact ⟨Registry.build_eq_ok_iff.2 (.cons hraw (.cons hmargins .nil)), _, query₁, written₁, _,
    query₂, written₂, ⟨hcompile₁, hquery₁, hext₁, rfl, hread₁⟩,
    ⟨hcompile₂, hquery₂, hext₂, rfl, hread₂⟩, hnames₁, hnames₂, hne⟩

end Compiler

end SemanticLayer
