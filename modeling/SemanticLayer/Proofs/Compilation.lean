import Mathlib.Data.List.Forall2
import SemanticLayer.Compiler
import SemanticLayer.Proofs.Extension
import SemanticLayer.Proofs.Outcome
import SemanticLayer.Proofs.References
import SemanticLayer.Proofs.Registry

/-!
# What compilation makes of a query

`compile_eq_ok_iff` takes a compilation apart: the text is read as a query, the models that the walk
over the query finds are looked up in the order of the registry, each becomes a WITH item, and the
query with these items in front of its own is written. Two results rest on it:

* the query that is written is the query that was read with one item per model in front of its own
  WITH items, and nothing else changes (`compile_extends_query`);
* a model that the query names gets its item exactly if the walk gets to a place where it is named
  (`compile_lists_model_iff`). The walk does not go everywhere: a model that is named only in a
  limit is left without an item (`limit_hides_model`).
-/

namespace SemanticLayer

open Sql (Node)
open Query (tableNames allTableNames items itemNames itemName? isRecursive otherClauses Extended
  Occurs Reached)

namespace Compiler

/-- The WITH item `item` stands for the model `m`: it has the name of the model and holds what the
text that stands for the model is read as in the grammar of the dialect. -/
def IsItemOf (c : Compiler) (m : SemanticModel) (item : Node) : Prop :=
  ∃ sql body, c.view m = .ok sql ∧ Sql.parseOne c.dialect.grammar sql = .ok body ∧
    item = Query.item m.name body

/-- The WITH item of a model stands for it. -/
theorem modelItem_eq_ok_iff {c : Compiler} {m : SemanticModel} {item : Node} :
    c.modelItem m = .ok item ↔ c.IsItemOf m item := by
  rw [modelItem, Outcome.bind_eq_ok_iff, IsItemOf]
  refine exists_congr fun sql => ?_
  cases hparse : Sql.parseOne c.dialect.grammar sql with
  | error cause => exact ⟨nofun, nofun⟩
  | ok body =>
    constructor
    · rintro ⟨hview, hitem⟩
      exact ⟨body, hview, rfl, (Except.ok.inj hitem).symm⟩
    · rintro ⟨_, hview, hbody, rfl⟩
      exact ⟨hview, by rw [Except.ok.inj hbody]; rfl⟩

/-- The models that a query reads are those that the walk over it finds; there must be one. -/
theorem modelsOf_eq_ok_iff {c : Compiler} {query : Node} {ms : List SemanticModel} :
    c.modelsOf query = .ok ms ↔ ms = c.registry.resolveOrdered (tableNames query) ∧ ms ≠ [] := by
  rw [modelsOf]
  split
  · rename_i hnil
    exact ⟨nofun, fun ⟨hms, hne⟩ => absurd (hms.trans hnil) hne⟩
  · rename_i hne
    exact ⟨fun h => ⟨(Except.ok.inj h).symm, Except.ok.inj h ▸ hne⟩, fun h => congrArg _ h.1.symm⟩

/-- A query is extended by the items of the models that it reads. -/
theorem extend_eq_ok_iff {c : Compiler} {query extended : Node} :
    c.extend query = .ok extended ↔
      c.registry.resolveOrdered (tableNames query) ≠ [] ∧
        ∃ new, List.Forall₂ c.IsItemOf (c.registry.resolveOrdered (tableNames query)) new ∧
          Extended new query extended := by
  rw [extend, Outcome.bind_eq_ok_iff]
  constructor
  · rintro ⟨ms, hms, h⟩
    obtain ⟨rfl, hne⟩ := modelsOf_eq_ok_iff.1 hms
    obtain ⟨new, hnew, h⟩ := Outcome.bind_eq_ok_iff.1 h
    refine ⟨hne, new, ?_, Except.ok.inj h ▸ Query.prepend_extended new query⟩
    exact (Outcome.mapM_eq_ok_iff.1 hnew).imp fun _ _ => modelItem_eq_ok_iff.1
  · rintro ⟨hne, new, hnew, hext⟩
    refine ⟨_, modelsOf_eq_ok_iff.2 ⟨rfl, hne⟩, Outcome.bind_eq_ok_iff.2 ⟨new, ?_, ?_⟩⟩
    · exact Outcome.mapM_eq_ok_iff.2 (hnew.imp fun _ _ => modelItem_eq_ok_iff.2)
    · exact congrArg _ hext.eq_prepend.symm

/-- A text is read as a query if it is one statement of a shape that can be compiled. -/
theorem readQuery_eq_ok_iff {text : String} {query : Node} :
    readQuery text = .ok query ↔
      Sql.parseOne .standard (stripTerminator text) = .ok query ∧
        ∃ shape, Query.shape query = .ok shape := by
  unfold readQuery
  cases Sql.parseOne .standard (stripTerminator text) with
  | error cause => exact ⟨nofun, nofun⟩
  | ok n =>
    dsimp only
    cases hshape : Query.shape n with
    | error kind =>
      refine ⟨nofun, ?_⟩
      rintro ⟨hn, shape, hquery⟩
      rw [← Except.ok.inj hn, hshape] at hquery
      nomatch hquery
    | ok shape =>
      constructor
      · intro h
        obtain rfl := Except.ok.inj h
        exact ⟨rfl, shape, hshape⟩
      · rintro ⟨hn, -⟩
        exact congrArg _ (Except.ok.inj hn)

/-- A compilation succeeds if its steps do, and gives the text of the extended query. -/
theorem compile_eq_ok_iff {c : Compiler} {text : String} {out : Compiled} :
    c.compile text = .ok out ↔
      ∃ query extended, readQuery text = .ok query ∧ c.extend query = .ok extended ∧
        out = { sql := c.dialect.render c.overrides extended, shadowed := c.shadowed query } := by
  rw [compile, Outcome.bind_eq_ok_iff]
  refine exists_congr fun query => ?_
  rw [Outcome.bind_eq_ok_iff]
  constructor
  · rintro ⟨hquery, extended, hext, hout⟩
    exact ⟨extended, hquery, hext, (Except.ok.inj hout).symm⟩
  · rintro ⟨extended, hquery, hext, rfl⟩
    exact ⟨hquery, extended, hext, rfl⟩

/-- If every model of the registry has an item, a query that reads a model is extended. -/
theorem exists_extend {c : Compiler} {query : Node}
    (hitems : ∀ m ∈ c.registry.models, ∃ item, c.IsItemOf m item)
    (hreads : c.registry.resolveOrdered (tableNames query) ≠ []) :
    ∃ written, c.extend query = .ok written := by
  have hsome (ms : List SemanticModel) (hms : ∀ m ∈ ms, m ∈ c.registry.models) :
      ∃ new, List.Forall₂ c.IsItemOf ms new := by
    induction ms with
    | nil => exact ⟨[], .nil⟩
    | cons m ms ih =>
      obtain ⟨hm, hms⟩ := List.forall_mem_cons.1 hms
      obtain ⟨item, hitem⟩ := hitems m hm
      obtain ⟨new, hnew⟩ := ih hms
      exact ⟨item :: new, .cons hitem hnew⟩
  obtain ⟨new, hnew⟩ := hsome _ fun m hm => (Registry.mem_resolveOrdered.1 hm).1
  exact ⟨_, extend_eq_ok_iff.2 ⟨hreads, new, hnew, Query.prepend_extended new query⟩⟩

/-- The items of models have the names of the models. -/
theorem itemNames_of_isItemOf {c : Compiler} {ms : List SemanticModel} {new : List Node}
    (h : List.Forall₂ c.IsItemOf ms new) :
    new.filterMap itemName? = ms.map SemanticModel.name := by
  induction h with
  | nil => rfl
  | cons hitem _ ih =>
    obtain ⟨sql, body, -, -, rfl⟩ := hitem
    rw [List.filterMap_cons, Query.itemName?_item, List.map_cons, ih]

/-- The names of the WITH items of an extended query: those of the models that it reads, and those
of its own items. -/
theorem itemNames_of_extend {c : Compiler} {query extended : Node}
    (h : c.extend query = .ok extended) :
    itemNames extended =
      (c.registry.resolveOrdered (tableNames query)).map SemanticModel.name ++ itemNames query := by
  obtain ⟨-, new, hnew, hext⟩ := extend_eq_ok_iff.1 h
  rw [hext.itemNames_eq, itemNames_of_isItemOf hnew]

/-! ## The query that is written -/

/-- `written` is the query `query` with the WITH items `new` of the models that it reads in front
of its own, and differs from it in nothing else. -/
structure Rewrites (c : Compiler) (query written : Node) (new : List Node) : Prop where
  /-- Only the items of the top-level WITH clause change; without one there is a new plain one. -/
  extended : Extended new query written
  /-- The statement stays what it is. -/
  head : written.head = query.head
  /-- The comments of the statement stay. -/
  comments : written.comments = query.comments
  /-- Every clause and operand besides WITH stays, in its place. -/
  clauses : otherClauses written = otherClauses query
  /-- The WITH clause is recursive exactly if the query has one that is. -/
  recursive : isRecursive written = isRecursive query
  /-- The new items come first, then those of the query in their order. -/
  withItems : items written = new ++ items query
  /-- There is one new item for each model that the walk over the query finds, in the order of the
  registry. -/
  models : List.Forall₂ c.IsItemOf
    (c.registry.models.filter fun m => decide (m.name ∈ tableNames query)) new
  /-- The new items have the names of these models. -/
  names : new.filterMap itemName? =
    (c.registry.models.filter fun m => decide (m.name ∈ tableNames query)).map SemanticModel.name
  /-- No two new items have the same name. -/
  distinct : (new.filterMap itemName?).Nodup
  /-- There is a new item. -/
  nonempty : new ≠ []

/-- An extended query is rewritten in this sense. -/
theorem rewrites_of_extend {c : Compiler} {query written : Node}
    (h : c.extend query = .ok written) : ∃ new, c.Rewrites query written new := by
  obtain ⟨hne, new, hnew, hext⟩ := extend_eq_ok_iff.1 h
  have hmodels := c.registry.resolveOrdered_eq_filter (tableNames query)
  have hnames := itemNames_of_isItemOf hnew
  have hdistinct : (new.filterMap itemName?).Nodup := by
    rw [hnames]
    exact c.registry.nodup_resolveOrdered _
  have hnonempty : new ≠ [] := by
    rintro rfl
    exact hne (List.forall₂_nil_right_iff.1 hnew)
  rw [hmodels] at hnew hnames
  exact ⟨new, hext, hext.head_eq, hext.comments_eq, hext.otherClauses_eq, hext.isRecursive_eq,
    hext.items_eq, hnew, hnames, hdistinct, hnonempty⟩

def shopOrders : SemanticModel := { name := "orders", select := "SELECT 1" }

def shopCustomers : SemanticModel := { name := "customers", select := "SELECT 2" }

/-- The compiler of a shop with two models, for DuckDB. -/
def shop : Compiler where
  registry := ⟨[shopOrders, shopCustomers], by decide⟩
  dialect := .duckdb

theorem validate_shopOrders : (Definition.model shopOrders).validate = .ok shopOrders :=
  Outcome.eq_ok_of_toOption (by decide +kernel)

theorem validate_shopCustomers : (Definition.model shopCustomers).validate = .ok shopCustomers :=
  Outcome.eq_ok_of_toOption (by decide +kernel)

/-- The definitions of the two models make the registry of the shop. -/
theorem build_shop :
    Registry.build [.model shopOrders, .model shopCustomers] = .ok shop.registry :=
  Registry.build_eq_ok_iff.2 (.cons validate_shopOrders (.cons validate_shopCustomers .nil))

/-- Both models of the shop have an item. -/
theorem exists_item_shop : ∀ m ∈ [shopOrders, shopCustomers], ∃ item, shop.IsItemOf m item := by
  have hread : [shopOrders, shopCustomers].all (fun m => (shop.modelItem m).toOption.isSome) =
      true := by decide +kernel
  intro m hm
  obtain ⟨item, hitem⟩ := Outcome.exists_eq_ok (List.all_eq_true.1 hread m hm)
  exact ⟨item, modelItem_eq_ok_iff.1 hitem⟩

/-- A model of the registry has a WITH item in the query that is written exactly if the walk over
the query gets to its name or an item of the query has it. So no model that the query names is
without an item exactly if the walk gets to each such name, items of the query with it aside. -/
theorem compile_lists_model_iff {c : Compiler} {text : String} {out : Compiled}
    (hcompile : c.compile text = .ok out) :
    ∃ query written, readQuery text = .ok query ∧ c.extend query = .ok written ∧
      out.sql = c.dialect.render c.overrides written ∧
      (∀ name ∈ c.registry.names,
        name ∈ itemNames written ↔ Reached name query ∨ name ∈ itemNames query) ∧
      ((∀ name ∈ c.registry.names, Occurs name query → name ∈ itemNames written) ↔
        ∀ name ∈ c.registry.names, Occurs name query →
          Reached name query ∨ name ∈ itemNames query) := by
  obtain ⟨query, written, hquery, hext, rfl⟩ := compile_eq_ok_iff.1 hcompile
  have hlists : ∀ name ∈ c.registry.names,
      (name ∈ itemNames written ↔ Reached name query ∨ name ∈ itemNames query) := by
    intro name hname
    rw [itemNames_of_extend hext, List.mem_append, ← Query.mem_tableNames_iff]
    refine or_congr_left ?_
    constructor
    · intro hmem
      obtain ⟨m, hm, rfl⟩ := List.mem_map.1 hmem
      exact (Registry.mem_resolveOrdered.1 hm).2
    · intro hmem
      obtain ⟨m, hm, rfl⟩ := List.mem_map.1 hname
      exact List.mem_map_of_mem (Registry.mem_resolveOrdered.2 ⟨hm, hmem⟩)
  refine ⟨query, written, hquery, hext, rfl, hlists, ?_⟩
  exact forall₂_congr fun name hname => imp_congr_right fun _ => hlists name hname

/-- A query of the shop that names the customers only in its limit. -/
def limitQuery : String := "SELECT * FROM orders LIMIT (SELECT 1 FROM customers)"

/-- Both models occur in the query, and only the orders get an item. -/
theorem extend_limitQuery :
    ∃ query written, readQuery limitQuery = .ok query ∧ shop.extend query = .ok written ∧
      allTableNames query = ["orders", "customers"] ∧ itemNames written = ["orders"] := by
  obtain ⟨query, hquery, hlooks⟩ := Outcome.exists_eq_ok_of_map (x := readQuery limitQuery)
    (f := fun query => [tableNames query, allTableNames query, itemNames query])
    (b := [["orders"], ["orders", "customers"], []]) (by decide +kernel)
  obtain ⟨hreached, hlooks⟩ := List.cons.inj hlooks
  obtain ⟨hoccur, hlooks⟩ := List.cons.inj hlooks
  have hreads : shop.registry.resolveOrdered (tableNames query) ≠ [] := by
    rw [hreached]
    decide
  obtain ⟨written, hext⟩ := exists_extend (c := shop) exists_item_shop hreads
  refine ⟨query, written, hquery, hext, hoccur, ?_⟩
  rw [itemNames_of_extend hext, hreached, (List.cons.inj hlooks).1]
  decide

/-- Which models of the shop get an item in that query. -/
theorem compile_lists_model_limitQuery :
    ∃ out, shop.compile limitQuery = .ok out ∧
      ∃ query written, readQuery limitQuery = .ok query ∧ shop.extend query = .ok written ∧
        out.sql = shop.dialect.render shop.overrides written ∧
        (∀ name ∈ shop.registry.names,
          name ∈ itemNames written ↔ Reached name query ∨ name ∈ itemNames query) ∧
        ((∀ name ∈ shop.registry.names, Occurs name query → name ∈ itemNames written) ↔
          ∀ name ∈ shop.registry.names, Occurs name query →
            Reached name query ∨ name ∈ itemNames query) := by
  obtain ⟨query, written, hquery, hext, -⟩ := extend_limitQuery
  have hcompile := compile_eq_ok_iff.2 ⟨query, written, hquery, hext, rfl⟩
  exact ⟨_, hcompile, compile_lists_model_iff hcompile⟩

/-- The query is compiled, names the customers, and leaves them without an item. -/
theorem limit_hides_model :
    Registry.build [.model shopOrders, .model shopCustomers] = .ok shop.registry ∧
      ∃ out query written, shop.compile limitQuery = .ok out ∧ readQuery limitQuery = .ok query ∧
        shop.extend query = .ok written ∧ out.sql = shop.dialect.render shop.overrides written ∧
        "customers" ∈ shop.registry.names ∧ Occurs "customers" query ∧
        "customers" ∉ itemNames written := by
  obtain ⟨query, written, hquery, hext, hoccur, hitems⟩ := extend_limitQuery
  refine ⟨build_shop, _, query, written, compile_eq_ok_iff.2 ⟨query, written, hquery, hext, rfl⟩,
    hquery, hext, rfl, by decide, ?_, ?_⟩
  · rw [← Query.mem_allTableNames_iff, hoccur]
    decide
  · rw [hitems]
    decide

end Compiler

end SemanticLayer
