import SemanticLayer.Proofs.Compilation

/-!
# Models that a query does not read

A compilation looks at the registry only through the models that the query reads: they are extended
(`extend_of_resolveOrdered_eq`) and compared with the items of the query
(`shadowed_of_resolveOrdered_eq`). So further models make no difference to it as long as the walk
over the query finds none of their names (`compile_ignores_unread_models`). It does not matter where
they are registered and whether their statements can be read. The whole answer stays the same: the
text and the shadowed items of a query that is compiled, and the cause of one that is not.
-/

namespace SemanticLayer.Compiler

open Sql (Node)
open Query (tableNames)

/-- The compiler with another registry. -/
def withRegistry (c : Compiler) (r : Registry) : Compiler := { c with registry := r }

variable {c : Compiler} {r : Registry}

/-- A registry gives the same items to a query if it has the same models for it. -/
theorem extend_of_resolveOrdered_eq {query : Node}
    (h : r.resolveOrdered (tableNames query) = c.registry.resolveOrdered (tableNames query)) :
    (c.withRegistry r).extend query = c.extend query := by
  have hmodels : (c.withRegistry r).modelsOf query = c.modelsOf query := by
    unfold modelsOf
    rw [← h]
    rfl
  unfold extend
  rw [hmodels]
  rfl

/-- A registry shadows the same items of a query if it has the same models for it. -/
theorem shadowed_of_resolveOrdered_eq {query : Node}
    (h : r.resolveOrdered (tableNames query) = c.registry.resolveOrdered (tableNames query)) :
    (c.withRegistry r).shadowed query = c.shadowed query := by
  unfold shadowed
  rw [← h]
  rfl

/-- A text is compiled alike if the registry has the same models for the query in it. -/
theorem compile_of_resolveOrdered_eq {text : String}
    (h : ∀ query, readQuery text = .ok query →
      r.resolveOrdered (tableNames query) = c.registry.resolveOrdered (tableNames query)) :
    (c.withRegistry r).compile text = c.compile text := by
  unfold compile
  refine Outcome.bind_congr_of_ok fun query hquery => ?_
  rw [extend_of_resolveOrdered_eq (h query hquery), shadowed_of_resolveOrdered_eq (h query hquery)]
  rfl

/-- Further models that a query does not name make no difference to its compilation. -/
theorem compile_ignores_unread_models {c : Compiler} {r : Registry} {text : String}
    (hsublist : c.registry.models.Sublist r.models)
    (hunread : ∀ query, Sql.parseOne .standard (stripTerminator text) = .ok query →
      ∀ m ∈ r.models, m ∉ c.registry.models → m.name ∉ tableNames query) :
    (c.withRegistry r).compile text = c.compile text ∧
      (c.withRegistry r).compileFormatted text = c.compileFormatted text := by
  have hcompile : (c.withRegistry r).compile text = c.compile text := by
    refine compile_of_resolveOrdered_eq fun query hquery => ?_
    have hparse := (readQuery_eq_ok_iff.1 hquery).1
    exact Registry.resolveOrdered_of_sublist hsublist (hunread query hparse)
  refine ⟨hcompile, ?_⟩
  unfold compileFormatted
  rw [hcompile]
  rfl

/-- A model whose statement ends within a text in quotes. -/
def unreadableModel : SemanticModel := { name := "broken", select := "SELECT 'x" }

/-- The compiler of a shop with the orders alone. -/
def ordersOnly : Compiler where
  registry := ⟨[shopOrders], by decide⟩
  dialect := .duckdb

/-- A registry with the orders between a model that cannot be read and another one. -/
def crowded : Registry := ⟨[unreadableModel, shopOrders, shopCustomers], by decide⟩

/-- A query of the orders is compiled to the same text among models that it does not read, one of
which cannot be compiled. -/
theorem compile_ignores_unreadable_model :
    Registry.build [.model shopOrders] = .ok ordersOnly.registry ∧
      Registry.build [.model unreadableModel, .model shopOrders, .model shopCustomers] =
        .ok crowded ∧
      (∃ e, ordersOnly.modelItem unreadableModel = .error e) ∧
      ∃ out, ordersOnly.compile "SELECT * FROM orders" = .ok out ∧
        (ordersOnly.withRegistry crowded).compile "SELECT * FROM orders" = .ok out := by
  have hunreadable : (Definition.model unreadableModel).validate = .ok unreadableModel :=
    Outcome.eq_ok_of_toOption (by decide +kernel)
  have hfails : ∃ e, ordersOnly.modelItem unreadableModel = .error e :=
    Outcome.exists_eq_error (by decide +kernel)
  obtain ⟨query, hquery, hnames⟩ := Outcome.exists_eq_ok_of_map (f := tableNames)
    (x := readQuery "SELECT * FROM orders") (b := ["orders"]) (by decide +kernel)
  have hitems : ∀ m ∈ ordersOnly.registry.models, ∃ item, ordersOnly.IsItemOf m item := by
    intro m hm
    obtain rfl := List.mem_singleton.1 hm
    exact exists_item_shop shopOrders List.mem_cons_self
  have hreads : ordersOnly.registry.resolveOrdered (tableNames query) ≠ [] := by
    rw [hnames]
    decide
  obtain ⟨written, hext⟩ := exists_extend hitems hreads
  have hcompile := compile_eq_ok_iff.2 ⟨query, written, hquery, hext, rfl⟩
  have hunread : ∀ n, Sql.parseOne .standard (stripTerminator "SELECT * FROM orders") = .ok n →
      ∀ m ∈ crowded.models, m ∉ ordersOnly.registry.models → m.name ∉ tableNames n := by
    intro n hparse m hm hnot
    obtain rfl : query = n := Except.ok.inj ((readQuery_eq_ok_iff.1 hquery).1.symm.trans hparse)
    rw [hnames]
    rcases List.mem_cons.1 hm with rfl | hm
    · decide
    rcases List.mem_cons.1 hm with rfl | hm
    · exact absurd List.mem_cons_self hnot
    · obtain rfl := List.mem_singleton.1 hm
      decide
  have hsublist : ordersOnly.registry.models.Sublist crowded.models :=
    .cons _ (.cons_cons _ (.cons _ .slnil))
  have hsame := (compile_ignores_unread_models hsublist hunread).1
  exact ⟨Registry.build_eq_ok_iff.2 (.cons validate_shopOrders .nil),
    Registry.build_eq_ok_iff.2
      (.cons hunreadable (.cons validate_shopOrders (.cons validate_shopCustomers .nil))),
    hfails, _, hcompile, hsame.trans hcompile⟩

end SemanticLayer.Compiler
