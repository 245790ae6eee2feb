import SemanticLayer.Proofs.Compilation

/-!
# Why a query is not compiled

`Refused` lists the reasons for which the compiler of a registry and a dialect refuses a text: the
text is no query, the query reads no model, or the WITH item of a model that it reads cannot be
made. In the last case the first such model in the order of the registry decides (`FirstFailure`).
`compile_eq_error_iff` shows that these are all reasons, and that each of them is one.

What can be wrong with a model is `Fails`. Its statement or the text of its view may be unreadable,
and these errors name the model. A time dimension without an expression is another matter: the
dialect refuses to cut it, and the compiler passes that error on as it is
(`blank_time_is_not_announced`).
-/

namespace SemanticLayer

open Sql (Node)
open Query (tableNames)

/-- A dimension that is to be cut to a granularity and has nothing to cut. -/
def Dimension.IsBlankTime (dim : Dimension) : Prop :=
  dim.kind = .time ∧ dim.granularity.isSome = true ∧ (Text.strip dim.sqlExpr).isEmpty = true

/-! ## Views that cannot be written -/

namespace View

variable {d : Dialect} {o : Sql.Overrides} {m : SemanticModel}

/-- The expression of a dimension fails if it is to be cut and blank. -/
theorem dimensionExpr_eq_error_iff {dim : Dimension} {e : ArgumentError} :
    dimensionExpr d dim = .error e ↔ dim.IsBlankTime ∧ e = .blankExpression := by
  unfold dimensionExpr Dimension.IsBlankTime
  split
  · rename_i g hkind hgranularity
    rw [Dialect.truncate, hkind, hgranularity]
    by_cases hblank : (Text.strip dim.sqlExpr).isEmpty = true
    · rw [if_pos hblank]
      exact ⟨fun h => ⟨⟨rfl, rfl, hblank⟩, (Except.error.inj h).symm⟩, fun h => h.2 ▸ rfl⟩
    · rw [if_neg hblank]
      exact ⟨nofun, fun h => absurd h.1.2.2 hblank⟩
  · rename_i hother
    refine ⟨nofun, ?_⟩
    rintro ⟨⟨hkind, hgranularity, -⟩, -⟩
    obtain ⟨g, hg⟩ := Option.isSome_iff_exists.1 hgranularity
    exact absurd hg (hother g hkind)

/-- The columns of a view fail if a dimension does. -/
theorem columns_eq_error_iff {e : ArgumentError} :
    columns d m = .error e ↔
      (∃ dim ∈ m.dimensions, dim.IsBlankTime) ∧ e = .blankExpression := by
  -- A column fails if its expression does.
  have hcolumn : ∀ (dim : Dimension) (e : ArgumentError),
      (do return (← dimensionExpr d dim, dim.name) : Except ArgumentError (String × String)) =
        .error e ↔ dim.IsBlankTime ∧ e = .blankExpression := by
    intro dim e
    rw [Outcome.bind_eq_error_iff, dimensionExpr_eq_error_iff]
    refine or_iff_left ?_
    rintro ⟨expr, -, h⟩
    nomatch h
  rw [columns, Outcome.bind_eq_error_iff, Outcome.mapM_eq_error_iff]
  constructor
  · rintro (⟨before, dim, after, hsplit, -, hdim⟩ | ⟨times, -, h⟩)
    · obtain ⟨hblank, rfl⟩ := (hcolumn dim e).1 hdim
      exact ⟨⟨dim, by simp [hsplit], hblank⟩, rfl⟩
    · nomatch h
  · rintro ⟨⟨dim, hmem, hblank⟩, rfl⟩
    -- Some column fails, and every failure is this one.
    obtain ⟨e, he⟩ := Outcome.exists_mapM_eq_error
      (f := fun dim => do return (← dimensionExpr d dim, dim.name)) hmem
      ((hcolumn dim _).2 ⟨hblank, rfl⟩)
    obtain ⟨before, dim', after, hsplit, hbefore, hdim'⟩ := Outcome.mapM_eq_error_iff.1 he
    obtain ⟨-, rfl⟩ := (hcolumn dim' e).1 hdim'
    exact .inl ⟨before, dim', after, hsplit, hbefore, hdim'⟩

/-- The statement behind a model fails if it cannot be read. -/
theorem innerSelect_eq_error_iff {e : CompileError} :
    innerSelect d o m = .error e ↔
      ∃ cause, Sql.parseOne d.grammar (Text.strip m.select) = .error cause ∧
        e = .badModel m.name cause := by
  unfold innerSelect
  cases Sql.parseOne d.grammar (Text.strip m.select) with
  | error cause =>
    constructor
    · intro h
      exact ⟨cause, rfl, (Except.error.inj h).symm⟩
    · rintro ⟨cause', hcause, rfl⟩
      rw [Except.error.inj hcause]
  | ok n => exact ⟨nofun, fun ⟨_, h, _⟩ => nomatch h⟩

/-- The statement behind a model is written if it can be read. -/
theorem innerSelect_eq_ok_iff {sql : String} :
    innerSelect d o m = .ok sql ↔
      ∃ n, Sql.parseOne d.grammar (Text.strip m.select) = .ok n ∧ sql = d.render o n := by
  unfold innerSelect
  cases Sql.parseOne d.grammar (Text.strip m.select) with
  | error cause => exact ⟨nofun, fun ⟨_, h, _⟩ => nomatch h⟩
  | ok n =>
    constructor
    · intro h
      exact ⟨n, rfl, (Except.ok.inj h).symm⟩
    · rintro ⟨n', hn, rfl⟩
      rw [Except.ok.inj hn]

/-- The view of a model fails if the statement behind it cannot be read, or can be read and a time
dimension has nothing to cut. -/
theorem text_eq_error_iff {e : CompileError} :
    text d o m = .error e ↔
      (∃ cause, Sql.parseOne d.grammar (Text.strip m.select) = .error cause ∧
        e = .badModel m.name cause) ∨
      (∃ n, Sql.parseOne d.grammar (Text.strip m.select) = .ok n) ∧
        (∃ dim ∈ m.dimensions, dim.IsBlankTime) ∧ e = .badArgument .blankExpression := by
  rw [text, Outcome.bind_eq_error_iff, innerSelect_eq_error_iff]
  refine or_congr_right ?_
  constructor
  · rintro ⟨inner, hinner, h⟩
    obtain ⟨n, hn, -⟩ := innerSelect_eq_ok_iff.1 hinner
    split at h
    · rcases Outcome.bind_eq_error_iff.1 h with herror | ⟨_, -, h⟩
      · cases hcolumns : columns d m with
        | ok cs =>
          rw [hcolumns] at herror
          nomatch herror
        | error a =>
          obtain ⟨hblank, rfl⟩ := columns_eq_error_iff.1 hcolumns
          rw [hcolumns] at herror
          exact ⟨⟨n, hn⟩, hblank, (Except.error.inj herror).symm⟩
      · nomatch h
    · nomatch h
  · rintro ⟨⟨n, hn⟩, hblank, rfl⟩
    refine ⟨d.render o n, innerSelect_eq_ok_iff.2 ⟨n, hn, rfl⟩, ?_⟩
    have helements : m.hasElements = true := by
      obtain ⟨dim, hmem, -⟩ := hblank
      simp [SemanticModel.hasElements, List.ne_nil_of_mem hmem]
    rw [if_pos helements, columns_eq_error_iff.2 ⟨hblank, rfl⟩]
    rfl

end View

/-! ## Items that cannot be made -/

/-- The errors that compiling a query is announced to end with: the text cannot be read, it is no
query, no table of it is a model, or the SQL of a model cannot be read. -/
inductive CompileError.Announced : CompileError → Prop where
  | unreadable (cause : Sql.ParseError) (text : String) : Announced (.unreadable cause text)
  | unsupported (kind : String) : Announced (.unsupported kind)
  | noModel (candidates : List String) : Announced (.noModel candidates)
  | badModel (name : String) (cause : Sql.ParseError) : Announced (.badModel name cause)

namespace Compiler

/-- The compiler of a registry for a dialect, with the views that models have by default. -/
def ofRegistry (r : Registry) (d : Dialect) (o : Sql.Overrides) : Compiler where
  registry := r
  dialect := d
  overrides := o

/-- Why the WITH item of a model cannot be made: the statement behind the model or the text of its
view is no SQL of the dialect, or a time dimension has nothing to cut. -/
inductive Fails (d : Dialect) (o : Sql.Overrides) (m : SemanticModel) : CompileError → Prop where
  | select {cause : Sql.ParseError} :
      Sql.parseOne d.grammar (Text.strip m.select) = .error cause →
      Fails d o m (.badModel m.name cause)
  | time {n : Node} {dim : Dimension} :
      Sql.parseOne d.grammar (Text.strip m.select) = .ok n → dim ∈ m.dimensions →
      dim.IsBlankTime → Fails d o m (.badArgument .blankExpression)
  | view {sql : String} {cause : Sql.ParseError} :
      View.text d o m = .ok sql → Sql.parseOne d.grammar sql = .error cause →
      Fails d o m (.badModel m.name cause)

/-- The model `m` is the first of those that a query reads, in the order of the registry, whose item
cannot be made, and `e` is the reason. -/
def FirstFailure (r : Registry) (d : Dialect) (o : Sql.Overrides) (query : Node)
    (m : SemanticModel) (e : CompileError) : Prop :=
  ∃ before after,
    (r.models.filter fun m => decide (m.name ∈ tableNames query)) = before ++ m :: after ∧
      (∀ m' ∈ before, ∃ item, (ofRegistry r d o).IsItemOf m' item) ∧ Fails d o m e

/-- The first model that fails does fail. -/
theorem FirstFailure.fails {r : Registry} {d : Dialect} {o : Sql.Overrides} {query : Node}
    {m : SemanticModel} {e : CompileError} (h : FirstFailure r d o query m e) : Fails d o m e := by
  obtain ⟨_, _, _, _, hfails⟩ := h
  exact hfails

/-- Why a text is not compiled. -/
inductive Refused (r : Registry) (d : Dialect) (o : Sql.Overrides) (text : String) :
    CompileError → Prop where
  /-- It is not one statement. -/
  | unreadable {cause : Sql.ParseError} :
      Sql.parseOne .standard (stripTerminator text) = .error cause →
      Refused r d o text (.unreadable cause (stripTerminator text))
  /-- It is a statement, and no query of a shape that can be compiled. -/
  | unsupported {n : Node} {kind : String} :
      Sql.parseOne .standard (stripTerminator text) = .ok n → Query.shape n = .error kind →
      Refused r d o text (.unsupported kind)
  /-- It is a query, and the walk over it finds no model. -/
  | noModel {query : Node} :
      readQuery text = .ok query → (∀ m ∈ r.models, m.name ∉ tableNames query) →
      Refused r d o text (.noModel (tableNames query))
  /-- It is a query, and the item of a model that it reads cannot be made. -/
  | model {query : Node} {m : SemanticModel} {e : CompileError} :
      readQuery text = .ok query → FirstFailure r d o query m e → Refused r d o text e

variable {r : Registry} {d : Dialect} {o : Sql.Overrides}

/-- The item of a model cannot be made exactly for the listed reasons. -/
theorem modelItem_eq_error_iff {m : SemanticModel} {e : CompileError} :
    (ofRegistry r d o).modelItem m = .error e ↔ Fails d o m e := by
  have hview : (ofRegistry r d o).view m = View.text d o m := rfl
  have hgrammar : (ofRegistry r d o).dialect.grammar = d.grammar := rfl
  rw [modelItem, Outcome.bind_eq_error_iff, hview, hgrammar, View.text_eq_error_iff]
  constructor
  · rintro ((⟨cause, hcause, rfl⟩ | ⟨⟨n, hn⟩, ⟨dim, hmem, hblank⟩, rfl⟩) | ⟨sql, hsql, h⟩)
    · exact .select hcause
    · exact .time hn hmem hblank
    · cases hparse : Sql.parseOne d.grammar sql with
      | ok n =>
        rw [hparse] at h
        cases h
      | error cause =>
        rw [hparse] at h
        obtain rfl : .badModel m.name cause = e := Except.error.inj h
        exact .view hsql hparse
  · rintro (hcause | ⟨hn, hmem, hblank⟩ | ⟨hsql, hparse⟩)
    · exact .inl (.inl ⟨_, hcause, rfl⟩)
    · exact .inl (.inr ⟨⟨_, hn⟩, ⟨_, hmem, hblank⟩, rfl⟩)
    · refine .inr ⟨_, hsql, ?_⟩
      rw [hparse]
      rfl

/-! ## Texts that are refused -/

/-- A text is not read as a query if it is no statement, or a statement of another shape. -/
theorem readQuery_eq_error_iff {text : String} {e : CompileError} :
    readQuery text = .error e ↔
      (∃ cause, Sql.parseOne .standard (stripTerminator text) = .error cause ∧
        e = .unreadable cause (stripTerminator text)) ∨
      ∃ n kind, Sql.parseOne .standard (stripTerminator text) = .ok n ∧
        Query.shape n = .error kind ∧ e = .unsupported kind := by
  rw [readQuery]
  cases Sql.parseOne .standard (stripTerminator text) with
  | error cause =>
    constructor
    · intro h
      exact .inl ⟨cause, rfl, (Except.error.inj h).symm⟩
    · rintro (⟨cause', hcause, rfl⟩ | ⟨n, kind, hn, -⟩)
      · rw [Except.error.inj hcause]
        rfl
      · cases hn
  | ok n =>
    dsimp only
    cases hshape : Query.shape n with
    | ok shape =>
      constructor
      · intro h
        cases h
      · rintro (⟨cause, hcause, -⟩ | ⟨n', kind, hn, hkind, -⟩)
        · cases hcause
        · rw [← Except.ok.inj hn, hshape] at hkind
          cases hkind
    | error kind =>
      constructor
      · intro h
        exact .inr ⟨n, kind, rfl, hshape, (Except.error.inj h).symm⟩
      · rintro (⟨cause, hcause, -⟩ | ⟨n', kind', hn, hkind, rfl⟩)
        · cases hcause
        · rw [← Except.ok.inj hn, hshape] at hkind
          rw [Except.error.inj hkind]
          rfl

/-- A query is not extended if it reads no model, or if the item of a model cannot be made. -/
theorem extend_eq_error_iff {query : Node} {e : CompileError} :
    (ofRegistry r d o).extend query = .error e ↔
      ((∀ m ∈ r.models, m.name ∉ tableNames query) ∧ e = .noModel (tableNames query)) ∨
        ∃ m, FirstFailure r d o query m e := by
  have hmodels : (ofRegistry r d o).registry.resolveOrdered (tableNames query) =
      r.models.filter fun m => decide (m.name ∈ tableNames query) :=
    r.resolveOrdered_eq_filter (tableNames query)
  rw [extend, Outcome.bind_eq_error_iff]
  refine or_congr ?_ ?_
  · rw [modelsOf, hmodels]
    split
    · rename_i hnil
      rw [List.filter_eq_nil_iff] at hnil
      constructor
      · intro h
        exact ⟨fun m hm => by simpa using hnil m hm, (Except.error.inj h).symm⟩
      · rintro ⟨-, rfl⟩
        rfl
    · rename_i hne
      constructor
      · intro h
        cases h
      · rintro ⟨hnone, -⟩
        exact absurd (List.filter_eq_nil_iff.2 fun m hm => by simpa using hnone m hm) hne
  · constructor
    · rintro ⟨ms, hms, h⟩
      obtain ⟨rfl, -⟩ := modelsOf_eq_ok_iff.1 hms
      rcases Outcome.bind_eq_error_iff.1 h with hitems | ⟨_, -, h⟩
      · obtain ⟨before, m, after, hsplit, hbefore, hm⟩ := Outcome.mapM_eq_error_iff.1 hitems
        refine ⟨m, before, after, hmodels.symm.trans hsplit, ?_, modelItem_eq_error_iff.1 hm⟩
        intro m' hm'
        obtain ⟨item, hitem⟩ := hbefore m' hm'
        exact ⟨item, modelItem_eq_ok_iff.1 hitem⟩
      · cases h
    · rintro ⟨m, before, after, hsplit, hbefore, hm⟩
      have hne : (ofRegistry r d o).registry.resolveOrdered (tableNames query) ≠ [] := by
        rw [hmodels, hsplit]
        simp
      refine ⟨_, modelsOf_eq_ok_iff.2 ⟨rfl, hne⟩, Outcome.bind_eq_error_iff.2 (.inl ?_)⟩
      refine Outcome.mapM_eq_error_iff.2 ⟨before, m, after, hmodels.trans hsplit, ?_, ?_⟩
      · intro m' hm'
        obtain ⟨item, hitem⟩ := hbefore m' hm'
        exact ⟨item, modelItem_eq_ok_iff.2 hitem⟩
      · exact modelItem_eq_error_iff.2 hm

/-- A text is refused exactly for the listed reasons. -/
theorem compile_eq_error_iff {text : String} {e : CompileError} :
    (ofRegistry r d o).compile text = .error e ↔ Refused r d o text e := by
  rw [compile, Outcome.bind_eq_error_iff, readQuery_eq_error_iff]
  constructor
  · rintro ((⟨cause, hcause, rfl⟩ | ⟨n, kind, hn, hkind, rfl⟩) | ⟨query, hquery, h⟩)
    · exact .unreadable hcause
    · exact .unsupported hn hkind
    · rcases Outcome.bind_eq_error_iff.1 h with hext | ⟨_, -, h⟩
      · rcases extend_eq_error_iff.1 hext with ⟨hnone, rfl⟩ | ⟨m, hm⟩
        · exact .noModel hquery hnone
        · exact .model hquery hm
      · cases h
  · rintro (hcause | ⟨hn, hkind⟩ | ⟨hquery, hnone⟩ | ⟨hquery, hm⟩)
    · exact .inl (.inl ⟨_, hcause, rfl⟩)
    · exact .inl (.inr ⟨_, _, hn, hkind, rfl⟩)
    · have hext := (extend_eq_error_iff (d := d) (o := o)).2 (.inl ⟨hnone, rfl⟩)
      exact .inr ⟨_, hquery, Outcome.bind_eq_error_iff.2 (.inl hext)⟩
    · have hext := extend_eq_error_iff.2 (.inr ⟨_, hm⟩)
      exact .inr ⟨_, hquery, Outcome.bind_eq_error_iff.2 (.inl hext)⟩

/-- A text is compiled, or refused for a listed reason. The error is one of those announced unless
the first model that fails has a time dimension without an expression; and an error about the SQL
of a model names the first model that fails. -/
theorem compile_refused_iff (r : Registry) (d : Dialect) (o : Sql.Overrides) (text : String) :
    (∀ e, (ofRegistry r d o).compile text = .error e ↔ Refused r d o text e) ∧
      ((∀ e, (ofRegistry r d o).compile text = .error e → e.Announced) ↔
        ¬ ∃ query m, readQuery text = .ok query ∧
          FirstFailure r d o query m (.badArgument .blankExpression)) ∧
      ∀ name cause, (ofRegistry r d o).compile text = .error (.badModel name cause) ↔
        ∃ query m, readQuery text = .ok query ∧ m.name = name ∧
          FirstFailure r d o query m (.badModel name cause) := by
  refine ⟨fun e => compile_eq_error_iff, ?_, ?_⟩
  · constructor
    · rintro hannounced ⟨query, m, hquery, hm⟩
      cases hannounced _ (compile_eq_error_iff.2 (.model hquery hm))
    · intro hnone e he
      rcases compile_eq_error_iff.1 he with _ | _ | _ | ⟨hquery, hm⟩
      · exact .unreadable ..
      · exact .unsupported _
      · exact .noModel _
      · rcases hm.fails with _ | _ | _
        · exact .badModel ..
        · exact absurd ⟨_, _, hquery, hm⟩ hnone
        · exact .badModel ..
  · intro name cause
    rw [compile_eq_error_iff]
    constructor
    · rintro (_ | _ | _ | ⟨hquery, hm⟩)
      rcases hm.fails with _ | _ | _ <;> exact ⟨_, _, hquery, rfl, hm⟩
    · rintro ⟨query, m, hquery, -, hm⟩
      exact .model hquery hm

/-- The sales of a shop by day; the expression of the day is a blank. -/
def undatedSales : SemanticModel where
  name := "sales"
  select := "SELECT 1"
  dimensions := [{ name := "day", kind := .time, expr := some " ",
                   typeParams := some { granularity := some .day } }]

/-- The model of the undated sales makes a registry, and a query that reads it ends with an error
that is not announced. -/
theorem blank_time_is_not_announced :
    ∃ r, Registry.build [.model undatedSales] = .ok r ∧
      ∃ e, (ofRegistry r .duckdb .standard).compile "SELECT * FROM sales" = .error e ∧
        ¬ e.Announced := by
  have hvalid : (Definition.model undatedSales).validate = .ok undatedSales :=
    Outcome.eq_ok_of_toOption (by decide +kernel)
  refine ⟨⟨[undatedSales], by decide⟩, Registry.build_eq_ok_iff.2 (.cons hvalid .nil), ?_⟩
  have hread : (readQuery "SELECT * FROM sales").toOption.map tableNames = some ["sales"] ∧
      (Sql.parseOne Dialect.duckdb.grammar (Text.strip undatedSales.select)).toOption.isSome =
        true := by decide +kernel
  obtain ⟨query, hquery, hnames⟩ := Outcome.exists_eq_ok_of_map hread.1
  obtain ⟨n, hn⟩ := Outcome.exists_eq_ok hread.2
  have hblank : ∀ dim ∈ undatedSales.dimensions, dim.IsBlankTime := by
    intro dim hdim
    obtain rfl := List.mem_singleton.1 hdim
    exact ⟨rfl, rfl, by decide +kernel⟩
  have hfails : Fails .duckdb .standard undatedSales (.badArgument .blankExpression) :=
    .time hn List.mem_cons_self (hblank _ List.mem_cons_self)
  have hfirst : FirstFailure ⟨[undatedSales], by decide⟩ .duckdb .standard query undatedSales
      (.badArgument .blankExpression) := by
    refine ⟨[], [], ?_, by simp, hfails⟩
    rw [hnames]
    rfl
  exact ⟨_, compile_eq_error_iff.2 (.model hquery hfirst), nofun⟩

end Compiler

end SemanticLayer
