import SemanticLayer.Dialect.Backends
import SemanticLayer.Proofs.Generators
import SemanticLayer.Proofs.NameOrigin.Tree
import SemanticLayer.Proofs.Refusal
import SemanticLayer.Proofs.Requoting

/-!
# What a quoted name denotes

The statement behind a model is written with every name in quotes, spelled as it was, if the dialect
wants quotes at all. A name in quotes is taken as it is; without quotes Oracle takes it in upper
case and PostgreSQL in lower case. So a name that had no quotes denotes the same with them if, and
only if, it is spelled as the database takes it (`denotes_written_iff`). MySQL and DuckDB take names
without regard to case, with quotes or without.

`innerSelect_denotes_iff` says it of all names in the statement that is written for a model, and
where these names come from.
-/

namespace SemanticLayer

open Sql

/-- What names denote in a database, by how they are spelled. -/
structure NameRule where
  /-- What a name without quotes denotes. -/
  unquoted : String → String
  /-- What a name in quotes denotes. -/
  quoted : String → String

namespace NameRule

/-- The rule of a database, by its functions. -/
def of : Catalogue → NameRule
  | .oracle => ⟨Text.upper, id⟩
  | .postgres => ⟨Text.lower, id⟩
  | _ => ⟨Text.lower, Text.lower⟩

/-- What a name denotes. -/
def denotes (r : NameRule) (i : Ident) : String :=
  if i.quoted then r.quoted i.name else r.unquoted i.name

/-- A spelling that denotes the same with quotes and without. -/
def Settled (r : NameRule) (s : String) : Prop := r.unquoted s = r.quoted s

theorem denotes_quoted_iff (r : NameRule) (i : Ident) :
    r.denotes { i with quoted := true } = r.denotes i ↔ i.quoted = true ∨ r.Settled i.name := by
  obtain ⟨s, quoted⟩ := i
  cases quoted with
  | true => simp [denotes]
  | false => simp [denotes, Settled, eq_comm]

theorem denotes_bare_iff (r : NameRule) (i : Ident) :
    r.denotes i.bare = r.denotes i ↔ i.quoted = false ∨ r.Settled i.name := by
  obtain ⟨s, quoted⟩ := i
  cases quoted with
  | true => simp [denotes, Settled, Ident.bare]
  | false => simp [denotes, Ident.bare]

theorem denotes_of_settled {r : NameRule} {i : Ident} (h : r.Settled i.name) (quoted : Bool) :
    r.denotes { i with quoted := quoted } = r.denotes i := by
  obtain ⟨s, q⟩ := i
  have hsame : r.unquoted s = r.quoted s := h
  cases quoted <;> cases q <;> simp [denotes, hsame]

/-- How a printer writes a name keeps what it denotes if the name had quotes or is spelled as the
database takes it, and only then, if all names get quotes or quotes mean nothing. -/
theorem denotes_written_iff {r : NameRule} {p : Printer}
    (hquotes : p.style.identify = true ∨ ∀ s, r.Settled s) (i : Ident) :
    r.denotes (p.written i) = r.denotes i ↔ i.quoted = true ∨ r.Settled i.name := by
  rcases hquotes with hidentify | hsettled
  · have hwritten : p.written i = { i with quoted := true } := by
      simp [Printer.written, Printer.needsQuotes, hidentify]
    rw [hwritten]
    exact r.denotes_quoted_iff i
  · exact iff_of_true (denotes_of_settled (hsettled i.name) _) (.inr (hsettled i.name))

end NameRule

/-! ## Where names come from -/

/-- The names that a statement may have once it is fitted to a target: its own names, the ones that
the fitting makes up, and such names with a number. A DISTINCT ON that the target lacks names items
by their texts, and so does a field of a record. -/
inductive Stems (t : Target) (n : Node) : Ident → Prop where
  | given (i : Ident) (h : i ∈ n.names ∨ i ∈ n.viewNames) : Stems t n i
  | made (s : String) (h : s ∈ Lowering.madeNames) (taken : List String) :
    Stems t n ⟨Lowering.freshName taken s, false⟩
  | numbered (i : Ident) (h : Stems t n i) (taken : List String) :
    Stems t n ⟨Lowering.freshName taken i.name, i.quoted⟩
  | item (s : String) (h : ∃ m ∈ n.nodes, Lowering.spellsDistinct t m = true) : Stems t n ⟨s, false⟩
  | field (s : String) (h : ∃ m ∈ n.nodes, Lowering.namesField t m.head) : Stems t n (.ofText s)

theorem stems_lower (t : Target) (n : Node) :
    (∀ i ∈ (n.lower t).names, Stems t n i) ∧ ∀ i ∈ (n.lower t).viewNames, Stems t n i := by
  have hcovers : Lowering.Covers (Stems t n) := ⟨.made, .numbered⟩
  have hfields : Lowering.FieldsHold t (Stems t n) n :=
    fun m hm hfield s => .field s ⟨m, hm, hfield⟩
  have hn : Lowering.Holds t (Stems t n) n := by
    intro m hm
    refine ⟨fun i hi => .given i (.inl ?_), fun i hi => .given i (.inr ?_), fun hspells s => ?_⟩
    · exact List.mem_flatMap.2 ⟨m, hm, hi⟩
    · exact List.mem_flatMap.2 ⟨m, hm, hi⟩
    · exact .item s ⟨m, hm, hspells⟩
  have hlower := Node.holds_lower hcovers hfields hn
  constructor
  · intro i hi
    obtain ⟨m, hm, hmem⟩ := List.mem_flatMap.1 hi
    exact (hlower m hm).names i hmem
  · intro i hi
    obtain ⟨m, hm, hmem⟩ := List.mem_flatMap.1 hi
    exact (hlower m hm).views i hmem

/-! ## The statement behind a model -/

namespace Dialect

/-- How the statement behind a model is written. -/
def quoting (d : Dialect) : Printer := d.printer .standard { identify := d.identify }

/-- A statement as the dialect has it, with its names quoted as the dialect wants. -/
def requoted (d : Dialect) (n : Node) : Node := (n.lower d.target).respell d.quoting.written

/-- The text of a statement in which no quotes are added to the names but where there must be
some. -/
def plainText (d : Dialect) (n : Node) : String := Text.strip (d.quoting.sparing.layout n).toText

/-- The rule by which the database of the dialect takes names. -/
def nameRule (d : Dialect) : NameRule := .of d.target.functions

variable {d : Dialect}

theorem ignoresQuotes_writers {kind : Replaceable} {w : NodeWriter}
    (hw : d.quoting.writers kind = some w) : w.IgnoresQuotes := by
  have hmem := (OverrideTable.get?_eq_some_iff Overrides.standard d.name kind).1 hw
  simp only [Overrides.standard, List.mem_cons, List.not_mem_nil, or_false, Prod.mk.injEq] at hmem
  rcases hmem with ⟨-, rfl⟩ | ⟨-, rfl⟩
  · exact NodeWriter.ignoresQuotes_plainBetween
  · exact NodeWriter.ignoresQuotes_numericTrunc

theorem render_eq_plainText (d : Dialect) (n : Node) :
    d.render .standard n = d.plainText (d.requoted n) := by
  have hlayout := d.quoting.layout_sparing (fun _ _ => ignoresQuotes_writers) (n.lower d.target)
  unfold plainText requoted
  rw [hlayout]
  rfl

/-- A dialect puts all names in quotes, or quotes mean nothing to its database. -/
theorem identify_or_settled (hd : d ∈ Backends.standard.dialects.map Prod.snd) :
    d.quoting.style.identify = true ∨ ∀ s, d.nameRule.Settled s := by
  obtain rfl | rfl | rfl | rfl := Backends.mem_standard_iff.1 hd
  · exact .inr fun _ => rfl
  · exact .inr fun _ => rfl
  · exact .inl rfl
  · exact .inl rfl

end Dialect

namespace View

variable {d : Dialect} {m : SemanticModel} {n : Node}

/-- The statement behind a model is written with the quotes that the dialect wants around its names,
spelled as they are; a lateral view alone is named without quotes. A name denotes what it denoted
before if it had quotes before or is spelled as the database takes it, and only then. -/
theorem innerSelect_denotes_iff (hd : d ∈ Backends.standard.dialects.map Prod.snd)
    (hn : Sql.parseOne d.grammar (Text.strip m.select) = .ok n) :
    innerSelect d .standard m = .ok (d.plainText (d.requoted n)) ∧
    (d.requoted n).names = (n.lower d.target).names.map d.quoting.written ∧
    (d.requoted n).viewNames = (n.lower d.target).viewNames.map Ident.bare ∧
    (∀ i ∈ (n.lower d.target).names, Stems d.target n i ∧
      (d.nameRule.denotes (d.quoting.written i) = d.nameRule.denotes i ↔
        i.quoted = true ∨ d.nameRule.Settled i.name)) ∧
    ∀ i ∈ (n.lower d.target).viewNames, Stems d.target n i ∧
      (d.nameRule.denotes i.bare = d.nameRule.denotes i ↔
        i.quoted = false ∨ d.nameRule.Settled i.name) := by
  obtain ⟨hnames, hviews⟩ := stems_lower d.target n
  refine ⟨?_, Node.names_respell _, Node.viewNames_respell _, fun i hi => ⟨hnames i hi, ?_⟩,
    fun i hi => ⟨hviews i hi, d.nameRule.denotes_bare_iff i⟩⟩
  · exact innerSelect_eq_ok_iff.2 ⟨n, hn, (d.render_eq_plainText n).symm⟩
  · exact NameRule.denotes_written_iff (Dialect.identify_or_settled hd) i

/-- A model over a table whose columns are spelled in three ways. -/
def sensors : SemanticModel :=
  { name := "sensors", select := "SELECT \"id\", CODE, place FROM sensors" }

/-- In Oracle a column in quotes and one in upper case denote what they denoted. -/
theorem innerSelect_denotes_sensors :
    Dialect.oracle ∈ Backends.standard.dialects.map Prod.snd ∧
    ∃ n, Sql.parseOne Dialect.oracle.grammar (Text.strip sensors.select) = .ok n ∧
      (n.lower Dialect.oracle.target).names =
        [⟨"id", true⟩, ⟨"CODE", false⟩, ⟨"place", false⟩, ⟨"sensors", false⟩] ∧
      innerSelect Dialect.oracle .standard sensors =
        .ok (Dialect.oracle.plainText (Dialect.oracle.requoted n)) ∧
      ∀ i ∈ (n.lower Dialect.oracle.target).names,
        (Dialect.oracle.nameRule.denotes (Dialect.oracle.quoting.written i) =
            Dialect.oracle.nameRule.denotes i ↔
          i.quoted = true ∨ Dialect.oracle.nameRule.Settled i.name) := by
  have hd : Dialect.oracle ∈ Backends.standard.dialects.map Prod.snd :=
    Backends.mem_standard_iff.2 (.inr (.inr (.inl rfl)))
  obtain ⟨n, hn, hnames⟩ := Outcome.exists_eq_ok_of_map
    (x := Sql.parseOne Dialect.oracle.grammar (Text.strip sensors.select))
    (f := fun n => (n.lower Dialect.oracle.target).names)
    (b := [⟨"id", true⟩, ⟨"CODE", false⟩, ⟨"place", false⟩, ⟨"sensors", false⟩])
    (by decide +kernel)
  obtain ⟨htext, -, -, hdenotes, -⟩ := innerSelect_denotes_iff hd hn
  exact ⟨hd, n, hn, hnames, htext, fun i hi => (hdenotes i hi).2⟩

/-- In Oracle the table and the column of `SELECT id FROM t` denote `T` and `ID`, and what is written
for them denotes `t` and `id`. -/
theorem oracle_quotes_lower_case :
    ∃ n n', Sql.parseOne Dialect.oracle.grammar "SELECT id FROM t" = .ok n ∧
      innerSelect Dialect.oracle .standard { name := "m", select := "SELECT id FROM t" } =
        .ok "SELECT \"id\" FROM \"t\"" ∧
      Sql.parseOne Dialect.oracle.grammar "SELECT \"id\" FROM \"t\"" = .ok n' ∧
      n.names.map Dialect.oracle.nameRule.denotes = ["ID", "T"] ∧
      n'.names.map Dialect.oracle.nameRule.denotes = ["id", "t"] := by
  have hread : ((Sql.parseOne Dialect.oracle.grammar "SELECT id FROM t").toOption.map
        (fun n => n.names.map Dialect.oracle.nameRule.denotes) = some ["ID", "T"] ∧
      (Sql.parseOne Dialect.oracle.grammar "SELECT \"id\" FROM \"t\"").toOption.map
        (fun n => n.names.map Dialect.oracle.nameRule.denotes) = some ["id", "t"]) ∧
      (innerSelect Dialect.oracle .standard { name := "m", select := "SELECT id FROM t" }).toOption =
        some "SELECT \"id\" FROM \"t\"" := by decide +kernel
  obtain ⟨n, hn, hnames⟩ := Outcome.exists_eq_ok_of_map hread.1.1
  obtain ⟨n', hn', hnames'⟩ := Outcome.exists_eq_ok_of_map hread.1.2
  exact ⟨n, n', hn, Outcome.eq_ok_of_toOption hread.2, hn', hnames, hnames'⟩

end View

end SemanticLayer
