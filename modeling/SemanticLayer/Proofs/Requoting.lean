import SemanticLayer.Proofs.Names
import SemanticLayer.Sql.Override

/-!
# Forced quotes

A printer that puts every name in quotes writes the same text as one that puts only those names in
quotes that must be, for the tree in which every name has its quotes already (`layout_sparing`).
The proof goes through the printer from the inside out: no function of it looks at a name but to
write it, or at the quotes of a name at all.
-/

namespace SemanticLayer.Sql

variable {f : Ident → Ident} {test : Head → Bool}

/-! ## Tests that look at no names -/

namespace Head

/-- A test of heads that looks at no names. -/
def Steady (test : Head → Bool) : Prop := ∀ f h, test (respell f h) = test h

/-- The tests by which the printer finds the parts of a node. -/
def partTests : List (Head → Bool) :=
  [isWith, isFrom, isJoin, isLateral, isWhere, isHaving, isProjections, isGroup, isQualify, isOrder,
    isLimit, isOffset, isInto, isPivot, isPivotField, isTableHint, isTableState, isRunOption,
    isRowKind, isDistinct, isHint, isLock, isSample, isConnectBy, isGrouping, isFetch, isFrame,
    isString, isDataType, isQuery, isBareQuery, isAnd, Printer.separates, takesNames]

theorem steady_of_mem (h : test ∈ partTests) : Steady test := by
  have hall (f : Ident → Ident) (head : Head) :
      partTests.map (· (respell f head)) = partTests.map (· head) := by
    cases head <;> rfl
  exact fun f head => List.map_inj_left.1 (hall f head) test h

theorem respell_eq_self {h : Head} (hnames : h.takesNames = false) : h.respell f = h := by
  cases h <;> cases hnames <;> rfl

/-- A head that takes no names is looked for in the same way in both trees. -/
theorem steady_beq {sought : Head} (hsought : sought.takesNames = false) :
    Steady (· == sought) := by
  intro f head
  cases hnames : head.takesNames with
  | false => rw [respell_eq_self hnames]
  | true =>
    have hne {h : Head} (hh : h.takesNames = true) : (h == sought) = false := by
      refine beq_eq_false_iff_ne.2 fun heq => ?_
      rw [heq, hsought] at hh
      cases hh
    have hrespelled := (steady_of_mem (by simp [partTests]) f head).trans hnames
    exact (hne hrespelled).trans (hne hnames).symm

theorem Steady.not (h : Steady test) : Steady fun head => !test head :=
  fun f head => congrArg (! ·) (h f head)

end Head

/-- A part whose names are spelled in another way, with the same text. -/
def Part.respell (f : Ident → Ident) (q : Part) : Part := { q with node := q.node.respell f }

namespace Printer

open Head (Steady steady_of_mem steady_beq)

theorem select_respell (h : Steady test) (parts : List Part) :
    select test (parts.map (Part.respell f)) = (select test parts).map (Part.respell f) := by
  unfold select
  rw [List.filter_map]
  refine congrArg _ (List.filter_congr fun q _ => ?_)
  simp only [Function.comp_apply, Part.respell, Node.head_respell]
  exact h f q.node.head

theorem map_rendered_respell (parts : List Part) :
    (parts.map (Part.respell f)).map Part.rendered = parts.map Part.rendered := by
  rw [List.map_map]
  rfl

variable (p : Printer)

/-- How a name is written: in quotes or without. -/
def written (i : Ident) : Ident := { i with quoted := p.needsQuotes i }

/-- The printer that puts only those names in quotes that must be. -/
def sparing : Printer := { p with style := { p.style with identify := false } }

/-! ## Names -/

theorem ident_sparing (i : Ident) : p.sparing.ident (p.written i) = p.ident i := by
  have hquotes : p.sparing.needsQuotes (p.written i) = p.needsQuotes i := by
    simp only [needsQuotes, sparing, written]
    generalize p.target.reserved.contains (Text.lower i.name) = reserved
    generalize (!p.target.digitNames && i.name.toList.head?.any Text.isDigit) = digit
    cases i.quoted <;> cases p.style.identify <;> cases reserved <;> cases digit <;> rfl
  simp only [ident, hquotes]
  rfl

theorem map_ident_sparing (ids : List Ident) :
    (ids.map p.written).map p.sparing.ident = ids.map p.ident := by
  rw [List.map_map]
  exact List.map_congr_left fun i _ => p.ident_sparing i

theorem path_sparing (ids : List Ident) : p.sparing.path (ids.map p.written) = p.path ids := by
  rw [path, map_ident_sparing]
  rfl

theorem tableAlias_sparing (a : TableAlias) :
    p.sparing.tableAlias (a.respell p.written) = p.tableAlias a := by
  have hname : (a.name.map p.written).map p.sparing.ident = a.name.map p.ident := by
    rw [Option.map_map]
    exact congrArg (a.name.map ·) (funext p.ident_sparing)
  simp only [tableAlias, TableAlias.respell, hname, map_ident_sparing, List.isEmpty_map]
  rfl

theorem markedAlias_sparing (label : Option TableAlias) (mark : Bool) :
    p.sparing.markedAlias (label.map (·.respell p.written)) mark = p.markedAlias label mark := by
  cases label with
  | none => rfl
  | some a =>
    simp only [markedAlias, Option.map_some, tableAlias_sparing]

theorem lambda_sparing (ids : List Ident) (worded : Bool) (body : Layout) :
    p.sparing.lambda (ids.map p.written) worded body = p.lambda ids worded body := by
  simp only [lambda, map_ident_sparing, List.length_map]

theorem windowRows_sparing (base : Option Ident) (word : Option String) (parts : List Layout) :
    p.sparing.windowRows (base.map p.written) word parts = p.windowRows base word parts := by
  cases base with
  | none => rfl
  | some id =>
    cases parts with
    | nil => exact p.ident_sparing id
    | cons a parts =>
      simp only [windowRows, Option.map_some, ident_sparing]
      rfl

/-! ## Parts of a query -/

section

variable (parts : List Part)

theorem texts_sparing (h : Steady test) :
    p.sparing.texts test (parts.map (Part.respell f)) = p.texts test parts := by
  rw [texts, select_respell h, List.map_map]
  rfl

theorem texts_of_mem : ∀ test ∈ Head.partTests,
    p.sparing.texts test (parts.map (Part.respell f)) = p.texts test parts :=
  fun _ h => p.texts_sparing parts (steady_of_mem h)

theorem texts_beq (sought : Head) (h : sought.takesNames = false) :
    p.sparing.texts (· == sought) (parts.map (Part.respell f)) = p.texts (· == sought) parts :=
  p.texts_sparing parts (steady_beq h)

theorem samples_sparing (ofQuery : Bool) :
    p.sparing.samples ofQuery (parts.map (Part.respell f)) = p.samples ofQuery parts := by
  rw [samples, select_respell (steady_of_mem (by simp [Head.partTests])), List.map_map]
  rfl

theorem lateSamples_sparing :
    p.sparing.lateSamples (parts.map (Part.respell f)) = p.lateSamples parts := by
  rw [lateSamples, samples_sparing]
  rfl

theorem sampledAlias_sparing (label : Option TableAlias) :
    p.sparing.sampledAlias (label.map (·.respell p.written)) (parts.map (Part.respell f)) =
      p.sampledAlias label parts := by
  rw [sampledAlias, samples_sparing, markedAlias_sparing]
  rfl

theorem limits_sparing : p.sparing.limits (parts.map (Part.respell f)) = p.limits parts := by
  unfold limits
  rw [p.texts_of_mem parts _ (by simp [Head.partTests]),
    p.texts_of_mem parts _ (by simp [Head.partTests]), List.any_map]
  have hfetch (q : Part) : (q.respell f).node.head.isFetch = q.node.head.isFetch := by
    rw [Part.respell, Node.head_respell]
    exact steady_of_mem (by simp [Head.partTests]) f q.node.head
  simp only [Function.comp_def, hfetch]

theorem locks_sparing : p.sparing.locks (parts.map (Part.respell f)) = p.locks parts := by
  rw [locks, select_respell (steady_of_mem (by simp [Head.partTests])), List.map_map]
  rfl

theorem afterWith_sparing (a : Layout) :
    p.sparing.afterWith (parts.map (Part.respell f)) a = p.afterWith parts a := by
  rw [afterWith, select_respell (steady_of_mem (by simp [Head.partTests])), afterWith]
  cases select Head.isWith parts <;> rfl

theorem modifiers_sparing (isSelect : Bool) :
    p.sparing.modifiers isSelect (parts.map (Part.respell f)) = p.modifiers isSelect parts := by
  have hstart := p.texts_beq (f := f) parts .startWith rfl
  have hwindows := p.texts_beq (f := f) parts .windows rfl
  have hsort (key : String) := p.texts_beq (f := f) parts (.sortClause key) rfl
  have htexts := p.texts_of_mem (f := f) parts
  simp only [Head.partTests, List.forall_mem_cons] at htexts
  simp only [modifiers, htexts, hstart, hwindows, hsort, limits_sparing, locks_sparing,
    samples_sparing, lateSamples_sparing]

theorem runOptions_sparing :
    p.sparing.runOptions (parts.map (Part.respell f)) = p.runOptions parts := by
  rw [runOptions, select_respell (steady_of_mem (by simp [Head.partTests])), List.map_map]
  rfl

theorem ownJoins_sparing : p.sparing.ownJoins (parts.map (Part.respell f)) = p.ownJoins parts := by
  rw [ownJoins, p.texts_of_mem parts _ (by simp [Head.partTests])]
  rfl

theorem tableScope_respell : tableScope (parts.map (Part.respell f)) = tableScope parts := by
  rw [tableScope, select_respell (steady_beq rfl), List.isEmpty_map]
  rfl

theorem tableStates_sparing :
    p.sparing.tableStates (parts.map (Part.respell f)) = p.tableStates parts := by
  rw [tableStates, select_respell (steady_of_mem (by simp [Head.partTests])), List.map_map]
  rfl

theorem tableSuffixes_sparing :
    p.sparing.tableSuffixes (parts.map (Part.respell f)) = p.tableSuffixes parts := by
  rw [tableSuffixes, select_respell (steady_of_mem (by simp [Head.partTests])), List.map_map,
    p.texts_of_mem parts _ (by simp [Head.partTests])]
  rfl

end

/-! ## Queries -/

section

variable (parts : List Part)

theorem selectQuery_sparing (c : List String) :
    p.sparing.selectQuery c (parts.map (Part.respell f)) = p.selectQuery c parts := by
  have hselect : ∀ test ∈ Head.partTests,
      select test (parts.map (Part.respell f)) = (select test parts).map (Part.respell f) :=
    fun _ h => select_respell (steady_of_mem h) parts
  have htexts := p.texts_of_mem (f := f) parts
  simp only [Head.partTests, List.forall_mem_cons] at hselect htexts
  simp only [selectQuery, hselect, htexts, runOptions_sparing, modifiers_sparing,
    afterWith_sparing, List.map_map, List.isEmpty_map]
  rfl

theorem setOperation_sparing (op : String) (distinct byName : Bool) (c : List String) :
    p.sparing.setOperation op distinct byName c (parts.map (Part.respell f)) =
      p.setOperation op distinct byName c parts := by
  rcases parts with _ | ⟨l, _ | ⟨r, rest⟩⟩
  · rfl
  · rfl
  · simp only [setOperation, List.map_cons, modifiers_sparing, afterWith_sparing]
    rfl

theorem subquery_sparing (label : Option TableAlias) :
    p.sparing.subquery (label.map (·.respell p.written)) (parts.map (Part.respell f)) =
      p.subquery label parts := by
  cases parts with
  | nil => rfl
  | cons q rest =>
    simp only [subquery, List.map_cons, sampledAlias_sparing, modifiers_sparing, afterWith_sparing,
      p.texts_of_mem rest Head.isPivot (by simp [Head.partTests])]
    rfl

theorem withItem_sparing (label : TableAlias) (materialized : Option Bool) (c : List String) :
    p.sparing.withItem (label.respell p.written) materialized c (parts.map (Part.respell f)) =
      p.withItem label materialized c parts := by
  have halias := p.tableAlias_sparing { label with comments := label.comments ++ c }
  simp only [TableAlias.respell] at halias
  simp only [withItem, TableAlias.respell, halias, List.head?_map, Option.map_map]
  rfl

theorem join_sparing (method side kind : String) :
    p.sparing.join method side kind (parts.map (Part.respell f)) =
      p.join method side kind parts := by
  cases parts with
  | nil => rfl
  | cons joined rest =>
    have hhead : (joined.respell f).node.head = joined.node.head.respell f := by
      rw [Part.respell, Node.head_respell]
    simp only [join, List.map_cons, List.map_map, hhead]
    -- Whether the joined table is a lateral one does not depend on its names.
    cases joined.node.head with
    | lateral apply label => cases apply <;> rfl
    | _ => rfl

theorem groupings_sparing :
    p.sparing.groupings (parts.map (Part.respell f)) = p.groupings parts := by
  have hkind (keywords : List String) :
      Steady fun h => keywords.any fun k => h == .grouping k := fun f h =>
    congrArg keywords.any (funext fun k => steady_beq rfl f h)
  simp only [groupings, select_respell (hkind _), List.isEmpty_map, map_rendered_respell]
  rfl

theorem isBareGrouping_respell :
    isBareGrouping (parts.map (Part.respell f)) = isBareGrouping parts := by
  have htotals (h : Head) :
      (h.respell f == .grouping "WITH TOTALS") = (h == .grouping "WITH TOTALS") :=
    steady_beq rfl f h
  rw [isBareGrouping, select_respell (steady_of_mem (by simp [Head.partTests])), isBareGrouping]
  rcases select Head.isGrouping parts with _ | ⟨q, _ | ⟨q', rest⟩⟩
  · rfl
  · simp only [List.map_cons, List.map_nil, Part.respell, Node.head_respell, Node.parts_respell,
      List.isEmpty_map, bne, htotals]
  · rfl

theorem groupBy_sparing (modifier : String) :
    p.sparing.groupBy modifier (parts.map (Part.respell f)) = p.groupBy modifier parts := by
  have hgrouping : Steady Head.isGrouping := steady_of_mem (by simp [Head.partTests])
  simp only [groupBy, select_respell hgrouping.not, map_rendered_respell, groupings_sparing,
    isBareGrouping_respell]
  rfl

theorem pivot_sparing (back : Bool) (nulls : Option Bool) (label : Option TableAlias) :
    p.sparing.pivot back nulls (label.map (·.respell p.written)) (parts.map (Part.respell f)) =
      p.pivot back nulls label parts := by
  have hfield : Steady Head.isPivotField := steady_of_mem (by simp [Head.partTests])
  simp only [pivot, select_respell hfield, select_respell hfield.not,
    markedAlias_sparing, List.map_map]
  rfl

theorem pivotQuery_sparing (back : Bool) :
    p.sparing.pivotQuery back (parts.map (Part.respell f)) = p.pivotQuery back parts := by
  have hclause (word : String) := p.texts_beq (f := f) parts (.pivotClause word) rfl
  have hon : Steady (· == .pivotClause "ON") := steady_beq rfl
  simp only [pivotQuery, hclause, select_respell hon, List.isEmpty_map, ← List.map_take,
    List.map_map, p.texts_of_mem parts Head.isGroup (by simp [Head.partTests])]
  rfl

theorem jsonTable_sparing (handling : String) :
    p.sparing.jsonTable handling (parts.map (Part.respell f)) = p.jsonTable handling parts := by
  have hcolumns : Steady (· == .jsonColumns) := steady_beq rfl
  simp only [jsonTable, p.texts_sparing parts hcolumns, select_respell hcolumns.not, List.map_map]
  rfl

theorem jsonColumn_sparing (name : Option Ident) (ordinality : Bool) :
    p.sparing.jsonColumn (name.map p.written) ordinality (parts.map (Part.respell f)) =
      p.jsonColumn name ordinality parts := by
  have hstring : Steady Head.isString := steady_of_mem (by simp [Head.partTests])
  have htype : Steady Head.isDataType := steady_of_mem (by simp [Head.partTests])
  unfold jsonColumn
  rw [select_respell hstring, select_respell htype, List.map_map, List.map_map,
    p.texts_beq parts .jsonColumns rfl]
  cases name with
  | none => rfl
  | some id =>
    simp only [Option.map_some, ident_sparing]
    rfl

theorem values_sparing (label : Option TableAlias) (isSource : Bool) :
    p.sparing.values (label.map (·.respell p.written)) isSource (parts.map (Part.respell f)) =
      p.values label isSource parts := by
  simp only [values, map_rendered_respell, markedAlias_sparing, Option.isSome_map]
  rfl

theorem lateralView_sparing (outer : Bool) (label : TableAlias) :
    p.sparing.lateralView outer
        { label with name := label.name.map Ident.bare, columns := label.columns.map p.written }
        (parts.map (Part.respell f)) = p.lateralView outer label parts := by
  rw [lateralView, map_ident_sparing, Option.map_map, List.map_map, List.isEmpty_map]
  rfl

theorem insert_sparing (overwrite : Bool) (columns : List Ident) :
    p.sparing.insert overwrite (columns.map p.written) (parts.map (Part.respell f)) =
      p.insert overwrite columns parts := by
  have hrow : Steady fun h => !h.isWith && h != .returning := by
    intro f h
    have hwith : (h.respell f).isWith = h.isWith :=
      steady_of_mem (by simp [Head.partTests]) f h
    have hreturning : (h.respell f == .returning) = (h == .returning) := steady_beq rfl f h
    simp only [hwith, bne, hreturning]
  have hnames (ids : List Ident) :
      (ids.map p.written).map (fun id => ({ body := p.sparing.ident id } : Rendered)) =
        ids.map fun id => { body := p.ident id } := by
    rw [List.map_map]
    exact List.map_congr_left fun i _ => congrArg (fun a => ({ body := a } : Rendered))
      (p.ident_sparing i)
  unfold insert
  rw [select_respell hrow]
  cases select (fun h => !h.isWith && h != .returning) parts with
  | nil => rfl
  | cons target source =>
    simp only [List.map_cons, List.isEmpty_map, hnames, afterWith_sparing, List.map_map,
      p.texts_beq parts .returning rfl]
    rfl

theorem update_sparing : p.sparing.update (parts.map (Part.respell f)) = p.update parts := by
  cases parts with
  | nil => rfl
  | cons target rest =>
    have htexts := p.texts_of_mem (f := f) rest
    simp only [Head.partTests, List.forall_mem_cons] at htexts
    simp only [update, List.map_cons, afterWith_sparing, htexts, p.texts_beq rest .setClause rfl,
      p.texts_beq rest .returning rfl]
    rfl

theorem delete_sparing : p.sparing.delete (parts.map (Part.respell f)) = p.delete parts := by
  cases parts with
  | nil => rfl
  | cons target rest =>
    simp only [delete, List.map_cons, afterWith_sparing, p.texts_beq rest .returning rfl,
      p.texts_of_mem rest Head.isWhere (by simp [Head.partTests])]
    rfl

end

/-! ## Expressions -/

theorem nameText_written (n : Node) : nameText (n.respell p.written) = nameText n := by
  rw [nameText, Node.head_respell, nameText]
  cases n.head with
  | column ids =>
    simp only [Head.respell, List.getLast?_map, Option.map_map]
    rfl
  | _ => rfl

theorem interval_sparing (unit : Option String) (value : Node) (text : Layout) :
    p.sparing.interval unit (value.respell p.written) text = p.interval unit value text := by
  unfold interval
  rw [nameText_written, Node.head_respell]
  cases value.head <;> rfl

theorem isWholeNumber_respell (n : Node) : isWholeNumber (n.respell f) = isWholeNumber n := by
  induction n using Node.induction_parts with
  | step n ih =>
    obtain ⟨h, c, ps⟩ := n
    cases h with
    | unary op =>
      cases op with
      | minus =>
        rcases ps with _ | ⟨m, _ | ⟨m', ms⟩⟩
        · rfl
        · exact ih m (by simp)
        · rfl
      | _ => rfl
    | _ => rfl

theorem ordered_sparing (framed : Bool) (direction : Option Bool) (nullsFirst : Bool) (key : Node)
    (text : Layout) :
    p.sparing.ordered framed direction nullsFirst (key.respell f) text =
      p.ordered framed direction nullsFirst key text := by
  unfold ordered
  rw [isWholeNumber_respell]
  rfl

theorem truncation_sparing (ns : List Node) (args : List Layout) :
    p.sparing.truncation (ns.map (Node.respell f)) args = p.truncation ns args := by
  have hunit (n : Node) : unitText (n.respell f) = unitText n := by
    rw [unitText, Node.head_respell, unitText]
    cases n.head <;> rfl
  rcases ns with _ | ⟨this, _ | ⟨unit, _ | ⟨n, ns⟩⟩⟩
  · rfl
  · rfl
  · rcases args with _ | ⟨a, _ | ⟨b, _ | ⟨c, args⟩⟩⟩
    · rfl
    · rfl
    · simp only [truncation, List.map_cons, List.map_nil, hunit]
      rfl
    · rfl
  · rfl

theorem functionCall_sparing (function : Function) (ns : List Node) (args : List Layout) :
    p.sparing.functionCall function (ns.map (Node.respell f)) args =
      p.functionCall function ns args := by
  have hident (name : String) : p.sparing.ident ⟨name, true⟩ = p.ident ⟨name, true⟩ := by
    have hquotes (q : Printer) : q.needsQuotes ⟨name, true⟩ = true := by simp [needsQuotes]
    simp only [ident, hquotes]
    rfl
  unfold functionCall
  simp only [truncation_sparing, hident]
  rfl

theorem array_sparing (ns : List Node) (args : List Layout) :
    p.sparing.array (ns.map (Node.respell f)) args = p.array ns args := by
  have hquery : (ns.map (Node.respell f)).head?.any (fun n => n.head.isQuery) =
      ns.head?.any fun n => n.head.isQuery := by
    cases ns with
    | nil => rfl
    | cons n ns =>
      simp only [List.map_cons, List.head?_cons, Option.any_some, Node.head_respell]
      exact steady_of_mem (by simp [Head.partTests]) f n.head
  rw [array, hquery]
  rfl

/-! ## Nodes -/

theorem headD_respell (ns : List Node) :
    (ns.map (Node.respell f)).headD (.of .null []) = (ns.headD (.of .null [])).respell f := by
  cases ns <;> rfl

theorem plainText_sparing (ctx : Context) (h : Head) (parts : List Part) :
    p.sparing.plainText ctx (h.respell p.written) (parts.map (Part.respell p.written)) =
      p.plainText ctx h parts := by
  have hnodes : (parts.map (Part.respell p.written)).map Part.node =
      (parts.map Part.node).map (Node.respell p.written) := by
    rw [List.map_map, List.map_map]
    rfl
  unfold plainText
  rw [map_rendered_respell, hnodes]
  cases h with
  | name id => exact p.ident_sparing id
  | column ids => exact p.path_sparing ids
  | star ids =>
    dsimp only [Head.respell]
    rw [path_sparing, List.isEmpty_map]
    rfl
  | caseOf =>
    dsimp only [Head.respell]
    rw [select_respell (steady_beq rfl), List.map_map, List.flatMap_map]
    rfl
  | typeField id =>
    dsimp only [Head.respell]
    rw [ident_sparing]
    rfl
  | call function => exact p.functionCall_sparing function _ _
  | lambda ids worded => exact p.lambda_sparing ids worded _
  | window base =>
    dsimp only [Head.respell]
    rw [windowRows_sparing]
    rfl
  | keep base word =>
    dsimp only [Head.respell]
    rw [windowRows_sparing]
    rfl
  | windowDefinition id base =>
    dsimp only [Head.respell]
    rw [windowRows_sparing, ident_sparing]
    rfl
  | anyOf =>
    dsimp only [Head.respell]
    rw [headD_respell, Node.head_respell]
    cases ((parts.map Part.node).headD (.of .null [])).head <;> rfl
  | allOf =>
    dsimp only [Head.respell]
    rw [headD_respell, Node.head_respell]
    cases ((parts.map Part.node).headD (.of .null [])).head <;> rfl
  | interval unit =>
    dsimp only [Head.respell]
    rw [headD_respell, interval_sparing]
    rfl
  | array => exact p.array_sparing _ _
  | jsonTable handling => exact p.jsonTable_sparing parts handling
  | jsonColumn id ordinality => exact p.jsonColumn_sparing parts id ordinality
  | aliased id =>
    dsimp only [Head.respell]
    rw [ident_sparing]
    rfl
  | aliases ids =>
    dsimp only [Head.respell]
    rw [map_ident_sparing]
    rfl
  | subquery label => exact p.subquery_sparing parts label
  | table ids label =>
    dsimp only [Head.respell]
    rw [tableScope_respell, path_sparing, tableStates_sparing, sampledAlias_sparing,
      tableSuffixes_sparing, lateSamples_sparing, ownJoins_sparing]
  | tableCall ids label ordinality =>
    dsimp only [Head.respell]
    rw [← List.map_drop, path_sparing, tableStates_sparing, sampledAlias_sparing,
      tableSuffixes_sparing, lateSamples_sparing, ownJoins_sparing, List.isEmpty_map]
    rfl
  | values label => exact p.values_sparing parts label ctx.isSource
  | unnest label ordinality =>
    dsimp only [Head.respell]
    rw [markedAlias_sparing]
    rfl
  | lateral apply label =>
    dsimp only [Head.respell]
    rw [markedAlias_sparing]
    rfl
  | lateralView outer label => exact p.lateralView_sparing parts outer label
  | pivot back nulls label => exact p.pivot_sparing parts back nulls label
  | pivotQuery back => exact p.pivotQuery_sparing parts back
  | join method side kind => exact p.join_sparing parts method side kind
  | groupBy modifier => exact p.groupBy_sparing parts modifier
  | ordered direction nullsFirst =>
    dsimp only [Head.respell]
    rw [headD_respell, ordered_sparing]
    rfl
  | insert overwrite columns => exact p.insert_sparing parts overwrite columns
  | update => exact p.update_sparing parts
  | delete => exact p.delete_sparing parts
  | create kind =>
    dsimp only [Head.respell]
    rw [afterWith_sparing]
    rfl
  | _ => rfl

/-! ## Writers -/

end Printer

/-- A writer that looks at no names and takes no notice of forced quotes. -/
def NodeWriter.IgnoresQuotes (w : NodeWriter) : Prop :=
  ∀ target style f n texts,
    w target { style with identify := false } (Node.respell f n) texts = w target style n texts

namespace NodeWriter

theorem ignoresQuotes_plainBetween : IgnoresQuotes plainBetween := by
  intro target style f n texts
  unfold plainBetween
  rw [Node.head_respell]
  cases n.head <;> rfl

theorem isNumber_respell (n : Node) : isNumber (n.respell f) = isNumber n := by
  induction n using Node.induction_parts with
  | step n ih =>
    obtain ⟨h, c, ps⟩ := n
    cases h with
    | unary op =>
      cases op with
      | minus =>
        rcases ps with _ | ⟨m, _ | ⟨m', ms⟩⟩
        · rfl
        · exact ih m (by simp)
        · rfl
      | _ => rfl
    | _ => rfl

theorem isNumeric_respell (n : Node) : isNumeric (n.respell f) = isNumeric n := by
  rw [isNumeric, Node.head_respell, isNumber_respell, isNumeric]
  cases n.head <;> rfl

theorem ignoresQuotes_numericTrunc : IgnoresQuotes numericTrunc := by
  intro target style f n texts
  unfold numericTrunc
  rw [Node.parts_respell]
  rcases n.parts with _ | ⟨this, _ | ⟨⟨h, c, ps⟩, _ | ⟨m, ms⟩⟩⟩
  · rfl
  · rfl
  · cases h with
    | string unit =>
      rcases texts with _ | ⟨a, _ | ⟨b, _ | ⟨d, texts⟩⟩⟩
      · rfl
      · rfl
      · simp only [List.map_cons, List.map_nil, Node.respell, Head.respell, isNumeric_respell]
        rfl
      · rfl
    | _ => rfl
  · cases h <;> rfl

end NodeWriter

namespace Printer

open Head (steady_of_mem)

variable (p : Printer)

theorem nodeText_sparing (hwriters : ∀ kind w, p.writers kind = some w → w.IgnoresQuotes)
    (ctx : Context) (h : Head) (c : List String) (parts : List Part) :
    p.sparing.nodeText ctx (h.respell p.written) c (parts.map (Part.respell p.written)) =
      p.nodeText ctx h c parts := by
  have hkind : Replaceable.ofHead? (h.respell p.written) = Replaceable.ofHead? h := by
    cases h <;> rfl
  unfold nodeText
  rw [hkind, plainText_sparing]
  cases hwriter : (Replaceable.ofHead? h).bind p.writers with
  | none =>
    have hsparing : (Replaceable.ofHead? h).bind p.sparing.writers = none := hwriter
    rw [hsparing]
  | some w =>
    have hsparing : (Replaceable.ofHead? h).bind p.sparing.writers = some w := hwriter
    rw [hsparing]
    obtain ⟨kind, -, hw⟩ := Option.bind_eq_some_iff.1 hwriter
    have hignores := hwriters kind w hw p.target p.style p.written (.mk h c (parts.map Part.node))
      (parts.map fun q => p.full q.rendered)
    rw [Node.respell, Node.respellAll_eq_map, List.map_map] at hignores
    simp only [List.map_map]
    exact hignores

theorem compose_sparing (hwriters : ∀ kind w, p.writers kind = some w → w.IgnoresQuotes)
    (ctx : Context) (h : Head) (c : List String) (parts : List Part) :
    p.sparing.compose ctx (h.respell p.written) c (parts.map (Part.respell p.written)) =
      p.compose ctx h c parts := by
  have hargs : (parts.map (Part.respell p.written)).map (fun q => p.sparing.full q.rendered) =
      parts.map fun q => p.full q.rendered := by
    rw [List.map_map]
    rfl
  have hdot : (h.respell p.written == .dot) = (h == .dot) := Head.steady_beq rfl p.written h
  have hseparates : separates (h.respell p.written) = separates h :=
    steady_of_mem (by simp [Head.partTests]) p.written h
  have hpieces (args : List Layout) : piecesOf (h.respell p.written) args = piecesOf h args := by
    cases h <;> rfl
  have husual :
      ({ body := p.sparing.nodeText ctx (h.respell p.written) c (parts.map (Part.respell p.written))
         comments := if h.respell p.written == .dot then [] else c
         separated := separates (h.respell p.written)
         pieces := piecesOf (h.respell p.written)
          ((parts.map (Part.respell p.written)).map fun q => p.sparing.full q.rendered) } :
        Rendered) =
      { body := p.nodeText ctx h c parts
        comments := if h == .dot then [] else c
        separated := separates h
        pieces := piecesOf h (parts.map fun q => p.full q.rendered) } := by
    rw [p.nodeText_sparing hwriters, hdot, hseparates, hargs, hpieces]
  cases h with
  | select => exact p.selectQuery_sparing parts c
  | setOperation op distinct byName => exact p.setOperation_sparing parts op distinct byName c
  | cte label materialized =>
    exact congrArg (fun a => ({ body := a } : Rendered))
      (p.withItem_sparing parts label materialized c)
  | binary op =>
    rcases parts with _ | ⟨l, _ | ⟨r, _ | ⟨q, rest⟩⟩⟩
    · cases op <;> rfl
    · cases op <;> rfl
    · cases op <;> rfl
    · cases op <;> rfl
  | _ => exact husual

/-! ## Trees -/

theorem inside_respell (ctx : Context) (h : Head) (ns : List Node) :
    ctx.inside (h.respell f) (ns.map (Node.respell f)) = ctx.inside h ns := by
  have hframe : (ns.map (Node.respell f)).any (fun n => n.head.isFrame) =
      ns.any fun n => n.head.isFrame := by
    rw [List.any_map]
    refine congrArg ns.any (funext fun n => ?_)
    rw [Function.comp_apply, Node.head_respell]
    exact steady_of_mem (by simp [Head.partTests]) f n.head
  unfold Context.inside
  rw [hframe]
  cases h <;> rfl

theorem flatOrder_respell (parent : Head) (q : Part) :
    flatOrder (parent.respell f) (q.respell f) = (flatOrder parent q).respell f := by
  obtain ⟨n, r⟩ := q
  obtain ⟨h, c, ps⟩ := n
  cases parent with
  | window => cases h <;> rfl
  | keep => cases h <;> rfl
  | windowDefinition => cases h <;> rfl
  | orderedArg => cases h <;> rfl
  | _ => rfl

section

variable (hwriters : ∀ kind w, p.writers kind = some w → w.IgnoresQuotes)
include hwriters

theorem render_sparing (n : Node) (ctx : Context) :
    p.sparing.render ctx (n.respell p.written) = p.render ctx n := by
  induction n using Node.induction_parts generalizing ctx with
  | step n ih =>
    obtain ⟨h, c, ps⟩ := n
    have hparts (ctx : Context) (parent : Head) :
        renderAll p.sparing ctx (parent.respell p.written) (Node.respellAll p.written ps) =
          (renderAll p ctx parent ps).map (Part.respell p.written) := by
      rw [Node.parts_mk] at ih
      induction ps with
      | nil => rfl
      | cons m ms ihms =>
        rw [Node.respellAll, renderAll, renderAll, List.map_cons, ih m (by simp),
          ihms fun q hq => ih q (by simp [hq]), ← flatOrder_respell]
        rfl
    rw [Node.respell, render, render, hparts, Node.respellAll_eq_map, inside_respell,
      p.compose_sparing hwriters]

/-- Forced quotes give the text of the tree in which the names have their quotes already. -/
theorem layout_sparing (n : Node) : p.sparing.layout (n.respell p.written) = p.layout n := by
  rw [layout, p.render_sparing hwriters]
  rfl

end

end Printer

end SemanticLayer.Sql
