import SemanticLayer.Sql.Lowering.Function
import SemanticLayer.Sql.Lowering.Query

/-!
# Fitting a tree to a target

`lower` replaces what a target does not have by what it has, so that the printer only has to write
the tree down: joined strings by a call, a comparison without regard to case by one in lower case,
IF by CASE, and so on. Nodes that every target has stay as they are.
-/

namespace SemanticLayer.Sql

namespace Lowering

/-- Where a node stands, as far as its fitting depends on it. -/
structure Site where
  /-- The head of the node around this one. -/
  parent : Head := .semicolon
  /-- The node is part of the chain of operations around it. -/
  chained : Bool := false
  /-- A FROM clause or a join is around. -/
  within : Bool := false

namespace Site

/-- Where the parts of a node stand. -/
def inside (s : Site) (h : Head) : Site :=
  { parent := h, chained := false, within := s.within || h.isFrom || h.isJoin }

end Site

/-- Functions of rows inside whose calls something may be said about nulls. -/
def nullKinds : List String := ["FIRSTVALUE", "LAG", "LASTVALUE", "LEAD", "NTHVALUE"]

/-- The arguments of a call with what is said about nulls after the last one. -/
def nullsInside (keyword : String) : List Node → List Node
  | [] => []
  | [.mk .orderedArg c (n :: ps)] => [.mk .orderedArg c (.of (.nullsArg keyword) [n] :: ps)]
  | [n] => [.of (.nullsArg keyword) [n]]
  | n :: m :: ns => n :: nullsInside keyword (m :: ns)

/-- What is said about nulls, inside the call or after it. -/
def nullTreatment (t : Target) (c : List String) (keyword : String) (this : Node) : Node :=
  if !t.nullsInCall then .mk (.nullsArg keyword) c [this]
  else match this with
    | .mk (.call (.known kind name)) d args =>
      if nullKinds.contains kind then
        .mk (.call (.known kind name)) d (nullsInside keyword args)
      else this
    | n => n

/-- A function of an ordered group. Where the order stands inside the call, a percentile takes the
first key of the order as its value. -/
def orderedGroup (t : Target) (c : List String) (ps : List Node) : Node :=
  let same := Node.mk .withinGroup c ps
  match ps with
  | [.mk (.call (.known kind name)) d (fraction :: _), order] =>
    if t.ordersInCall && ["PERCENTILECONT", "PERCENTILEDISC"].contains kind then
      match order.parts.head?.bind fun n => n.parts.head? with
      | some key => .mk .withinGroup c [.mk (.call (.known kind name)) d [key, fraction], order]
      | none => same
    else same
  | _ => same

/-- A part of a JSON value, in the target's syntax. -/
def jsonPart (t : Target) (parent : Head) (c : List String) (scalar arrow : Bool)
    (this path : Node) (more : List Node) : Node :=
  let name := if scalar then "JSON_EXTRACT_SCALAR" else "JSON_EXTRACT"
  let kind := if scalar then "JSONEXTRACTSCALAR" else "JSONEXTRACT"
  let text := match path.head with
    | .jsonPath steps => Node.text (JsonPath.write steps)
    | _ => path
  match t.functions with
  | .duckdb =>
    let whole := Node.mk (.jsonExtract scalar true) c [this, text]
    let guarded := match parent with
      | .binary _ | .unary .not | .inList | .inQuery | .inField | .index => true
      | _ => false
    if guarded then .of .paren [whole] else whole
  | .mysql =>
    if scalar then .mk (.jsonExtract true true) c [this, text]
    else .mk (.call (.known kind name)) c ([this, text] ++ more)
  | .postgres =>
    let segment (s : PathStep) : Node := match s with
      | .index i => if arrow then Arithmetic.literal i else .text (toString i)
      | s => .text (JsonPath.stepName s)
    match path.head, arrow with
    | .jsonPath steps, true =>
      steps.foldl (fun n s => .of (.jsonExtract scalar true) [n, segment s]) this
    | .jsonPath steps, false =>
      .mk (.call (.known kind (if scalar then "JSON_EXTRACT_PATH_TEXT" else "JSON_EXTRACT_PATH"))) c
        (this :: steps.map segment)
    | _, true => .mk (.jsonExtract scalar true) c [this, path]
    | _, false =>
      .mk (.call (.known kind (if scalar then "JSON_EXTRACT_PATH_TEXT" else "JSON_EXTRACT_PATH"))) c
        [this, path]
  | _ => .mk (.call (.known kind name)) c ([this, text] ++ more)

/-- The functions for the operators that ask for keys of JSON values. -/
def keyFunction? : BinaryOp → Option (String × String)
  | .atPath => some ("JSONBEXTRACT", "JSONB_EXTRACT")
  | .textAtPath => some ("JSONBEXTRACTSCALAR", "JSONB_EXTRACT_SCALAR")
  | .hasKey => some ("JSONBCONTAINS", "JSONB_CONTAINS")
  | _ => none

/-- An operation with two operands, fitted to the target. -/
def fitBinary (t : Target) (parent : Head) (c : List String) (op : BinaryOp) (ps : List Node) :
    Node :=
  let same := Node.mk (.binary op) c ps
  match op, ps with
  | .join, _ => if t.pipesJoin then same else .mk (.call .concat) c (joinOperandsAll ps)
  | .like, [this, right] =>
    if t.likeQuantifiers then same else (spelledQuantifier parent op this right).getD same
  | .ilike, [this, right] =>
    if !t.hasIlike then .of (.binary .like) (ps.map fun p => plainCall "LOWER" [p])
    else if t.likeQuantifiers then same
    else (spelledQuantifier parent op this right).getD same
  | .distinctFrom, _ =>
    if t.hasDistinctFrom then same else .of (.unary .not) [.of (.binary .nullSafeEqual) ps]
  | .matchesPattern, _ => patternMatch t c false ps
  | .matchesAnyCase, _ => patternMatch t c true ps
  | .intDivide, _ => integerDivision t c ps
  | .bitXor, _ => if t.bitXorIsCall then .mk (.call (.known "BITWISEXOR" t.bitXor)) c ps else same
  | .xor, [a, b] => if t.hasXor then same else exactlyOne a b
  | _, _ =>
    match if t.jsonOperators then none else keyFunction? op with
    | some (kind, name) => .mk (.call (.known kind name)) c ps
    | none => same

/-- An item of a hint whose arguments are divided by blanks. -/
def hintItem : Node → Node
  | .mk (.call (.unknown name _)) c ps => .mk (.hintCall name) c ps
  | n => n

/-- One node fitted to the target, given its fitted parts. -/
def fit (t : Target) (s : Site) (h : Head) (c : List String) (ps : List Node) : Node :=
  let same := Node.mk h c ps
  match h, ps with
  | .binary op, _ => fitBinary t s.parent c op ps
  | .hint, _ => if t.functions == .oracle then .mk h c (ps.map hintItem) else same
  | .ifThen, condition :: value :: rest =>
    .mk .caseOf c (.of .caseArm [condition, value] ::
      (rest.take 1).map fun e => .of .caseElse [e])
  | .distinctArgs, _ =>
    if !t.manyDistinct && ps.length > 1 then .mk h c [oneDistinct ps] else same
  | .call (.known kind name), _ => fitKnown t c kind name ps
  | .call .joinGroup, _ => joinGroup t c ps
  | .cast lenient, _ => conversion t c lenient ps
  | .extract, part :: rest =>
    if t.usualDateParts then .mk h c (usualPart part :: rest) else same
  | .atTimeZone, this :: _ => if t.hasTimeZones then same else this
  | .nullsArg keyword, [this] => nullTreatment t c keyword this
  | .withinGroup, _ => orderedGroup t c ps
  | .frame kind start stop _, _ =>
    if t.frameExclusion then same else .mk (.frame kind start stop none) c ps
  | .index, this :: positions => .mk h c (this :: Arithmetic.moved t.firstIndex positions)
  | .jsonExtract scalar arrow, this :: path :: more =>
    jsonPart t s.parent c scalar arrow this path more
  | .select, _ => fitSelect t c ps
  | .setOperation .., _ | .subquery _, _ | .table .., _ | .tableCall .., _ =>
    .mk h c (queryParts t ps)
  | .record, _ => fitRecord t c ps
  | .pivot .., _ | .pivotQuery _, _ =>
    if t.functions == .duckdb then .mk h c (unqualifiedAll ps) else same
  | .lateralView _ label, [view] =>
    if t.functions == .duckdb then (unnestView label view).getD same else same
  | .values label, _ =>
    if t.valuesAsTable || !s.within then same else (valuesUnion label ps).getD same
  | _, _ => same

/-- Whether an AND in the lower bound of a BETWEEN could be taken for the one between its bounds. -/
def guardsBound : List Node → Bool
  | [_, low, _] => low.head != .paren && low.any Head.isAnd
  | _ => false

mutual

/-- The tree fitted to the target. Inside a chain of divisions or joined strings only the outermost
operation is fitted. BETWEEN keeps in mind what its lower bound was before. -/
def lowerIn (t : Target) (s : Site) : Node → Node
  | .mk h c ps =>
    match h with
    | .binary (.divide typed safe) =>
      let real := needsRealOperand t typed ps
      let chained := s.chained && s.parent.isDivision
      let inner := lowerAll t { s.inside h with chained := chained || !real } ps
      if chained then .mk h c inner else .mk h c (division t safe real inner)
    | .binary .join =>
      let inner := lowerAll t { s.inside h with chained := true } ps
      if s.chained && s.parent == h then .mk h c inner else fit t s h c inner
    | .between symmetric _ =>
      .mk (.between symmetric (guardsBound ps)) c (lowerAll t (s.inside h) ps)
    | _ => fit t s h c (lowerAll t (s.inside h) ps)

/-- The trees fitted to the target. -/
def lowerAll (t : Target) (s : Site) : List Node → List Node
  | [] => []
  | n :: ns => lowerIn t s n :: lowerAll t s ns

end

/-! ## Tables without names -/

/-- The alias of a table, which takes the next number if it names only the columns. -/
def numberAlias (a : TableAlias) : StateM Nat TableAlias := do
  if a.name.isSome || a.columns.isEmpty then return a
  let place ← get
  set (place + 1)
  return { a with place }

/-- A head whose alias, if it has one, has its number. -/
def numberHead : Head → StateM Nat Head
  | .subquery label => return .subquery (← label.mapM numberAlias)
  | .table path label => return .table path (← label.mapM numberAlias)
  | .tableCall path label ordinality =>
    return .tableCall path (← label.mapM numberAlias) ordinality
  | .values label => return .values (← label.mapM numberAlias)
  | .unnest label ordinality => return .unnest (← label.mapM numberAlias) ordinality
  | .lateral apply label => return .lateral apply (← label.mapM numberAlias)
  | .pivot back nulls label => return .pivot back nulls (← label.mapM numberAlias)
  | h => return h

mutual

/-- The tree with its tables without names numbered from the left, a WITH clause after the rest
of its query. -/
def numberTables : Node → StateM Nat Node
  | .mk h c ps => do
    let h ← numberHead h
    let body ← numberTablesAll false ps
    let clauses ← numberTablesAll true ps
    return .mk h c (List.zipWith (fun n w => if w.head.isWith then w else n) body clauses)

/-- The trees, of which those that are WITH clauses or those that are none have their tables
without names numbered. -/
def numberTablesAll (clauses : Bool) : List Node → StateM Nat (List Node)
  | [] => return []
  | n :: ns => do
    let n ← if n.head.isWith == clauses then numberTables n else pure n
    return n :: (← numberTablesAll clauses ns)

end

end Lowering

/-- The tree fitted to the target. -/
def Node.lower (t : Target) (n : Node) : Node :=
  ((Lowering.numberTables (Lowering.lowerIn t {} n)).run 0).1

end SemanticLayer.Sql
