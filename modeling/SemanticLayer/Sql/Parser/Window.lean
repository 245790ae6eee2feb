import SemanticLayer.Sql.Parser.Clause
import SemanticLayer.Sql.Signature

/-!
# Windows

What may follow a call: the rows it sees and their order.
-/

namespace SemanticLayer.Sql.Parser

/-- One end of a window frame, and the expression that measures it. -/
def frameBound (R : Rules) : Rule .clause (FrameBound × List Node) := do
  let _ ← accept "BETWEEN"
  let (word, parts) ← do
    if ← accept "UNBOUNDED" then pure (some "UNBOUNDED", [])
    else if ← acceptAll ["CURRENT", "ROW"] then pure (some "CURRENT ROW", [])
    else pure (none, (← R.bitwise).toList)
  let side := (← acceptOne ["PRECEDING", "FOLLOWING"]).map Token.text
  return ({ word, side }, parts)

/-- The rows that EXCLUDE leaves out of a frame. -/
def exclusion : Rule .clause (Option String) := do
  match ← peek with
  | none => return none
  | some t =>
    if Text.upper t.text != "EXCLUDE" then return none
    advance
    if ← acceptAll ["NO", "OTHERS"] then return some "NO OTHERS"
    else if ← acceptAll ["CURRENT", "ROW"] then return some "CURRENT ROW"
    else match ← acceptOne ["GROUP", "TIES"] with
      | some u => return some u.key
      | none => reject

def frame (R : Rules) : Rule .clause (List Node) := do
  match ← acceptOne ["ROWS", "RANGE"] with
  | none => return []
  | some t =>
    let _ ← accept "BETWEEN"
    let (start, first) ← frameBound R
    if ← accept "AND" then
      let (stop, second) ← frameBound R
      let exclude ← exclusion
      return [← node (.frame t.text start (some stop) exclude) (first ++ second)]
    else
      let exclude ← exclusion
      return [← node (.frame t.text start none exclude) first]

/-- The name of a window to start from. -/
def windowBase (R : Rules) : Rule .clause (Option Ident) := do
  let base ← name false fun k => R.grammar.isName k && !(["ROWS", "RANGE"].contains k)
  return base.bind identOf

/-- PARTITION BY, ORDER BY and the frame of a window. -/
def windowParts (R : Rules) : Rule .clause (List Node) := do
  let partition ← do
    if ← accept "PARTITION BY" then pure [Node.of .partitionBy (← list R.assignment)] else pure []
  let order ← orderBy R
  let frames ← frame R
  return partition ++ order.toList ++ frames

/-- What stands in the parentheses of a window. -/
def windowBody (R : Rules) : Rule .clause (Option Ident × List Node) := do
  return (← windowBase R, ← windowParts R)

/-- IGNORE NULLS or RESPECT NULLS. -/
def nullTreatment : Rule .operand (Option String) := do
  if ← acceptAll ["IGNORE", "NULLS"] then return some "IGNORE NULLS"
  else if ← acceptAll ["RESPECT", "NULLS"] then return some "RESPECT NULLS"
  else return none

/-- A node with what is said about nulls after it. -/
def withNulls (treatment : Option String) (n : Node) : Node :=
  match treatment with
  | some keyword => .of (.nullsArg keyword) [n]
  | none => n

/-- An argument without what is said about nulls after it. -/
def withoutNulls : Node → Node
  | .mk (.nullsArg _) _ [n] => n
  | .mk .orderedArg c (n :: ps) => .mk .orderedArg c (withoutNulls n :: ps)
  | n => n

/-- What is said about nulls after an argument. -/
def nullsOf : Node → Option String
  | .mk (.nullsArg keyword) _ _ => some keyword
  | .mk .orderedArg _ (n :: _) => nullsOf n
  | _ => none

/-- A function of rows says after its call what is said about nulls inside. -/
def liftNulls (called : Node) : Node :=
  match called with
  | .mk (.call (.known kind name)) c args =>
    match args.findSome? nullsOf with
    | some keyword =>
      if Signature.aggregates.contains kind then
        .of (.nullsArg keyword) [.mk (.call (.known kind name)) c (args.map withoutNulls)]
      else called
    | none => called
  | n => n

/-- The rows of a group that KEEP gives to a call, after the keyword. -/
def keptRows (R : Rules) : Rule .clause (Head × List Node) := do
  let base ← windowBase R
  let word := (← acceptOne ["FIRST", "LAST"]).map Token.key
  return (.keep base word, ← windowParts R)

/-- What may follow a call: WITHIN GROUP, FILTER and OVER or KEEP. The comments of the call go to
its window. Says whether another window may follow. -/
def windowedOnce (R : Rules) (called : Node) : Rule .operand (Node × Bool) := do
  let group ← do
    if ← acceptAll ["WITHIN", "GROUP"] then
      let order ← wrapped (orderBy R)
      pure fun n => Node.of .withinGroup (n :: order.toList)
    else pure liftNulls
  let filtered ← do
    if (← peekKey) == "FILTER" && (← peekSecondKey) == "(" then
      advance
      let condition ← wrapped do
        let _ ← accept "WHERE"
        need (← R.assignment)
      pure fun n => Node.of .filter [n, .of .whereClause [condition]]
    else pure id
  let treatment ← nullTreatment
  let whole := fun n => withNulls treatment (filtered (group n))
  let bare := whole (called.setComments [])
  if ← accept "OVER" then
    if (← peekKey) == "(" then
      let (base, parts) ← wrapped (windowBody R)
      return (← nodeWith called.comments (.window base) (bare :: parts), true)
    else
      let named ← name false R.grammar.isName
      return (← nodeWith called.comments (.window (named.bind identOf)) [bare], false)
  else if ← acceptIf R.grammar.hasKeep "KEEP" then
    if (← peekKey) == "(" then
      let (head, parts) ← wrapped (keptRows R)
      return (← nodeWith called.comments head (bare :: parts), true)
    else
      let named ← name false R.grammar.isName
      return (← nodeWith called.comments (.keep (named.bind identOf) none) [bare], false)
  else return (whole called, false)

/-- A call with all the windows after it. -/
def windowed (R : Rules) (called : Node) : Rule .operand Node := do
  let whole ← chain (fun (n, more) => do
    let next ← peekKey
    if more && (next == "OVER" || R.grammar.hasKeep && next == "KEEP") then
      return some (← windowedOnce R n)
    else return none) (← windowedOnce R called)
  return whole.1

end SemanticLayer.Sql.Parser
