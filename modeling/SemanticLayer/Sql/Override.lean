import SemanticLayer.Sql.Printer

/-!
# Overrides

Some kinds of nodes are written for one database in a way of its own. An *override* is such a way,
kept under the name of the database and the kind of the node.

* MySQL rejects the words SYMMETRIC and ASYMMETRIC, and an AND in the lower bound of BETWEEN must
  not be taken for the one that separates the bounds.
* Oracle reads every TRUNC as a cut of a date, by day unless it says otherwise. A number takes no
  unit, so the unit that was filled in is left out again.
-/

namespace SemanticLayer.Sql

namespace NodeWriter

/-- BETWEEN without flags; a lower bound with an AND in it stands in parentheses. -/
def plainBetween : NodeWriter := fun _ _ n texts =>
  match n.head, texts with
  | .between _ guarded, [this, low, high] =>
    this ++ " BETWEEN " ++ (if guarded then "(" ++ low ++ ")" else low) ++ " AND " ++ high
  | _, _ => .concatSep " " texts

/-- A number, perhaps with minus signs in front. -/
def isNumber : Node → Bool
  | .mk (.number _) _ _ => true
  | .mk (.unary .minus) _ [n] => isNumber n
  | _ => false

/-- Whether a node is a number whatever its operands are. -/
def isNumeric (n : Node) : Bool :=
  match n.head with
  | .extract | .binary (.divide ..) | .binary .multiply | .binary .modulo => true
  | _ => isNumber n

/-- TRUNC; a number is cut without the unit of days. -/
def numericTrunc : NodeWriter := fun target style n texts =>
  let p : Printer := { target, style }
  match n.parts, texts with
  | [this, .mk (.string unit) _ _], [value, _] =>
    if isNumeric this && Text.upper unit == "DD" then p.call "TRUNC" [value]
    else p.call "TRUNC" texts
  | _, _ => p.call "TRUNC" texts

end NodeWriter

/-! ## Tables of overrides -/

/-- Writers by the name of the database and the kind of node, at most one for each. -/
structure OverrideTable (κ ω : Type) where
  entries : List ((String × κ) × ω)
  distinct : (entries.map Prod.fst).Nodup

namespace OverrideTable

variable {κ ω : Type} [DecidableEq κ]

/-- The overrides without the one for a database and a kind. -/
def erase (o : OverrideTable κ ω) (database : String) (kind : κ) : OverrideTable κ ω where
  entries := o.entries.filter fun e => e.1 != (database, kind)
  distinct := o.distinct.sublist (List.filter_sublist.map Prod.fst)

/-- The overrides with a further one, which takes the place of the one before. -/
def insert (o : OverrideTable κ ω) (database : String) (kind : κ) (w : ω) : OverrideTable κ ω where
  entries := ((database, kind), w) :: (o.erase database kind).entries
  distinct := by
    refine List.nodup_cons.mpr ⟨fun h => ?_, (o.erase database kind).distinct⟩
    obtain ⟨e, he, heq⟩ := List.mem_map.mp h
    have hne : e.1 ≠ (database, kind) := by simpa using (List.mem_filter.mp he).2
    exact hne heq

def get? (o : OverrideTable κ ω) (database : String) (kind : κ) : Option ω :=
  o.entries.lookup (database, kind)

def ofDatabase (o : OverrideTable κ ω) (database : String) : List (κ × ω) :=
  o.entries.filterMap fun e => if e.1.1 == database then some (e.1.2, e.2) else none

end OverrideTable

/-- The writers that stand for the usual ones. -/
abbrev Overrides := OverrideTable Replaceable NodeWriter

/-- The overrides of the databases known here. -/
def Overrides.standard : Overrides where
  entries := [(("mysql", .between), NodeWriter.plainBetween),
    (("oracle", .dateTrunc), NodeWriter.numericTrunc)]
  distinct := by decide

end SemanticLayer.Sql
