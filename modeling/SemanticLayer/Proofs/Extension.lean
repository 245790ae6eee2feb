import SemanticLayer.Query.Extension

/-!
# What an extended query shares with the query

`Extended new n n'` says, clause by clause, that `n'` is the query `n` with the items `new` in front
of those of its WITH clause: the statement, its comments and all other clauses are the same ones in
the same order, and a WITH clause that was there keeps its kind and its comments. `prepend` extends
every query in this sense, and no tree but its result does.
-/

namespace SemanticLayer.Query

open Sql

/-- The query `n'` is `n` with the items `new` in front of those of its WITH clause. -/
inductive Extended (new : List Node) : Node → Node → Prop where
  /-- A query without a WITH clause gets a plain one. -/
  | fresh {h : Head} {c : List String} {clauses : List Node} :
      (∀ p ∈ clauses, p.head.isWith = false) →
      Extended new (.mk h c clauses) (.mk h c (.mk (.withClause false) [] new :: clauses))
  /-- The first WITH clause of a query takes the items. -/
  | joined {h : Head} {c d : List String} {before after own : List Node} {recursive : Bool} :
      (∀ p ∈ before, p.head.isWith = false) →
      Extended new (.mk h c (before ++ .mk (.withClause recursive) d own :: after))
        (.mk h c (before ++ .mk (.withClause recursive) d (new ++ own) :: after))

/-- The names of the items of the WITH clause of a query. -/
def itemNames (n : Node) : List String := (items n).filterMap itemName?

/-- Whether a query has a WITH clause that is recursive. -/
def isRecursive (n : Node) : Bool := (n.find? Head.isWith).any fun w => w.head == .withClause true

/-- The clauses of a query besides WITH. -/
def otherClauses (n : Node) : List Node := n.parts.filter fun p => !p.head.isWith

/-! ## The first WITH clause -/

/-- A WITH clause is a node with the head of one. -/
theorem eq_mk_of_isWith {w : Node} (h : w.head.isWith = true) :
    ∃ recursive c own, w = .mk (.withClause recursive) c own := by
  obtain ⟨k, c, own⟩ := w
  cases k with
  | withClause recursive => exact ⟨recursive, c, own, rfl⟩
  | _ => nomatch h

/-- Clauses without WITH in front of a WITH clause are passed over. -/
theorem prependTo_append (new : List Node) {before after : List Node} {w : Node}
    (hbefore : ∀ p ∈ before, p.head.isWith = false) (hw : w.head.isWith = true) :
    prependTo new (before ++ w :: after) = before ++ w.setParts (new ++ w.parts) :: after := by
  induction before with
  | nil => simp [prependTo, hw]
  | cons p before ih =>
    rw [List.cons_append, prependTo, hbefore p List.mem_cons_self, ih fun q hq =>
      hbefore q (List.mem_cons_of_mem p hq)]
    rfl

/-- The clauses of a query have no WITH among them, or a first one. -/
theorem clauses_cases (ps : List Node) :
    (∀ p ∈ ps, p.head.isWith = false) ∨
      ∃ before w after, ps = before ++ w :: after ∧ (∀ p ∈ before, p.head.isWith = false) ∧
        w.head.isWith = true := by
  cases hfind : ps.find? (fun p => p.head.isWith) with
  | none => exact .inl fun p hp => Bool.eq_false_iff.2 (List.find?_eq_none.1 hfind p hp)
  | some w =>
    obtain ⟨hw, before, after, rfl, hbefore⟩ := List.find?_eq_some_iff_append.1 hfind
    refine .inr ⟨before, w, after, rfl, fun p hp => ?_, hw⟩
    simpa using hbefore p hp

/-- A query without a WITH clause has none that could be found. -/
theorem find?_isWith_eq_none {h : Head} {c : List String} {ps : List Node}
    (hps : ∀ p ∈ ps, p.head.isWith = false) : (Node.mk h c ps).find? Head.isWith = none :=
  List.find?_eq_none.2 fun p hp => by simp [hps p hp]

/-- The WITH clause that is found is the first one. -/
theorem find?_isWith_eq_some {h : Head} {c : List String} {before after : List Node} {w : Node}
    (hbefore : ∀ p ∈ before, p.head.isWith = false) (hw : w.head.isWith = true) :
    (Node.mk h c (before ++ w :: after)).find? Head.isWith = some w :=
  List.find?_eq_some_iff_append.2
    ⟨hw, before, after, rfl, fun p hp => by simp [hbefore p hp]⟩

/-! ## Extending -/

/-- A query without a WITH clause gets one in front of its clauses. -/
theorem prepend_of_none (new : List Node) {h : Head} {c : List String} {ps : List Node}
    (hps : ∀ p ∈ ps, p.head.isWith = false) :
    prepend new (.mk h c ps) = .mk h c (.mk (.withClause false) [] new :: ps) := by
  rw [prepend, find?_isWith_eq_none hps]
  rfl

/-- In a query with a WITH clause only the items of the first one change. -/
theorem prepend_of_first (new : List Node) {h : Head} {c : List String}
    {before after : List Node} {w : Node} (hbefore : ∀ p ∈ before, p.head.isWith = false)
    (hw : w.head.isWith = true) :
    prepend new (.mk h c (before ++ w :: after)) =
      .mk h c (before ++ w.setParts (new ++ w.parts) :: after) := by
  rw [prepend, find?_isWith_eq_some hbefore hw, Option.isSome_some, if_pos rfl, Node.parts_mk,
    prependTo_append new hbefore hw]
  rfl

/-- `prepend` extends a query. -/
theorem prepend_extended (new : List Node) (n : Node) : Extended new n (prepend new n) := by
  obtain ⟨h, c, ps⟩ := n
  rcases clauses_cases ps with hps | ⟨before, w, after, rfl, hbefore, hw⟩
  · rw [prepend_of_none new hps]
    exact .fresh hps
  · rw [prepend_of_first new hbefore hw]
    obtain ⟨recursive, d, own, rfl⟩ := eq_mk_of_isWith hw
    exact .joined hbefore

/-- The extended query is determined by the query and the items. -/
theorem Extended.eq_prepend {new : List Node} {n n' : Node} (h : Extended new n n') :
    n' = prepend new n := by
  cases h with
  | fresh hps => exact (prepend_of_none new hps).symm
  | joined hbefore => exact (prepend_of_first new (w := .mk (.withClause _) _ _) hbefore rfl).symm

section

variable {new : List Node} {n n' : Node} (h : Extended new n n')
include h

/-- The statement stays the same. -/
theorem Extended.head_eq : n'.head = n.head := by cases h <;> rfl

/-- The comments of the statement stay the same. -/
theorem Extended.comments_eq : n'.comments = n.comments := by cases h <;> rfl

/-- The WITH clause of an extended query is of the kind that the query asks for and holds the new
items in front of those of the query. -/
theorem Extended.find?_isWith :
    ∃ d, n'.find? Head.isWith = some (.mk (.withClause (isRecursive n)) d (new ++ items n)) := by
  cases h with
  | fresh hps =>
    rw [isRecursive, items, find?_isWith_eq_none hps]
    exact ⟨[], congrArg (fun own => some (Node.mk _ [] own)) (List.append_nil new).symm⟩
  | joined hbefore =>
    rename_i recursive
    rw [isRecursive, items, find?_isWith_eq_some hbefore rfl, find?_isWith_eq_some hbefore rfl]
    cases recursive with
    | false => exact ⟨_, rfl⟩
    | true => exact ⟨_, rfl⟩

/-- The new items come first, then those of the query in their order. -/
theorem Extended.items_eq : items n' = new ++ items n := by
  obtain ⟨d, hwith⟩ := h.find?_isWith
  rw [items, hwith]
  rfl

/-- A WITH clause is recursive exactly if the one of the query is. -/
theorem Extended.isRecursive_eq : isRecursive n' = isRecursive n := by
  obtain ⟨d, hwith⟩ := h.find?_isWith
  rw [isRecursive, hwith, Option.any_some, Node.head_mk]
  cases isRecursive n with
  | false => rfl
  | true => rfl

/-- All other clauses stay the same, in their order. -/
theorem Extended.otherClauses_eq : otherClauses n' = otherClauses n := by
  cases h with
  | fresh hps => simp [otherClauses, Head.isWith]
  | joined hbefore => simp [otherClauses, Head.isWith]

/-- The names of the new items come first, then those of the query's own. -/
theorem Extended.itemNames_eq : itemNames n' = new.filterMap itemName? ++ itemNames n := by
  rw [itemNames, h.items_eq, List.filterMap_append, itemNames]

end

/-- A WITH item has the name it was made for. -/
@[simp] theorem itemName?_item (name : String) (body : Node) :
    itemName? (item name body) = some name := rfl

/-- A WITH item holds the query it was made for, and nothing else. -/
@[simp] theorem parts_item (name : String) (body : Node) : (item name body).parts = [body] := rfl

end SemanticLayer.Query
