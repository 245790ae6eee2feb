import SemanticLayer.Proofs.Names

/-!
# The walk and the full scan

The walk over a tree leaves out some parts of some nodes. `Skipped` lists these parts, one kind of
node after the other, and `skipped_iff` shows that the list is complete. So a table of the tree is
one that the walk finds, or it stands below a part of the list (`reached_or_below_skipped`). Where
no table stands below such a part, the walk finds what a look at every node finds.
-/

namespace SemanticLayer

/-- A table or a table function. -/
def Sql.Head.isTable : Sql.Head → Bool
  | table .. | tableCall .. => true
  | _ => false

namespace Query

open Sql

/-- The node is a table of the name, and nothing qualifies the name. -/
def IsUnqualifiedTable (name : String) (n : Node) : Prop :=
  ∃ id label, n.head = .table [id] label ∧ id.name = name

/-- The parts that the walk leaves out: for a node and the place and the kind of a part of it. -/
inductive Skipped : Head → Nat → Head → Prop where
  /-- Of a SELECT, what is neither WITH, the list of columns, FROM, a join, a lateral table, WHERE,
  GROUP BY, HAVING, QUALIFY nor ORDER BY. -/
  | clause {i : Nat} {k : Head} :
      (k.isWith || k.isProjections || k.isFrom || k.isJoin || k.isLateral || k.isWhere ||
        k.isGroup || k.isHaving || k.isQualify || k.isOrder) = false → Skipped .select i k
  /-- Of a set operation, what is neither WITH nor one of the two operands. -/
  | beyondOperands {op : String} {distinct byName : Bool} {i : Nat} {k : Head} :
      2 ≤ i → k.isWith = false → Skipped (.setOperation op distinct byName) i k
  /-- Everything that belongs to a table with a name. -/
  | ofTable {path : List Ident} {label : Option TableAlias} {i : Nat} {k : Head} :
      Skipped (.table path label) i k
  /-- Of a table function, what stands beside the call. -/
  | besideCall {path : List Ident} {label : Option TableAlias} {ordinality : Bool} {i : Nat}
      {k : Head} : 0 < i → Skipped (.tableCall path label ordinality) i k
  /-- Of a join, what is neither the table nor the condition after ON. -/
  | besideJoined {method side kind : String} {i : Nat} {k : Head} :
      0 < i → k.isOn = false → Skipped (.join method side kind) i k
  /-- Of a subquery, what stands beside the query. -/
  | besideQuery {label : Option TableAlias} {i : Nat} {k : Head} :
      0 < i → Skipped (.subquery label) i k
  /-- Of FROM, what stands beside its table. -/
  | besideSource {i : Nat} {k : Head} : 0 < i → Skipped .fromClause i k
  /-- Of WHERE, what stands beside its condition. -/
  | besideCondition {i : Nat} {k : Head} : 0 < i → Skipped .whereClause i k
  /-- Of HAVING, what stands beside its condition. -/
  | besideGroupCondition {i : Nat} {k : Head} : 0 < i → Skipped .having i k

/-- The clauses of a SELECT that are followed. -/
theorem isFollowedClause_eq (k : Head) :
    isFollowedClause k =
      (k.isWith || k.isProjections || k.isFrom || k.isJoin || k.isLateral || k.isWhere ||
        k.isGroup || k.isHaving || k.isQualify || k.isOrder) := by
  cases k <;> rfl

/-- The list is complete: the walk leaves out these parts and no others. -/
theorem skipped_iff {h k : Head} {i : Nat} : Skipped h i k ↔ follows h i k = false := by
  constructor
  · intro hskip
    cases hskip with
    | clause hk => exact (isFollowedClause_eq k).trans hk
    | beyondOperands hi hwith =>
      rw [follows, hwith, Bool.or_false, decide_eq_false_iff_not, Nat.not_lt]
      exact hi
    | ofTable => rfl
    | besideJoined hi hon => simp [follows, hon, Nat.ne_of_gt hi]
    | besideCall hi | besideQuery hi | besideSource hi | besideCondition hi
    | besideGroupCondition hi => simp [follows, Nat.ne_of_gt hi]
  · intro hfollows
    cases h with
    | select => exact .clause ((isFollowedClause_eq k).symm.trans hfollows)
    | setOperation =>
      simp only [follows, Bool.or_eq_false_iff, decide_eq_false_iff_not, Nat.not_lt] at hfollows
      exact .beyondOperands hfollows.1 hfollows.2
    | table => exact .ofTable
    | join =>
      simp only [follows, Bool.or_eq_false_iff, beq_eq_false_iff_ne] at hfollows
      exact .besideJoined (Nat.pos_of_ne_zero hfollows.1) hfollows.2
    | tableCall => exact .besideCall (Nat.pos_of_ne_zero (by simpa [follows] using hfollows))
    | subquery => exact .besideQuery (Nat.pos_of_ne_zero (by simpa [follows] using hfollows))
    | fromClause => exact .besideSource (Nat.pos_of_ne_zero (by simpa [follows] using hfollows))
    | whereClause => exact .besideCondition (Nat.pos_of_ne_zero (by simpa [follows] using hfollows))
    | having =>
      exact .besideGroupCondition (Nat.pos_of_ne_zero (by simpa [follows] using hfollows))
    | _ => cases hfollows

instance {h k : Head} {i : Nat} : Decidable (Skipped h i k) := decidable_of_iff _ skipped_iff.symm

/-- No table, qualified or not, stands below a part that the walk leaves out. -/
def SkipsNoTable (n : Node) : Prop :=
  ∀ p ∈ n.nodes, ∀ e ∈ p.parts.zipIdx, Skipped p.head e.2 e.1.head →
    ∀ t ∈ e.1.nodes, t.head.isTable = false

instance (n : Node) : Decidable (SkipsNoTable n) :=
  inferInstanceAs (Decidable (∀ p ∈ n.nodes, ∀ e ∈ p.parts.zipIdx, Skipped p.head e.2 e.1.head →
    ∀ t ∈ e.1.nodes, t.head.isTable = false))

/-! ## Tables in a tree -/

/-- A table that occurs in a tree is one of its nodes. -/
theorem Occurs.exists_node {name : String} {n : Node} (h : Occurs name n) :
    ∃ t ∈ n.nodes, IsUnqualifiedTable name t := by
  induction h with
  | @here n id label hhead hname => exact ⟨n, Node.mem_nodes.2 (.inl rfl), id, label, hhead, hname⟩
  | inside hp _ _ ih =>
    obtain ⟨t, ht, htable⟩ := ih
    exact ⟨t, Node.mem_nodes.2 (.inr ⟨_, List.fst_mem_of_mem_zipIdx hp, ht⟩), htable⟩

/-- A table of a tree is one that the walk gets to, or it stands below a part that the walk leaves
out. -/
theorem reached_or_below_skipped {name : String} {n t : Node} (ht : t ∈ n.nodes)
    (htable : IsUnqualifiedTable name t) :
    Reached name n ∨
      ∃ p ∈ n.nodes, ∃ e ∈ p.parts.zipIdx, Skipped p.head e.2 e.1.head ∧ t ∈ e.1.nodes := by
  induction n using Node.induction_parts with
  | step n ih =>
    rcases Node.mem_nodes.1 ht with rfl | ⟨q, hq, htq⟩
    · obtain ⟨id, label, hhead, hname⟩ := htable
      exact .inl (.here hhead hname)
    · obtain ⟨i, hi⟩ := List.getElem?_of_mem hq
      have hplace : (q, i) ∈ n.parts.zipIdx := List.mk_mem_zipIdx_iff_getElem?.2 hi
      by_cases hskip : Skipped n.head i q.head
      · exact .inr ⟨n, Node.mem_nodes.2 (.inl rfl), (q, i), hplace, hskip, htq⟩
      · -- The walk goes on to the part, so what holds of the part holds of the whole tree.
        have hfollows : follows n.head i q.head = true := by simpa [skipped_iff] using hskip
        rcases ih q hq htq with hreached | ⟨p, hp, hbelow⟩
        · exact .inl (.inside hplace hfollows hreached)
        · exact .inr ⟨p, Node.mem_nodes.2 (.inr ⟨q, hq, hp⟩), hbelow⟩

/-- The names that the walk finds in several trees are those that it finds in one of them. -/
theorem mem_tableNamesOfAll {name : String} {ns : List (Option Node)} :
    name ∈ tableNamesOfAll ns ↔ ∃ n, some n ∈ ns ∧ name ∈ tableNames n := by
  rw [tableNamesOfAll, List.mem_flatMap]
  constructor
  · rintro ⟨n | n, hn, hmem⟩
    · cases hmem
    · exact ⟨n, hn, hmem⟩
  · rintro ⟨n, hn, hmem⟩
    exact ⟨some n, hn, hmem⟩

/-- Whatever the walk finds is the name of a table of the tree that nothing qualifies. If no table
stands below a part that the walk leaves out, then the walk finds all such names, as a look at every
node of the tree does. In several trees it finds what it finds in each of them. -/
theorem walk_agrees_with_scan (n : Node) (ns : List (Option Node)) :
    (∀ name ∈ tableNames n, ∃ t ∈ n.nodes, IsUnqualifiedTable name t) ∧
      (SkipsNoTable n →
        ∀ name, name ∈ tableNames n ↔ ∃ t ∈ n.nodes, IsUnqualifiedTable name t) ∧
      ∀ name, name ∈ tableNamesOfAll ns ↔ ∃ m, some m ∈ ns ∧ name ∈ tableNames m := by
  have hsound : ∀ name ∈ tableNames n, ∃ t ∈ n.nodes, IsUnqualifiedTable name t :=
    fun name hname => (mem_tableNames_iff.1 hname).occurs.exists_node
  refine ⟨hsound, fun hnone name => ⟨hsound name, ?_⟩, fun name => mem_tableNamesOfAll⟩
  rintro ⟨t, ht, htable⟩
  rcases reached_or_below_skipped ht htable with hreached | ⟨p, hp, e, he, hskip, hte⟩
  · exact mem_tableNames_iff.2 hreached
  · obtain ⟨id, label, hhead, -⟩ := htable
    have hno : t.head.isTable = false := hnone p hp e he hskip t hte
    rw [hhead] at hno
    cases hno

/-- The tree of `WITH w AS (SELECT 1 FROM x) SELECT 1 FROM w, f((SELECT 1 FROM s.y)) LIMIT 5`. -/
def callQuery : Node :=
  let body (path : List String) : List Node :=
    [.of .projections [.of (.number "1") []],
      .of .fromClause [.of (.table (path.map fun s => { name := s }) none) []]]
  let call := Node.of (.call (.unknown "f" false))
    [.of (.subquery none) [.of .select (body ["s", "y"])]]
  .of .select (body ["w"] ++
    [.of (.join "" "" "") [.of (.tableCall [] none false) [call]],
      .of (.limit {}) [.of (.number "5") []],
      .of (.withClause false)
        [.of (.cte { name := some { name := "w" } } none) [.of .select (body ["x"])]]])

/-- The walk over that tree leaves out the limit, in which there is no table, and finds the names of
all unqualified tables: the one of FROM and the one in the WITH item. -/
theorem walk_agrees_on_callQuery :
    SkipsNoTable callQuery ∧ tableNames callQuery = ["w", "x"] ∧
      ∀ name, name ∈ tableNames callQuery ↔
        ∃ t ∈ callQuery.nodes, IsUnqualifiedTable name t := by
  have hskips : SkipsNoTable callQuery := by decide
  exact ⟨hskips, by decide, (walk_agrees_with_scan callQuery []).2.1 hskips⟩

end Query

end SemanticLayer
