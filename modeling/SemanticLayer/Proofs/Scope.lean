import SemanticLayer.Proofs.Extension
import SemanticLayer.Proofs.References

/-!
# What the tables of a query stand for

An unqualified table of a query stands for an item of a WITH clause that is in sight at its place,
and otherwise for a table of the database. `partScope` is the rule of SQL about what is in sight: an
item of a plain WITH clause sees the items before it, an item of a recursive one sees all items of
the clause, and the query of a WITH clause sees all of them too. `reads` resolves every unqualified
table of a tree by this rule.

The main statement, `reads_append`, says that what is in sight around a tree matters only for its
*free* names, those that no WITH clause inside the tree takes. So a tree reads the same in two
places exactly if its free names stand for the same there (`map_resolve_eq_iff`).

Databases do not agree on which names are the same: some look at letter case and some do not. All
statements hold for any rule `same`.
-/

namespace SemanticLayer.Query

open Sql

/-- The WITH items in sight at a place of a tree, the nearest first. -/
abbrev Scope := List Node

/-- An unqualified table by its name, with the WITH item that it stands for. Without one it is a
table of the database. -/
abbrev Reading := String × Option Node

/-- The WITH item that a name stands for; of several items with the name it is the nearest one. -/
def lookup (same : String → String → Bool) (scope : Scope) (name : String) : Option Node :=
  scope.find? fun i => (itemName? i).any (same name)

/-- The items in sight in the part `p` of the node `n`, which comes after the parts `before`, if
`scope` is in sight at the node. -/
def partScope (n : Node) (scope : Scope) (before : List Node) (p : Node) : Scope :=
  match n.head with
  | .withClause true => n.parts.reverse ++ scope
  | .withClause false => before.reverse ++ scope
  | _ => if p.head.isWith then scope else (items n).reverse ++ scope

mutual

/-- What the unqualified tables of a tree stand for, in the order of the tree. -/
def reads (same : String → String → Bool) (scope : Scope) : Node → List Reading
  | .mk h c ps =>
    (ownName h).map (fun name => (name, lookup same scope name)) ++
      readsOf same (.mk h c ps) scope [] ps

/-- What the unqualified tables in parts of the node `n` stand for, after its parts `before`. -/
def readsOf (same : String → String → Bool) (n : Node) (scope : Scope) (before : List Node) :
    List Node → List Reading
  | [] => []
  | p :: ps =>
    reads same (partScope n scope before p) p ++ readsOf same n scope (before ++ [p]) ps

end

/-- The names of the unqualified tables of a tree that stand for nothing inside the tree. -/
def freeNames (same : String → String → Bool) (n : Node) : List String :=
  (reads same [] n).filterMap fun r => if r.2.isNone then some r.1 else none

/-- A reading in which `f` says what a name stands for that stood for nothing. -/
def resolve (f : String → Option Node) (r : Reading) : Reading := (r.1, r.2.or (f r.1))

/-- What the unqualified tables in the first WITH item of a name stand for, in the WITH clause of a
query around which nothing is in sight. -/
def itemReads (same : String → String → Bool) (query : Node) (name : String) :
    Option (List Reading) := do
  let w ← query.find? Head.isWith
  let i ← w.parts.find? fun i => itemName? i == some name
  return reads same (partScope w [] (w.parts.takeWhile fun i => itemName? i != some name) i) i

variable {same : String → String → Bool}

/-! ## Names and scopes -/

/-- A name is looked up in the nearer items first. -/
theorem lookup_append (s t : Scope) (name : String) :
    lookup same (s ++ t) name = (lookup same s name).or (lookup same t name) :=
  List.find?_append

/-- A further scope around a node is one around each of its parts. -/
theorem partScope_append (n : Node) (s t : Scope) (before : List Node) (p : Node) :
    partScope n (s ++ t) before p = partScope n s before p ++ t := by
  unfold partScope
  split
  · rw [List.append_assoc]
  · rw [List.append_assoc]
  · split
    · rfl
    · rw [List.append_assoc]

/-! ## Readings under a further scope -/

/-- The readings in parts of a node, given those in each part. -/
theorem readsOf_append {n : Node} (s t : Scope) {ps : List Node}
    (hparts : ∀ p ∈ ps, ∀ s,
      reads same (s ++ t) p = (reads same s p).map (resolve (lookup same t)))
    (before : List Node) :
    readsOf same n (s ++ t) before ps =
      (readsOf same n s before ps).map (resolve (lookup same t)) := by
  induction ps generalizing before with
  | nil => simp [readsOf]
  | cons p ps ih =>
    have hp := hparts p List.mem_cons_self (partScope n s before p)
    have hrest := ih (fun q hq => hparts q (List.mem_cons_of_mem p hq)) (before ++ [p])
    rw [readsOf, readsOf, partScope_append, hp, hrest, List.map_append]

/-- A further scope around a tree decides what its free names stand for, and nothing else. -/
theorem reads_append (s t : Scope) (n : Node) :
    reads same (s ++ t) n = (reads same s n).map (resolve (lookup same t)) := by
  induction n using Node.induction_parts generalizing s with
  | step n ih =>
    obtain ⟨h, c, ps⟩ := n
    have hown : (ownName h).map (fun name => (name, lookup same (s ++ t) name)) =
        ((ownName h).map fun name => (name, lookup same s name)).map
          (resolve (lookup same t)) := by
      rw [List.map_map]
      refine List.map_congr_left fun name _ => ?_
      rw [lookup_append]
      rfl
    rw [Node.parts_mk] at ih
    rw [reads, reads, hown, readsOf_append s t ih, List.map_append]

/-- The readings of a tree, from those with nothing in sight around it. -/
theorem reads_eq_map (s : Scope) (n : Node) :
    reads same s n = (reads same [] n).map (resolve (lookup same s)) := reads_append [] s n

/-- The readings of parts of a node are about their tables, in order. -/
theorem map_fst_readsOf {n : Node} {ps : List Node}
    (hparts : ∀ p ∈ ps, ∀ s, (reads same s p).map Prod.fst = allTableNames p) (s : Scope)
    (before : List Node) : (readsOf same n s before ps).map Prod.fst = allTableNamesOf ps := by
  induction ps generalizing before with
  | nil => simp [readsOf, allTableNamesOf]
  | cons p ps ih =>
    rw [readsOf, List.map_append, hparts p List.mem_cons_self,
      ih fun q hq => hparts q (List.mem_cons_of_mem p hq), allTableNamesOf]

/-- The readings of a tree are about all its unqualified tables, in order. -/
theorem map_fst_reads (s : Scope) (n : Node) :
    (reads same s n).map Prod.fst = allTableNames n := by
  induction n using Node.induction_parts generalizing s with
  | step n ih =>
    obtain ⟨h, c, ps⟩ := n
    have hown : ((ownName h).map fun name => (name, lookup same s name)).map Prod.fst =
        ownName h := by
      rw [List.map_map]
      exact List.map_id _
    rw [Node.parts_mk] at ih
    rw [reads, allTableNames, List.map_append, hown, map_fst_readsOf ih]

/-- A name is free if a table of the name stands for nothing inside the tree. -/
theorem mem_freeNames {n : Node} {name : String} :
    name ∈ freeNames same n ↔ (name, none) ∈ reads same [] n := by
  rw [freeNames, List.mem_filterMap]
  constructor
  · rintro ⟨⟨t, found⟩, hmem, hfree⟩
    cases found with
    | none =>
      obtain rfl : t = name := Option.some.inj hfree
      exact hmem
    | some i => nomatch hfree
  · intro hmem
    exact ⟨_, hmem, rfl⟩

/-- Two ways to say what names stand for make the same of the readings of a tree exactly if they
agree on its free names. -/
theorem map_resolve_eq_iff {f g : String → Option Node} {n : Node} :
    (reads same [] n).map (resolve f) = (reads same [] n).map (resolve g) ↔
      ∀ t ∈ freeNames same n, f t = g t := by
  rw [List.map_inj_left]
  constructor
  · intro h t ht
    exact (Prod.mk.inj (h (t, none) (mem_freeNames.1 ht))).2
  · rintro h ⟨t, found⟩ hmem
    cases found with
    | none => exact congrArg (Prod.mk t) (h t (mem_freeNames.2 hmem))
    | some i => rfl

/-- The readings of a WITH item are those of the query in it. -/
theorem reads_item (s : Scope) (name : String) (body : Node) :
    reads same s (item name body) = reads same s body := by
  have hscope : partScope (item name body) s [] body = s := by
    have hitems : body.head.isWith = false → items (item name body) = [] := by
      intro hbody
      exact congrArg (fun w => (Option.map Node.parts w).getD [])
        (find?_isWith_eq_none fun p hp => List.mem_singleton.1 hp ▸ hbody)
    unfold partScope
    cases hbody : body.head.isWith with
    | true => rfl
    | false =>
      rw [hitems hbody]
      rfl
  have hparts : reads same s (item name body) =
      readsOf same (item name body) s [] [body] := rfl
  rw [hparts, readsOf, readsOf, hscope, List.append_nil]

/-! ## The items of an extended query -/

/-- The readings of one of the items that extend a query, if it is the first of its name: with a
recursive WITH clause all items are in sight, and otherwise those before it. -/
theorem itemReads_of_extended {query written i : Node} {before after : List Node} {name : String}
    (hext : Extended (before ++ i :: after) query written) (hi : itemName? i = some name)
    (hbefore : ∀ j ∈ before, itemName? j ≠ some name) :
    itemReads same written name = some (reads same
      (if isRecursive query then (items query).reverse ++ (before ++ i :: after).reverse
        else before.reverse) i) := by
  obtain ⟨d, hwith⟩ := hext.find?_isWith
  have hfind : (before ++ i :: after ++ items query).find? (fun j => itemName? j == some name) =
      some i := by
    rw [List.append_assoc]
    exact List.find?_eq_some_iff_append.2
      ⟨beq_iff_eq.2 hi, before, _, rfl, fun j hj => by simp [hbefore j hj]⟩
  have htake : (before ++ i :: after ++ items query).takeWhile
      (fun j => itemName? j != some name) = before := by
    rw [List.append_assoc, List.takeWhile_append_of_pos fun j hj => bne_iff_ne.2 (hbefore j hj),
      List.cons_append, List.takeWhile_cons_of_neg (by simp [hi]), List.append_nil]
  have hsight : partScope (.mk (.withClause (isRecursive query)) d
      (before ++ i :: after ++ items query)) [] before i =
        if isRecursive query then (items query).reverse ++ (before ++ i :: after).reverse
        else before.reverse := by
    cases isRecursive query with
    | true => exact (List.append_nil _).trans List.reverse_append
    | false => exact List.append_nil _
  rw [itemReads, hwith]
  dsimp only [Option.bind_eq_bind, Option.bind_some, Node.parts_mk]
  rw [hfind, htake, Option.bind_some, hsight]
  rfl

end SemanticLayer.Query
