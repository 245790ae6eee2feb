import SemanticLayer.Query.References

/-!
# Where the walk over a query goes

An unqualified table stands somewhere below the root of a tree, at the end of a way from nodes to
parts of them. `TableBelow` describes such ways, with a condition on each step. Without a condition
it says that the table occurs in the tree at all (`Occurs`); with `follows` as the condition it says
that the walk over the tree gets to it (`Reached`). `mem_tableNames_iff` and `mem_allTableNames_iff`
show that the walk and the full scan find exactly these tables. So a table that the walk misses is
one below a step that `follows` does not take.
-/

namespace SemanticLayer

namespace Sql.Node

/-- What holds of a tree whenever it holds of its parts holds of every tree. -/
theorem induction_parts {motive : Node → Prop}
    (step : ∀ n : Node, (∀ p ∈ n.parts, motive p) → motive n) : ∀ n, motive n
  | mk h c ps => step (mk h c ps) fun p hp =>
      have : sizeOf p < sizeOf ps := List.sizeOf_lt_of_mem hp
      induction_parts step p
termination_by n => sizeOf n
decreasing_by simp only [mk.sizeOf_spec]; omega

end Sql.Node

namespace Query

open Sql

/-- The unqualified table `name` stands in a tree, at the end of a way down from the root on which
every step from a node to the part of it at some place satisfies `enters`. -/
inductive TableBelow (enters : Head → Nat → Head → Bool) (name : String) : Node → Prop where
  /-- The root is the table. -/
  | here {n : Node} {id : Ident} {label : Option TableAlias} :
      n.head = .table [id] label → id.name = name → TableBelow enters name n
  /-- The table stands below a part of the root. -/
  | inside {n p : Node} {i : Nat} : (p, i) ∈ n.parts.zipIdx → enters n.head i p.head = true →
      TableBelow enters name p → TableBelow enters name n

/-- The unqualified table `name` occurs in a tree, in any clause and at any depth. -/
def Occurs (name : String) (n : Node) : Prop := TableBelow (fun _ _ _ => true) name n

/-- The walk over a tree gets to the unqualified table `name`. -/
def Reached (name : String) (n : Node) : Prop := TableBelow follows name n

/-- A way with a stricter condition is a way. -/
theorem TableBelow.mono {enters enters' : Head → Nat → Head → Bool} {name : String} {n : Node}
    (himp : ∀ h i k, enters h i k = true → enters' h i k = true) (ht : TableBelow enters name n) :
    TableBelow enters' name n := by
  induction ht with
  | here hhead hname => exact .here hhead hname
  | inside hp hstep _ ih => exact .inside hp (himp _ _ _ hstep) ih

/-- What the walk gets to occurs in the tree. -/
theorem Reached.occurs {name : String} {n : Node} (h : Reached name n) : Occurs name n :=
  h.mono fun _ _ _ _ => rfl

/-- A head contributes the name of the unqualified table that it is, and nothing else. -/
theorem mem_ownName_iff {name : String} {h : Head} :
    name ∈ ownName h ↔ ∃ id label, h = .table [id] label ∧ id.name = name := by
  constructor
  · intro hmem
    unfold ownName at hmem
    split at hmem
    · rename_i id label
      exact ⟨id, label, rfl, (List.mem_singleton.1 hmem).symm⟩
    · exact absurd hmem List.not_mem_nil
  · rintro ⟨id, label, rfl, rfl⟩
    simp [ownName]

/-! ## The walk -/

/-- The names that the walk finds below the parts of a node, counted from the place `k` on. -/
theorem mem_tableNamesOf_iff {name : String} {parent : Head} {k : Nat} {ns : List Node} :
    name ∈ tableNamesOf parent k ns ↔
      ∃ p i, (p, i) ∈ ns.zipIdx k ∧ follows parent i p.head = true ∧ name ∈ tableNames p := by
  induction ns generalizing k with
  | nil => simp [tableNamesOf]
  | cons n ns ih =>
    rw [tableNamesOf, List.mem_append, ih, List.zipIdx_cons]
    constructor
    · rintro (hmem | ⟨p, i, hp, hrest⟩)
      · by_cases hf : follows parent k n.head = true
        · exact ⟨n, k, List.mem_cons_self, hf, by simpa [hf] using hmem⟩
        · simp [hf] at hmem
      · exact ⟨p, i, List.mem_cons_of_mem _ hp, hrest⟩
    · rintro ⟨p, i, hp, hf, hmem⟩
      rcases List.mem_cons.1 hp with heq | hp
      · obtain ⟨rfl, rfl⟩ := Prod.mk.inj heq
        exact .inl (by simpa [hf] using hmem)
      · exact .inr ⟨p, i, hp, hf, hmem⟩

/-- The names that the walk finds in a tree: the root's own, and those below the parts to which it
goes on. -/
theorem mem_tableNames {name : String} {n : Node} :
    name ∈ tableNames n ↔
      name ∈ ownName n.head ∨
        ∃ p i, (p, i) ∈ n.parts.zipIdx ∧ follows n.head i p.head = true ∧ name ∈ tableNames p := by
  obtain ⟨h, c, ps⟩ := n
  rw [tableNames, List.mem_append, mem_tableNamesOf_iff, Node.head_mk, Node.parts_mk]

/-- The walk finds exactly the tables it gets to. -/
theorem mem_tableNames_iff {name : String} {n : Node} : name ∈ tableNames n ↔ Reached name n := by
  constructor
  · induction n using Node.induction_parts with
    | step n ih =>
      intro hmem
      rcases mem_tableNames.1 hmem with hown | ⟨p, i, hp, hstep, hbelow⟩
      · obtain ⟨id, label, hhead, hname⟩ := mem_ownName_iff.1 hown
        exact .here hhead hname
      · exact .inside hp hstep (ih p (List.fst_mem_of_mem_zipIdx hp) hbelow)
  · intro h
    induction h with
    | here hhead hname => exact mem_tableNames.2 (.inl (mem_ownName_iff.2 ⟨_, _, hhead, hname⟩))
    | inside hp hstep _ ih => exact mem_tableNames.2 (.inr ⟨_, _, hp, hstep, ih⟩)

/-! ## The full scan -/

/-- The names in some trees are those in one of them. -/
theorem mem_allTableNamesOf_iff {name : String} {ns : List Node} :
    name ∈ allTableNamesOf ns ↔ ∃ p ∈ ns, name ∈ allTableNames p := by
  induction ns with
  | nil => simp [allTableNamesOf]
  | cons n ns ih =>
    rw [allTableNamesOf, List.mem_append, ih]
    simp

/-- The names in a tree: the root's own, and those in its parts. -/
theorem mem_allTableNames {name : String} {n : Node} :
    name ∈ allTableNames n ↔
      name ∈ ownName n.head ∨ ∃ p ∈ n.parts, name ∈ allTableNames p := by
  obtain ⟨h, c, ps⟩ := n
  rw [allTableNames, List.mem_append, mem_allTableNamesOf_iff, Node.head_mk, Node.parts_mk]

/-- The full scan finds exactly the tables that occur in the tree. -/
theorem mem_allTableNames_iff {name : String} {n : Node} :
    name ∈ allTableNames n ↔ Occurs name n := by
  constructor
  · induction n using Node.induction_parts with
    | step n ih =>
      intro hmem
      rcases mem_allTableNames.1 hmem with hown | ⟨p, hp, hbelow⟩
      · obtain ⟨id, label, hhead, hname⟩ := mem_ownName_iff.1 hown
        exact .here hhead hname
      · obtain ⟨i, hi⟩ := List.getElem?_of_mem hp
        exact .inside (List.mk_mem_zipIdx_iff_getElem?.2 hi) rfl (ih p hp hbelow)
  · intro h
    induction h with
    | here hhead hname => exact mem_allTableNames.2 (.inl (mem_ownName_iff.2 ⟨_, _, hhead, hname⟩))
    | inside hp _ _ ih =>
      exact mem_allTableNames.2 (.inr ⟨_, List.fst_mem_of_mem_zipIdx hp, ih⟩)

end Query

end SemanticLayer
