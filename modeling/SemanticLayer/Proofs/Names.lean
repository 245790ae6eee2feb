import SemanticLayer.Proofs.References

/-!
# The names in a tree

Names of tables, columns, windows and parameters stand in the heads of a tree. `Node.names` lists
them from the left to the right, apart from the names of lateral views, which are always written
without quotes: these are `Node.viewNames`. `Node.respell` changes how the names are spelled.

`Node.Each Q` says that `Q` holds of every tree inside a tree.
-/

namespace SemanticLayer.Sql

def TableAlias.names (a : TableAlias) : List Ident := a.name.toList ++ a.columns

/-- An alias with other names. -/
def TableAlias.respell (f : Ident → Ident) (a : TableAlias) : TableAlias :=
  { a with name := a.name.map f, columns := a.columns.map f }

/-- The name as it is, without quotes. -/
def Ident.bare (i : Ident) : Ident := { i with quoted := false }

namespace Head

def labelNames (label : Option TableAlias) : List Ident := label.toList.flatMap TableAlias.names

/-- The names in a head, apart from the name of a lateral view. -/
def names : Head → List Ident
  | name id | typeField id | aliased id => [id]
  | column ids | star ids | lambda ids _ | aliases ids | insert _ ids => ids
  | window id | keep id _ | jsonColumn id _ => id.toList
  | windowDefinition id base => id :: base.toList
  | table path label | tableCall path label _ => path ++ labelNames label
  | subquery label | values label | unnest label _ | lateral _ label | pivot _ _ label =>
    labelNames label
  | cte label _ => label.names
  | lateralView _ label => label.columns
  | _ => []

/-- Whether a head of this kind may have names. -/
def takesNames : Head → Bool
  | name _ | typeField _ | aliased _ | column _ | star _ | lambda .. | aliases _ | insert ..
  | window _ | keep .. | jsonColumn .. | windowDefinition .. | table .. | tableCall ..
  | subquery _ | values _ | unnest .. | lateral .. | pivot .. | cte .. | lateralView .. => true
  | _ => false

/-- The name of a lateral view. -/
def viewNames : Head → List Ident
  | lateralView _ label => label.name.toList
  | _ => []

/-- A head with its names spelled in another way. The name of a lateral view loses its quotes. -/
def respell (f : Ident → Ident) : Head → Head
  | name id => name (f id)
  | typeField id => typeField (f id)
  | aliased id => aliased (f id)
  | column ids => column (ids.map f)
  | star ids => star (ids.map f)
  | lambda ids worded => lambda (ids.map f) worded
  | aliases ids => aliases (ids.map f)
  | insert overwrite ids => insert overwrite (ids.map f)
  | window id => window (id.map f)
  | keep id word => keep (id.map f) word
  | jsonColumn id ordinality => jsonColumn (id.map f) ordinality
  | windowDefinition id base => windowDefinition (f id) (base.map f)
  | table path label => table (path.map f) (label.map (·.respell f))
  | tableCall path label ordinality =>
    tableCall (path.map f) (label.map (·.respell f)) ordinality
  | subquery label => subquery (label.map (·.respell f))
  | values label => values (label.map (·.respell f))
  | unnest label ordinality => unnest (label.map (·.respell f)) ordinality
  | lateral apply label => lateral apply (label.map (·.respell f))
  | pivot back nulls label => pivot back nulls (label.map (·.respell f))
  | cte label materialized => cte (label.respell f) materialized
  | lateralView outer label =>
    lateralView outer
      { label with name := label.name.map Ident.bare, columns := label.columns.map f }
  | h => h

theorem names_aliasRespell {f : Ident → Ident} (a : TableAlias) :
    (a.respell f).names = a.names.map f := by
  simp [TableAlias.names, TableAlias.respell, Option.toList_map]

theorem labelNames_map {f : Ident → Ident} (label : Option TableAlias) :
    labelNames (label.map (·.respell f)) = (labelNames label).map f := by
  cases label with
  | none => rfl
  | some a => simp [labelNames, names_aliasRespell]

theorem names_respell {f : Ident → Ident} (h : Head) : (h.respell f).names = h.names.map f := by
  cases h <;> simp [respell, names, labelNames_map, names_aliasRespell, Option.toList_map]

theorem viewNames_respell {f : Ident → Ident} (h : Head) :
    (h.respell f).viewNames = h.viewNames.map Ident.bare := by
  cases h <;> simp [respell, viewNames, Option.toList_map]

end Head

namespace Node

mutual

/-- The tree and the trees below it, from the left to the right. -/
def nodes : Node → List Node
  | mk h c ps => mk h c ps :: nodesOfList ps

/-- The trees and the trees below them. -/
def nodesOfList : List Node → List Node
  | [] => []
  | n :: ns => n.nodes ++ nodesOfList ns

end

/-- The names in a tree, apart from the names of lateral views. -/
def names (n : Node) : List Ident := n.nodes.flatMap fun m => m.head.names

/-- The names of lateral views in a tree. -/
def viewNames (n : Node) : List Ident := n.nodes.flatMap fun m => m.head.viewNames

/-- `Q` holds of a tree and of all trees below it. -/
def Each (Q : Node → Prop) (n : Node) : Prop := ∀ m ∈ n.nodes, Q m

theorem mem_nodesOfList {m : Node} {ns : List Node} :
    m ∈ nodesOfList ns ↔ ∃ n ∈ ns, m ∈ n.nodes := by
  induction ns with
  | nil => simp [nodesOfList]
  | cons n ns ih => simp [nodesOfList, ih]

theorem mem_nodes {m n : Node} : m ∈ n.nodes ↔ m = n ∨ ∃ p ∈ n.parts, m ∈ p.nodes := by
  obtain ⟨h, c, ps⟩ := n
  rw [nodes, List.mem_cons, mem_nodesOfList, parts_mk]

theorem each_mk {Q : Node → Prop} {h : Head} {c : List String} {ps : List Node} :
    Each Q (mk h c ps) ↔ Q (mk h c ps) ∧ ∀ p ∈ ps, Each Q p := by
  unfold Each
  rw [nodes, List.forall_mem_cons]
  refine and_congr_right fun _ => ?_
  simp only [mem_nodesOfList]
  exact ⟨fun hall p hp m hm => hall m ⟨p, hp, hm⟩, fun hall m ⟨p, hp, hm⟩ => hall p hp m hm⟩

mutual

/-- A tree with its names spelled in another way. -/
def respell (f : Ident → Ident) : Node → Node
  | mk h c ps => mk (h.respell f) c (respellAll f ps)

/-- Trees with their names spelled in another way. -/
def respellAll (f : Ident → Ident) : List Node → List Node
  | [] => []
  | n :: ns => n.respell f :: respellAll f ns

end

theorem respellAll_eq_map {f : Ident → Ident} (ns : List Node) :
    respellAll f ns = ns.map (respell f) := by
  induction ns with
  | nil => rfl
  | cons n ns ih => rw [respellAll, ih, List.map_cons]

@[simp] theorem head_respell {f : Ident → Ident} (n : Node) :
    (n.respell f).head = n.head.respell f := by
  cases n
  rfl

theorem parts_respell {f : Ident → Ident} (n : Node) :
    (n.respell f).parts = n.parts.map (respell f) := by
  cases n
  exact respellAll_eq_map _

theorem nodes_respell {f : Ident → Ident} (n : Node) :
    (n.respell f).nodes = n.nodes.map (respell f) := by
  induction n using induction_parts with
  | step n ih =>
    obtain ⟨h, c, ps⟩ := n
    have hparts : nodesOfList (respellAll f ps) = (nodesOfList ps).map (respell f) := by
      rw [parts_mk] at ih
      induction ps with
      | nil => rfl
      | cons m ms ihms =>
        rw [respellAll, nodesOfList, nodesOfList, List.map_append, ih m List.mem_cons_self,
          ihms fun q hq => ih q (List.mem_cons_of_mem m hq)]
    rw [respell, nodes, nodes, hparts]
    rfl

theorem names_respell {f : Ident → Ident} (n : Node) :
    (n.respell f).names = n.names.map f := by
  simp only [names, nodes_respell, List.flatMap_map, List.map_flatMap, head_respell,
    Head.names_respell]

theorem viewNames_respell {f : Ident → Ident} (n : Node) :
    (n.respell f).viewNames = n.viewNames.map Ident.bare := by
  simp only [viewNames, nodes_respell, List.flatMap_map, List.map_flatMap, head_respell,
    Head.viewNames_respell]

end Node

end SemanticLayer.Sql
