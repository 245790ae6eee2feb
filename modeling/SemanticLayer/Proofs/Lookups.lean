import SemanticLayer.Proofs.Assignment

/-!
# Looking up the elements of a model

Elements are looked up by name, kind by kind, and the first one with the name is taken. In a valid
model no two elements have the same name, whatever their kinds, so no element is hidden by another
(`findsByName_of_nodup`), and a name is found under one kind only (`Valid.count_found_le_one`).
There is at most one primary entity, so the first one is the one (`primaryEntity_eq_some_iff`).

`ExactLookups` collects what this means for a model. It holds for every valid model, and thus after
every run of assignments, which leaves a valid model valid (`after_valid`).
-/

namespace SemanticLayer

variable {α : Type}

/-- A look-up by name finds every item under its own name, and nothing under a name that no item
has. -/
structure FindsByName (items : List α) (name : α → String) (find : String → Option α) : Prop where
  /-- No item is hidden by another one. -/
  self : ∀ a ∈ items, find (name a) = some a
  /-- Nothing is found exactly if there is nothing of the name. -/
  none_iff : ∀ s, find s = none ↔ ∀ a ∈ items, name a ≠ s

/-- The first item of a name is the right one where names are distinct. -/
theorem findsByName_of_nodup {items : List α} {name : α → String}
    (hnodup : (items.map name).Nodup) :
    FindsByName items name fun s => items.find? fun a => name a == s where
  self a ha := (find?_eq_some_iff_of_nodup hnodup).2 ⟨ha, rfl⟩
  none_iff s := by
    rw [List.find?_eq_none]
    exact forall₂_congr fun a _ => not_congr beq_iff_eq

/-- What has a name is found under it. -/
theorem FindsByName.isSome_iff {items : List α} {name : α → String} {find : String → Option α}
    (h : FindsByName items name find) {s : String} :
    (find s).isSome = true ↔ s ∈ items.map name := by
  rw [← Option.ne_none_iff_isSome, Ne, h.none_iff, List.mem_map]
  push Not
  rfl

/-- Where at most one item has a property, the first one that has it is any that has it. -/
theorem find?_eq_some_iff_of_length_le_one {items : List α} {p : α → Bool}
    (hlength : (items.filter p).length ≤ 1) {a : α} :
    items.find? p = some a ↔ a ∈ items ∧ p a = true := by
  rw [← List.head?_filter, ← List.mem_filter]
  cases hfilter : items.filter p with
  | nil => simp
  | cons b rest =>
    have hrest : rest = [] := by
      rw [hfilter, List.length_cons] at hlength
      exact List.eq_nil_of_length_eq_zero (by omega)
    rw [hrest, List.head?_cons, List.mem_singleton, Option.some.injEq, eq_comm]

namespace SemanticModel

/-- What the look-ups of a model give. -/
structure ExactLookups (m : SemanticModel) : Prop where
  /-- Every entity is found under its name. -/
  entities : FindsByName m.entities (·.name) m.entity?
  /-- Every dimension is found under its name. -/
  dimensions : FindsByName m.dimensions (·.name) m.dimension?
  /-- Every measure is found under its name. -/
  measures : FindsByName m.measures (·.name) m.measure?
  /-- A name is found under at most one kind. -/
  oneKind : ∀ name,
    [(m.entity? name).isSome, (m.dimension? name).isSome, (m.measure? name).isSome].count true ≤ 1
  /-- The primary entity is the one that is primary. -/
  primary : ∀ e, m.primaryEntity = some e ↔ e ∈ m.entities ∧ e.kind = .primary
  /-- There is no primary entity exactly if no entity is primary. -/
  noPrimary : m.primaryEntity = none ↔ ∀ e ∈ m.entities, e.kind ≠ .primary
  /-- The default time dimension is found as a time dimension, unless it is blank. -/
  timeDimension : ∀ name, m.defaults.timeDimension = some name → Text.strip name ≠ "" →
    ∃ d, m.dimension? name = some d ∧ d.kind = .time

variable {m : SemanticModel}

theorem Valid.findsEntities (h : m.Valid) : FindsByName m.entities (·.name) m.entity? :=
  findsByName_of_nodup (List.nodup_append.1 (List.nodup_append.1 h.names).1).1

theorem Valid.findsDimensions (h : m.Valid) : FindsByName m.dimensions (·.name) m.dimension? :=
  findsByName_of_nodup (List.nodup_append.1 (List.nodup_append.1 h.names).1).2.1

theorem Valid.findsMeasures (h : m.Valid) : FindsByName m.measures (·.name) m.measure? :=
  findsByName_of_nodup (List.nodup_append.1 h.names).2.1

/-- In a valid model a name is found under at most one kind. -/
theorem Valid.count_found_le_one (h : m.Valid) (name : String) :
    [(m.entity? name).isSome, (m.dimension? name).isSome, (m.measure? name).isSome].count true ≤
      1 := by
  obtain ⟨hfirst, -, hlast⟩ := List.nodup_append.1 h.names
  obtain ⟨-, -, hinner⟩ := List.nodup_append.1 hfirst
  -- No two kinds share the name.
  have hed : ¬ ((m.entity? name).isSome = true ∧ (m.dimension? name).isSome = true) := by
    rw [h.findsEntities.isSome_iff, h.findsDimensions.isSome_iff]
    rintro ⟨he, hd⟩
    exact hinner name he name hd rfl
  have hem : ¬ ((m.entity? name).isSome = true ∧ (m.measure? name).isSome = true) := by
    rw [h.findsEntities.isSome_iff, h.findsMeasures.isSome_iff]
    rintro ⟨he, hm⟩
    exact hlast name (List.mem_append_left _ he) name hm rfl
  have hdm : ¬ ((m.dimension? name).isSome = true ∧ (m.measure? name).isSome = true) := by
    rw [h.findsDimensions.isSome_iff, h.findsMeasures.isSome_iff]
    rintro ⟨hd, hm⟩
    exact hlast name (List.mem_append_right _ hd) name hm rfl
  revert hed hem hdm
  generalize (m.entity? name).isSome = e
  generalize (m.dimension? name).isSome = d
  generalize (m.measure? name).isSome = s
  revert e d s
  decide

/-- In a valid model the primary entity is the one that is primary. -/
theorem Valid.primaryEntity_eq_some_iff (h : m.Valid) {e : Entity} :
    m.primaryEntity = some e ↔ e ∈ m.entities ∧ e.kind = .primary := by
  have hone : (m.entities.filter fun e => e.kind == .primary).length ≤ 1 := h.primary
  rw [primaryEntity, find?_eq_some_iff_of_length_le_one hone, beq_iff_eq]

/-- In a valid model the default time dimension is found as a time dimension. -/
theorem Valid.dimension?_default (h : m.Valid) {name : String}
    (hname : m.defaults.timeDimension = some name) (hblank : Text.strip name ≠ "") :
    ∃ d, m.dimension? name = some d ∧ d.kind = .time := by
  obtain ⟨d, hd, rfl, htime⟩ := h.timeDimension name hname hblank
  exact ⟨d, h.findsDimensions.self d hd, htime⟩

/-- The look-ups of a valid model are exact. -/
theorem Valid.exactLookups (h : m.Valid) : m.ExactLookups where
  entities := h.findsEntities
  dimensions := h.findsDimensions
  measures := h.findsMeasures
  oneKind := h.count_found_le_one
  primary _ := h.primaryEntity_eq_some_iff
  noPrimary := by
    rw [primaryEntity, List.find?_eq_none]
    exact forall₂_congr fun e _ => not_congr beq_iff_eq
  timeDimension _ hname hblank := h.dimension?_default hname hblank

/-- After any attempts to change a model that was read from a document, accepted or refused, the
look-ups of the model are exact. -/
theorem lookups_exact_after_attempts {fields : Fields} {m : SemanticModel}
    (hbuilt : ofFields fields = .valid m) (as : List Attempt) : (m.after as).ExactLookups := by
  have hvalid : (m.after as).Valid := after_valid (ofFields_valid hbuilt) as
  exact hvalid.exactLookups

/-- A model with elements of every kind. -/
def orders : SemanticModel where
  name := "orders"
  select := "SELECT 1"
  defaults := { timeDimension := some "day" }
  entities := [{ name := "order", kind := .primary }]
  dimensions := [{ name := "day", kind := .time }]
  measures := [{ name := "amount", aggregation := .sum }]

/-- A change of the entities, which is accepted, and changes of the measures and of an entity, which
are not: the name of a dimension is taken, and elements stay what they are. -/
def orderChanges : List Attempt :=
  [.toField .entities (.valid [{ name := "customer", kind := .primary },
      { name := "order", kind := .foreign }]),
    .toName "measures" (.list [.record [("name", .string "day")]]),
    .toPart (.entity 1) "type"]

/-- After these changes the new primary entity is found, and the other entity, the time dimension
and the measure under their names. -/
theorem lookups_exact_after_orderChanges :
    ofFields (orders.toFields.map fun f => (.string f.1, f.2)) = .valid orders ∧
      (orders.after orderChanges).primaryEntity = some { name := "customer", kind := .primary } ∧
      (orders.after orderChanges).entity? "order" = some { name := "order", kind := .foreign } ∧
      (∃ d, (orders.after orderChanges).dimension? "day" = some d ∧ d.kind = .time) ∧
      (orders.after orderChanges).measure? "amount" =
        some { name := "amount", aggregation := .sum } ∧
      (orders.after orderChanges).measure? "day" = none := by
  have hbuilt : ofFields (orders.toFields.map fun f => (.string f.1, f.2)) = .valid orders := by
    rfl
  have hafter : orders.after orderChanges =
      { orders with
        entities := [{ name := "customer", kind := .primary },
          { name := "order", kind := .foreign }] } := by
    rfl
  have hexact := lookups_exact_after_attempts hbuilt orderChanges
  rw [hafter] at hexact ⊢
  exact ⟨hbuilt, (hexact.primary _).2 ⟨by decide, rfl⟩,
    hexact.entities.self { name := "order", kind := .foreign } (by decide),
    hexact.timeDimension "day" rfl (by decide),
    hexact.measures.self { name := "amount", aggregation := .sum } (by decide),
    (hexact.measures.none_iff "day").2 (by decide)⟩

end SemanticModel

end SemanticLayer
