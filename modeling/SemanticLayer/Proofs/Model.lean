import Mathlib.Data.List.Nodup
import SemanticLayer.Model.Basic

/-!
# Valid models

`SemanticModel.Valid` states the rules of a model one by one, as propositions about its fields.
`violations_eq_nil_iff` shows that the list of broken rules is empty exactly for the valid models,
and `ofFields_valid` that every model which can be read from a document is valid.
-/

namespace SemanticLayer

/-- Where keys are distinct, what is found under a key is the item that has it. -/
theorem find?_eq_some_iff_of_nodup {α : Type} {key : α → String} {items : List α}
    (hnodup : (items.map key).Nodup) {k : String} {a : α} :
    (items.find? fun b => key b == k) = some a ↔ a ∈ items ∧ key a = k := by
  constructor
  · intro hfind
    exact ⟨List.mem_of_find?_eq_some hfind, by simpa using List.find?_some hfind⟩
  · rintro ⟨ha, rfl⟩
    have hsome : (items.find? fun b => key b == key a).isSome = true :=
      List.find?_isSome.2 ⟨a, ha, by simp⟩
    obtain ⟨b, hfind⟩ := Option.isSome_iff_exists.1 hsome
    have hkey : key b = key a := by simpa using List.find?_some hfind
    rw [hfind, List.inj_on_of_nodup_map hnodup (List.mem_of_find?_eq_some hfind) ha hkey]

/-- A rule that is looked at after others passes exactly if they do and it does. -/
theorem Checked.andThen_eq_valid_iff {α β : Type} {c : Checked α} {f : α → Checked β} {b : β} :
    c.andThen f = .valid b ↔ ∃ a, c = .valid a ∧ f a = .valid b := by
  cases c <;> simp [Checked.andThen]

namespace SemanticModel

/-- The rules that a model satisfies as a whole. -/
structure Valid (m : SemanticModel) : Prop where
  /-- The statement without blanks around it begins with SELECT, in any letter case. -/
  begins : "SELECT".toList <+: (Text.upper (Text.strip m.select)).toList
  /-- The statement without blanks around it does not end in a semicolon. -/
  ends : (Text.trim m.select.toList).getLast? ≠ some ';'
  /-- No two elements of the model have the same name, whatever they are. -/
  names : (m.entities.map (·.name) ++ m.dimensions.map (·.name) ++ m.measures.map (·.name)).Nodup
  /-- At most one entity is primary. -/
  primary : (m.entities.filter fun e => decide (e.kind = .primary)).length ≤ 1
  /-- The default time dimension is a time dimension of the model, unless it is blank. -/
  timeDimension : ∀ name, m.defaults.timeDimension = some name → Text.strip name ≠ "" →
    ∃ d ∈ m.dimensions, d.name = name ∧ d.kind = .time
  /-- No time dimension has values to choose from. -/
  enumValues : ∀ d ∈ m.dimensions, d.kind = .time → d.enumValues = []

/-! ## The rules one by one -/

/-- Nothing is wrong with the statement if it begins with SELECT and does not end in a semicolon. -/
theorem selectViolations_eq_nil_iff {m : SemanticModel} :
    m.selectViolations = [] ↔
      "SELECT".toList <+: (Text.upper (Text.strip m.select)).toList ∧
        (Text.trim m.select.toList).getLast? ≠ some ';' := by
  have hbegins : m.beginsWithSelect = true ↔
      "SELECT".toList <+: (Text.upper (Text.strip m.select)).toList := List.isPrefixOf_iff_prefix
  have hends : m.endsInTerminator = true ↔
      (Text.trim m.select.toList).getLast? = some ';' := beq_iff_eq
  rw [selectViolations, List.append_eq_nil_iff, ← hbegins, Ne, ← hends]
  cases m.beginsWithSelect <;> cases m.endsInTerminator <;> simp

/-- Nothing is wrong with the primary entities if there is at most one. -/
theorem primaryViolations_eq_nil_iff {m : SemanticModel} :
    m.primaryViolations = [] ↔
      (m.entities.filter fun e => decide (e.kind = .primary)).length ≤ 1 := by
  have hfilter : (m.entities.filter fun e => e.kind == .primary) =
      m.entities.filter fun e => decide (e.kind = .primary) := rfl
  simp only [primaryViolations, hfilter, List.length_map]
  split
  · rename_i hlt
    exact ⟨nofun, fun hle => absurd hlt (by omega)⟩
  · rename_i hle
    exact ⟨fun _ => by omega, fun _ => rfl⟩

/-- Nothing is repeated if the second parts are distinct and none of them was seen before. -/
theorem repeated_eq_nil_iff {seen : List String} {es : List (String × String)} :
    repeated seen es = [] ↔ (es.map Prod.snd).Nodup ∧ ∀ e ∈ es, e.2 ∉ seen := by
  induction es generalizing seen with
  | nil => simp [repeated]
  | cons e es ih =>
    rw [repeated, List.map_cons, List.nodup_cons]
    by_cases hseen : e.2 ∈ seen
    · rw [if_pos (List.contains_iff_mem.2 hseen)]
      exact ⟨nofun, fun h => absurd hseen (h.2 e List.mem_cons_self)⟩
    · rw [if_neg (mt List.contains_iff_mem.1 hseen), ih]
      constructor
      · rintro ⟨hnodup, hnew⟩
        refine ⟨⟨fun hmem => ?_, hnodup⟩, fun e' he' => ?_⟩
        · obtain ⟨e', he', heq⟩ := List.mem_map.1 hmem
          exact hnew e' he' (heq ▸ List.mem_cons_self)
        · rcases List.mem_cons.1 he' with rfl | he'
          · exact hseen
          · exact fun hmem => hnew e' he' (List.mem_cons_of_mem _ hmem)
      · rintro ⟨⟨hfresh, hnodup⟩, hnew⟩
        refine ⟨hnodup, fun e' he' hmem => ?_⟩
        rcases List.mem_cons.1 hmem with heq | hmem
        · exact hfresh (List.mem_map.2 ⟨e', he', heq⟩)
        · exact hnew e' (List.mem_cons_of_mem _ he') hmem

/-- Nothing is wrong with the names of the elements if they are distinct. -/
theorem nameViolations_eq_nil_iff {m : SemanticModel} :
    m.nameViolations = [] ↔
      (m.entities.map (·.name) ++ m.dimensions.map (·.name) ++ m.measures.map (·.name)).Nodup := by
  have hnames : m.elementNames.map Prod.snd =
      m.entities.map (·.name) ++ m.dimensions.map (·.name) ++ m.measures.map (·.name) := by
    simp only [elementNames, List.map_append, List.map_map]
    rfl
  rw [nameViolations, List.map_eq_nil_iff, repeated_eq_nil_iff, hnames]
  exact and_iff_left fun e _ => List.not_mem_nil

/-- Where names are distinct, a time dimension of a name is the one that is found under it. -/
theorem dimension?_any_time_iff {m : SemanticModel} {name : String}
    (hnodup : (m.dimensions.map (·.name)).Nodup) :
    ((m.dimension? name).any fun d => d.kind == .time) = true ↔
      ∃ d ∈ m.dimensions, d.name = name ∧ d.kind = .time := by
  rw [Option.any_eq_true]
  constructor
  · rintro ⟨d, hfind, htime⟩
    obtain ⟨hd, hname⟩ := (find?_eq_some_iff_of_nodup hnodup).1 hfind
    exact ⟨d, hd, hname, by simpa using htime⟩
  · rintro ⟨d, hd, hname, htime⟩
    exact ⟨d, (find?_eq_some_iff_of_nodup hnodup).2 ⟨hd, hname⟩, by simp [htime]⟩

/-- Nothing is wrong with the default time dimension if it is missing, blank or a time dimension. -/
theorem defaultViolations_eq_nil_iff {m : SemanticModel}
    (hnodup : (m.dimensions.map (·.name)).Nodup) :
    m.defaultViolations = [] ↔
      ∀ name, m.defaults.timeDimension = some name → Text.strip name ≠ "" →
        ∃ d ∈ m.dimensions, d.name = name ∧ d.kind = .time := by
  rw [defaultViolations]
  cases m.defaults.timeDimension with
  | none => exact ⟨fun _ => nofun, fun _ => rfl⟩
  | some name =>
    simp only [Option.some.injEq, forall_eq', ← dimension?_any_time_iff hnodup]
    by_cases hblank : Text.strip name = ""
    · simp [hblank]
    · have hempty : (Text.strip name).isEmpty = false := by simpa using hblank
      rw [hempty, Bool.false_or]
      split
      · rename_i htime
        exact ⟨fun _ _ => htime, fun _ => rfl⟩
      · rename_i htime
        exact ⟨nofun, fun h => absurd (h hblank) htime⟩

/-- Nothing is wrong with the values of dimensions if no time dimension has any. -/
theorem enumViolations_eq_nil_iff {m : SemanticModel} :
    m.enumViolations = [] ↔ ∀ d ∈ m.dimensions, d.kind = .time → d.enumValues = [] := by
  have hnone : ((m.dimensions.filter fun d => d.kind == .time && !d.enumValues.isEmpty).map
      fun d => "'" ++ d.name ++ "'") = [] ↔
        ∀ d ∈ m.dimensions, d.kind = .time → d.enumValues = [] := by
    simp [List.filter_eq_nil_iff]
  rw [← hnone, enumViolations]
  split
  · rename_i hempty
    exact ⟨fun _ => List.isEmpty_iff.1 hempty, fun _ => rfl⟩
  · rename_i hempty
    exact ⟨nofun, fun h => absurd (List.isEmpty_iff.2 h) hempty⟩

/-! ## All rules -/

/-- A model breaks no rule exactly if it is valid. -/
theorem violations_eq_nil_iff {m : SemanticModel} : m.violations = [] ↔ m.Valid := by
  have hdimensions : (m.entities.map (·.name) ++ m.dimensions.map (·.name) ++
      m.measures.map (·.name)).Nodup → (m.dimensions.map (·.name)).Nodup := fun h =>
    (List.nodup_append.1 (List.nodup_append.1 h).1).2.1
  simp only [violations, List.append_eq_nil_iff, selectViolations_eq_nil_iff,
    primaryViolations_eq_nil_iff, nameViolations_eq_nil_iff, enumViolations_eq_nil_iff]
  constructor
  · rintro ⟨⟨⟨⟨⟨hbegins, hends⟩, hprimary⟩, hnames⟩, hdefault⟩, henum⟩
    exact ⟨hbegins, hends, hnames, hprimary,
      (defaultViolations_eq_nil_iff (hdimensions hnames)).1 hdefault, henum⟩
  · intro h
    exact ⟨⟨⟨⟨⟨h.begins, h.ends⟩, h.primary⟩, h.names⟩,
      (defaultViolations_eq_nil_iff (hdimensions h.names)).2 h.timeDimension⟩, h.enumValues⟩

/-- A valid model passes its check as it is. -/
theorem check_of_valid {m : SemanticModel} (h : m.Valid) : m.check = .valid m := by
  rw [check, violations_eq_nil_iff.2 h]
  rfl

/-- A model that is not valid fails its check. -/
theorem check_of_not_valid {m : SemanticModel} (h : ¬ m.Valid) : ∃ ps, m.check = .invalid ps := by
  have hne : ¬ m.violations.isEmpty = true := fun hempty =>
    h (violations_eq_nil_iff.1 (List.isEmpty_iff.1 hempty))
  exact ⟨_, by rw [check, if_neg hne]; rfl⟩

/-- A model passes its check as it is, if it is valid. -/
theorem check_eq_valid_iff {m s : SemanticModel} : m.check = .valid s ↔ s = m ∧ m.Valid := by
  by_cases h : m.Valid
  · rw [check_of_valid h]
    exact ⟨fun hs => ⟨(Checked.valid.inj hs).symm, h⟩, fun hs => congrArg _ hs.1.symm⟩
  · obtain ⟨ps, hps⟩ := check_of_not_valid h
    rw [hps]
    exact ⟨fun hs => (by cases hs), fun hs => absurd hs.2 h⟩

/-- A model that can be read from a document is valid. -/
theorem ofFields_valid {fields : Fields} {m : SemanticModel} (h : ofFields fields = .valid m) :
    m.Valid := by
  obtain ⟨read, -, hcheck⟩ := Checked.andThen_eq_valid_iff.1 h
  obtain ⟨rfl, hvalid⟩ := check_eq_valid_iff.1 hcheck
  exact hvalid

end SemanticModel

end SemanticLayer
