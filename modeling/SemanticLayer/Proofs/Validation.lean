import SemanticLayer.Proofs.Documents
import SemanticLayer.Proofs.Outcome
import SemanticLayer.Registry

/-!
# Which definitions are valid

A definition is a document, or a model that was built before. The parts of such a model may have
been changed since, without a look at the model as a whole, so it is written as a document and read
again. `SemanticModel.read_toValue_eq` says what that comes to: every field but the dimensions is
read as it was, the dimensions are checked one by one, and then the model as a whole is checked. The
rule of a single dimension is one of the rules of a model, so nothing but the rules of the model
decides (`SemanticModel.read_toValue_eq_valid_iff`), and a model is refused as its document is
(`Definition.validate_model`).
-/

namespace SemanticLayer

/-! ## Reading a model again -/

/-- Dimensions pass their checks as they are, unless one is a time with values to choose from. -/
theorem Dimension.all_check_eq_valid_iff {ds ss : List Dimension} :
    Checked.all 0 (ds.map Dimension.check) = .valid ss ↔
      ss = ds ∧ ∀ d ∈ ds, d.kind = .time → d.enumValues = [] := by
  rw [Checked.all_eq_valid_iff]
  induction ds generalizing ss with
  | nil => cases ss <;> simp
  | cons d ds ih =>
    cases ss with
    | nil => simp
    | cons s ss =>
      simp only [List.map_cons, List.cons.injEq, Dimension.check_eq_valid_iff, ih,
        List.forall_mem_cons]
      exact and_and_and_comm

namespace SemanticModel

/-- The document of a model is read as the model was, with its dimensions checked one by one and
then the model as a whole. -/
theorem read_toValue_eq (m : SemanticModel) :
    read m.toValue =
      ((Checked.all 0 (m.dimensions.map Dimension.check)).within (.field "dimensions")).andThen
        fun ds => (m.store .dimensions ds).check := by
  have hothers : ∀ g : ModelField, g ≠ .dimensions →
      (g.read (g.write (m.content g))).within (.field g.key) = .valid (m.content g) := by
    intro g hg
    rw [ModelField.read_write hg]
    rfl
  have hdimensions : ModelField.dimensions.read (ModelField.dimensions.write m.dimensions) =
      Checked.all 0 (m.dimensions.map Dimension.check) := by
    change Checked.all 0 ((m.dimensions.map Dimension.toValue).map Dimension.read) = _
    rw [List.map_map]
    exact congrArg _ (List.map_congr_left fun d _ => d.read_toValue_eq)
  calc read m.toValue
      = ofFields (ModelField.all.map fun g => (.string g.key, g.write (m.content g))) := rfl
    _ = (m.store .dimensions <$>
          (ModelField.dimensions.read (ModelField.dimensions.write m.dimensions)).within
            (.field "dimensions")).andThen check := by
        rw [ofFields_eq, ofContents_eq .dimensions hothers]
        rfl
    _ = _ := by
        rw [hdimensions]
        generalize (Checked.all 0 (m.dimensions.map Dimension.check)).within _ = c
        cases c <;> rfl

/-- The document of a model can be read exactly if the model is valid, and gives the model back. -/
theorem read_toValue_eq_valid_iff {m s : SemanticModel} :
    read m.toValue = .valid s ↔ s = m ∧ m.Valid := by
  rw [read_toValue_eq, Checked.andThen_eq_valid_iff]
  constructor
  · rintro ⟨ds, hds, hs⟩
    obtain ⟨rfl, -⟩ := Dimension.all_check_eq_valid_iff.1 (Checked.within_eq_valid_iff.1 hds)
    exact check_eq_valid_iff.1 hs
  · rintro ⟨rfl, hvalid⟩
    have hds := Dimension.all_check_eq_valid_iff.2 ⟨rfl, hvalid.enumValues⟩
    exact ⟨_, Checked.within_eq_valid_iff.2 hds, check_eq_valid_iff.2 ⟨rfl, hvalid⟩⟩

end SemanticModel

/-! ## Definitions -/

namespace Definition

theorem modelOf_eq_ok_iff {name : Value} {fields : Fields} {m : SemanticModel} :
    modelOf name fields = .ok m ↔ SemanticModel.ofFields fields = .valid m := by
  rw [modelOf]
  cases SemanticModel.ofFields fields <;> simp [Checked.toExcept, Except.mapError]

/-- Fields that make no model are refused with all that is wrong with them. -/
theorem modelOf_eq_error {name : Value} {fields : Fields} {e : DefinitionError}
    (h : modelOf name fields = .error e) : ∃ lines, e = .invalid name lines := by
  rw [modelOf] at h
  cases hfields : SemanticModel.ofFields fields with
  | valid m =>
    rw [hfields] at h
    cases h
  | invalid ps =>
    rw [hfields] at h
    exact ⟨_, (Except.error.inj h).symm⟩

/-- A model is accepted or refused as the fields of its document are. -/
theorem validate_model (m : SemanticModel) :
    (Definition.model m).validate =
      modelOf (.string m.name) (m.toFields.map fun f => (.string f.1, f.2)) := by
  have hvalidate : (Definition.model m).validate =
      (modelOf (.string m.name) (m.toFields.map fun f => (.string f.1, f.2)) >>= fun _ => pure m) :=
    rfl
  rw [hvalidate]
  cases hread : modelOf (.string m.name) (m.toFields.map fun f => (.string f.1, f.2)) with
  | error e => rfl
  | ok s =>
    -- What was read is the model itself.
    obtain ⟨rfl, -⟩ := SemanticModel.read_toValue_eq_valid_iff.1 (modelOf_eq_ok_iff.1 hread)
    rfl

/-- A document that is no mapping is refused as such. -/
theorem validate_of_entries_eq_error {v : Value} {cause : Value.EntriesError}
    (h : v.entries = .error cause) :
    (Definition.document v).validate = .error (.notMapping cause) := by
  rw [validate, h]
  rfl

/-- A definition is refused as invalid, unless it is a document that is no mapping. -/
theorem validate_eq_error {d : Definition} {e : DefinitionError} (h : d.validate = .error e) :
    (∃ name lines, e = .invalid name lines) ∨
      ∃ v cause, d = .document v ∧ v.entries = .error cause ∧ e = .notMapping cause := by
  cases d with
  | document v =>
    cases hentries : v.entries with
    | error cause =>
      rw [validate_of_entries_eq_error hentries] at h
      exact .inr ⟨v, cause, rfl, hentries, (Except.error.inj h).symm⟩
    | ok fields =>
      have hvalidate : (Definition.document v).validate =
          modelOf ((Value.lookup? "name" fields).getD .null) fields := by
        rw [validate, hentries]
        rfl
      exact .inl ⟨_, modelOf_eq_error (hvalidate.symm.trans h)⟩
  | model m => exact .inl ⟨_, modelOf_eq_error ((validate_model m).symm.trans h)⟩

/-- A model is valid as a definition exactly if it satisfies its rules, and stands for itself. -/
theorem validate_model_eq_ok_iff {m s : SemanticModel} :
    (Definition.model m).validate = .ok s ↔ s = m ∧ m.Valid := by
  rw [validate_model, modelOf_eq_ok_iff]
  exact SemanticModel.read_toValue_eq_valid_iff

/-- A model, whatever was changed in its parts since it was built, is valid as a definition exactly
if it breaks no rule. Then it stands for itself, and its document is read as the same model, field
by field. -/
theorem model_valid_iff_no_violations (m : SemanticModel) :
    ((∃ s, (Definition.model m).validate = .ok s) ↔ m.violations = []) ∧
      ∀ s, (Definition.model m).validate = .ok s →
        s = m ∧ SemanticModel.read m.toValue = .valid m := by
  constructor
  · rw [SemanticModel.violations_eq_nil_iff]
    constructor
    · rintro ⟨s, hs⟩
      exact (validate_model_eq_ok_iff.1 hs).2
    · intro hvalid
      exact ⟨m, validate_model_eq_ok_iff.2 ⟨rfl, hvalid⟩⟩
  · intro s hs
    obtain ⟨heq, hvalid⟩ := validate_model_eq_ok_iff.1 hs
    exact ⟨heq, SemanticModel.read_toValue_eq_valid_iff.2 ⟨rfl, hvalid⟩⟩

end Definition

end SemanticLayer
