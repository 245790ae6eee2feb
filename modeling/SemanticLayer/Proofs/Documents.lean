import SemanticLayer.Proofs.Assignment

/-!
# Definitions and their documents

Every definition is written as a document, and the document is read back as the definition: choices
by their names, lists item by item, records field by field. The lemmas `read_toValue` say so for
each kind of definition, and `SemanticModel.read_content` for each field of a valid model.

So in the document of a valid model with another value for one field, all that is left to read is
that value, and after it the model as a whole is checked (`SemanticModel.read_documentWith`). This
is what an assignment to the field does, too.
-/

namespace SemanticLayer

/-! ## Readers -/

namespace Checked

variable {α β : Type}

@[simp] theorem map_valid (f : α → β) (a : α) : f <$> Checked.valid a = .valid (f a) := rfl

@[simp] theorem seq_valid (f : α → β) (a : α) :
    (Checked.valid f : Checked (α → β)) <*> Checked.valid a = .valid (f a) := rfl

@[simp] theorem within_valid (s : Step) (a : α) : (Checked.valid a).within s = .valid a := rfl

/-- The problems of a part are problems of the whole, and there are no others. -/
theorem within_eq_valid_iff {s : Step} {c : Checked α} {a : α} :
    c.within s = .valid a ↔ c = .valid a := by
  cases c with
  | valid b => rfl
  | invalid ps => simp [within]

/-- Both of two values are valid exactly if each one is. -/
theorem both_eq_valid_iff {f : Checked (α → β)} {x : Unit → Checked α} {b : β} :
    f.both x = .valid b ↔ ∃ g a, f = .valid g ∧ x () = .valid a ∧ g a = b := by
  constructor
  · intro h
    cases f with
    | invalid ps =>
      unfold both at h
      cases hx : x () <;> rw [hx] at h <;> cases h
    | valid g =>
      unfold both at h
      cases hx : x () with
      | invalid ps =>
        rw [hx] at h
        cases h
      | valid a =>
        rw [hx] at h
        exact ⟨g, a, rfl, rfl, Checked.valid.inj h⟩
  · rintro ⟨g, a, rfl, ha, rfl⟩
    unfold both
    rw [ha]

/-- The values of a list are valid exactly if each one is. -/
theorem all_eq_valid_iff {i : Nat} {cs : List (Checked α)} {as : List α} :
    Checked.all i cs = .valid as ↔ cs = as.map .valid := by
  induction cs generalizing i as with
  | nil =>
    cases as with
    | nil => exact ⟨fun _ => rfl, fun _ => rfl⟩
    | cons a as => simp [Checked.all]
  | cons c cs ih =>
    rw [Checked.all, both_eq_valid_iff]
    constructor
    · rintro ⟨g, rest, hfirst, hrest, rfl⟩
      obtain ⟨g', a, hg, ha, rfl⟩ := both_eq_valid_iff.1 hfirst
      obtain rfl := Checked.valid.inj hg
      rw [within_eq_valid_iff.1 ha, ih.1 hrest]
      rfl
    · intro h
      cases as with
      | nil => cases h
      | cons a as =>
        obtain ⟨rfl, rfl⟩ := List.cons.inj h
        exact ⟨List.cons a, as, rfl, ih.2 rfl, rfl⟩

end Checked

namespace Reader

variable {α : Type}

/-- A text or nothing is read as it is written. -/
@[simp] theorem optional_ofText? (o : Option String) :
    Reader.optional .text (.ofText? o) = .valid o := by
  cases o <;> rfl

/-- A choice or nothing is read from its name. -/
theorem optional_oneOf {choices : List (String × α)} {name : α → String}
    (h : ∀ a, Reader.oneOf choices (.string (name a)) = .valid a) (o : Option α) :
    Reader.optional (.oneOf choices) (.ofText? (o.map name)) = .valid o := by
  cases o with
  | none => rfl
  | some a =>
    change some <$> Reader.oneOf choices (.string (name a)) = _
    rw [h]
    rfl

/-- What is read from its document is read from it also where it may be missing. -/
theorem optional_toValue {r : Reader α} {write : α → Value} (hread : ∀ a, r (write a) = .valid a)
    (hnull : ∀ a, write a ≠ .null) (o : Option α) :
    Reader.optional r ((o.map write).getD .null) = .valid o := by
  cases o with
  | none => rfl
  | some a =>
    have hsome : Reader.optional r (write a) = some <$> r (write a) := by
      unfold Reader.optional
      split
      · rename_i hwrite
        exact absurd hwrite (hnull a)
      · rfl
    rw [Option.map_some, Option.getD_some, hsome, hread]
    rfl

/-- A list is read exactly if each item is, and then item by item. -/
theorem list_map_eq_valid_iff {β : Type} {r : Reader β} {write : α → Value} {as : List α}
    {bs : List β} :
    Reader.list r (.list (as.map write)) = .valid bs ↔
      List.Forall₂ (fun a b => r (write a) = .valid b) as bs := by
  change Checked.all 0 ((as.map write).map r) = .valid bs ↔ _
  rw [Checked.all_eq_valid_iff, List.map_map, ← List.forall₂_eq_eq_eq, List.forall₂_map_left_iff,
    List.forall₂_map_right_iff]
  rfl

/-- A list of items that are each read as they were is read as it was. -/
theorem list_map {r : Reader α} {write : α → Value} {as : List α}
    (h : ∀ a ∈ as, r (write a) = .valid a) : Reader.list r (.list (as.map write)) = .valid as :=
  list_map_eq_valid_iff.2 (List.forall₂_same.2 h)

@[simp] theorem text_string (s : String) : Reader.text (.string s) = .valid s := rfl

@[simp] theorem record_record (kind : String) (r : Fields → Checked α)
    (fields : List (String × Value)) :
    Reader.record kind r (.record fields) = r (fields.map fun f => (.string f.1, f.2)) := rfl

end Reader

namespace Fields

variable {α : Type}

theorem lookup?_cons (name k : String) (v : Value) (fs : Fields) :
    Value.lookup? name ((.string k, v) :: fs) =
      if k = name then some v else Value.lookup? name fs := by
  by_cases h : k = name
  · simp [Value.lookup?, h]
  · simp [Value.lookup?, h]

@[simp] theorem need_cons (name k : String) (v : Value) (fs : Fields) (r : Reader α) :
    Fields.need ((.string k, v) :: fs) name r =
      if k = name then (r v).within (.field name) else Fields.need fs name r := by
  unfold Fields.need
  rw [lookup?_cons]
  by_cases h : k = name
  · rw [if_pos h, if_pos h]
  · rw [if_neg h, if_neg h]

@[simp] theorem get_cons (name k : String) (v : Value) (fs : Fields) (default : α)
    (r : Reader α) :
    Fields.get ((.string k, v) :: fs) name default r =
      if k = name then (r v).within (.field name) else Fields.get fs name default r := by
  unfold Fields.get
  rw [lookup?_cons]
  by_cases h : k = name
  · rw [if_pos h, if_pos h]
  · rw [if_neg h, if_neg h]

end Fields

/-! ## Elements -/

theorem EntityKind.read_name (k : EntityKind) :
    Reader.oneOf EntityKind.choices (.string k.name) = .valid k := by
  cases k <;> rfl

theorem DimensionKind.read_name (k : DimensionKind) :
    Reader.oneOf DimensionKind.choices (.string k.name) = .valid k := by
  cases k <;> rfl

theorem Granularity.read_name (g : Granularity) :
    Reader.oneOf Granularity.choices (.string g.name) = .valid g := by
  cases g <;> rfl

theorem Aggregation.read_name (a : Aggregation) :
    Reader.oneOf Aggregation.choices (.string a.name) = .valid a := by
  cases a <;> rfl

theorem WindowChoice.read_name (c : WindowChoice) :
    Reader.oneOf WindowChoice.choices (.string c.name) = .valid c := by
  cases c <;> rfl

theorem Entity.read_toValue (e : Entity) : Entity.read e.toValue = .valid e := by
  simp [Entity.read, Entity.toValue, Entity.ofFields, EntityKind.read_name]

theorem EnumValue.read_toValue (e : EnumValue) : EnumValue.read e.toValue = .valid e := by
  simp [EnumValue.read, EnumValue.toValue, EnumValue.ofFields]

theorem TypeParams.read_toValue (t : TypeParams) : TypeParams.read t.toValue = .valid t := by
  simp [TypeParams.read, TypeParams.toValue, TypeParams.ofFields,
    Reader.optional_oneOf Granularity.read_name]

theorem NonAdditiveDimension.read_toValue (n : NonAdditiveDimension) :
    NonAdditiveDimension.read n.toValue = .valid n := by
  have hgroupings : Reader.list .text (.list (n.windowGroupings.map .string)) =
      .valid n.windowGroupings := Reader.list_map fun _ _ => rfl
  simp [NonAdditiveDimension.read, NonAdditiveDimension.toValue, NonAdditiveDimension.ofFields,
    Reader.optional_oneOf WindowChoice.read_name, hgroupings]

theorem Measure.read_toValue (m : Measure) : Measure.read m.toValue = .valid m := by
  have hnonAdditive : Reader.optional NonAdditiveDimension.read
      ((m.nonAdditive.map NonAdditiveDimension.toValue).getD .null) = .valid m.nonAdditive :=
    Reader.optional_toValue NonAdditiveDimension.read_toValue (fun n h => by cases h) m.nonAdditive
  simp [Measure.read, Measure.toValue, Measure.ofFields, Aggregation.read_name, hnonAdditive]

/-- A dimension passes its check as it is, unless it is a time with values to choose from. -/
theorem Dimension.check_eq_valid_iff {d s : Dimension} :
    d.check = .valid s ↔ s = d ∧ (d.kind = .time → d.enumValues = []) := by
  have hrule : (!d.enumValues.isEmpty && d.kind != .categorical) = true ↔
      ¬ (d.kind = .time → d.enumValues = []) := by
    cases d.kind <;> simp
  rw [Dimension.check]
  by_cases h : d.kind = .time → d.enumValues = []
  · rw [if_neg (mt hrule.1 (not_not_intro h))]
    exact ⟨fun hs => ⟨(Checked.valid.inj hs).symm, h⟩, fun hs => congrArg _ hs.1.symm⟩
  · rw [if_pos (hrule.2 h)]
    exact ⟨fun hs => (by cases hs), fun hs => absurd hs.2 h⟩

/-- A dimension is read from its document as it was, and checked. -/
theorem Dimension.read_toValue_eq (d : Dimension) : Dimension.read d.toValue = d.check := by
  have hvalues : Reader.listOrNull EnumValue.read (.list (d.enumValues.map EnumValue.toValue)) =
      .valid d.enumValues := Reader.list_map fun e _ => e.read_toValue
  have hparams : Reader.optional TypeParams.read
      ((d.typeParams.map TypeParams.toValue).getD .null) = .valid d.typeParams :=
    Reader.optional_toValue TypeParams.read_toValue (fun t h => by cases h) d.typeParams
  simp [Dimension.read, Dimension.toValue, Dimension.ofFields, DimensionKind.read_name, hvalues,
    hparams, Checked.andThen]

/-- A dimension is read from its document, unless it is a time with values to choose from. -/
theorem Dimension.read_toValue {d : Dimension} (h : d.kind = .time → d.enumValues = []) :
    Dimension.read d.toValue = .valid d := by
  rw [d.read_toValue_eq]
  exact check_eq_valid_iff.2 ⟨rfl, h⟩

theorem Defaults.read_toValue (d : Defaults) : Defaults.read d.toValue = .valid d := by
  simp [Defaults.read, Defaults.toValue, Defaults.ofFields]

/-! ## Models -/

namespace ModelField

/-- What a field holds, as it stands in a document. -/
def write : (f : ModelField) → f.Content → Value
  | name, s | description, s | select, s => .string s
  | secondName, o => .ofText? o
  | tags, ts => .list (ts.map .string)
  | defaults, d => d.toValue
  | entities, es => .list (es.map Entity.toValue)
  | dimensions, ds => .list (ds.map Dimension.toValue)
  | measures, ms => .list (ms.map Measure.toValue)

/-- Fields other than the dimensions are read as they are written. -/
theorem read_write {f : ModelField} (h : f ≠ .dimensions) (c : f.Content) :
    f.read (f.write c) = .valid c := by
  cases f with
  | name | description | select => rfl
  | secondName => exact Reader.optional_ofText? c
  | tags => exact Reader.list_map fun _ _ => rfl
  | defaults => exact Defaults.read_toValue c
  | entities => exact Reader.list_map fun e _ => e.read_toValue
  | dimensions => exact absurd rfl h
  | measures => exact Reader.list_map fun e _ => e.read_toValue

/-- Fields are found by their names. -/
@[simp] theorem ofKey?_key (f : ModelField) : ofKey? f.key = some f := by
  cases f <;> rfl

/-- Different fields have different names. -/
theorem key_inj {f g : ModelField} : f.key = g.key ↔ f = g := by
  constructor
  · intro h
    have hsome : some f = some g := by rw [← ofKey?_key f, h, ofKey?_key]
    exact Option.some.inj hsome
  · exact congrArg key

end ModelField

namespace SemanticModel

/-- The document of a model with another value for one of the fields. -/
def documentWith (m : SemanticModel) (f : ModelField) (v : Value) : Value :=
  .record (m.toFields.map fun e => if e.1 = f.key then (e.1, v) else e)

/-- A model from what was read for each field. -/
def ofContents (contents : (f : ModelField) → Checked f.Content) : Checked SemanticModel :=
  SemanticModel.mk <$> contents .name <*> contents .description <*> contents .secondName <*>
    contents .select <*> contents .tags <*> contents .defaults <*> contents .entities <*>
    contents .dimensions <*> contents .measures

/-- A document with a value for each field is read field by field. -/
theorem ofFields_eq (values : ModelField → Value) :
    ofFields (ModelField.all.map fun g => (.string g.key, values g)) =
      (ofContents fun f => (f.read (values f)).within (.field f.key)).andThen check := by
  rfl

/-- If all fields but one hold what they hold in `m`, the result is `m` with what was read for that
one. -/
theorem ofContents_eq {m : SemanticModel} {contents : (f : ModelField) → Checked f.Content}
    (f : ModelField) (h : ∀ g, g ≠ f → contents g = .valid (m.content g)) :
    ofContents contents = m.store f <$> contents f := by
  have hone : ∀ c, contents f = c → ofContents contents = m.store f <$> c := by
    intro c hc
    cases f <;>
      · simp only [ofContents, hc, h, ne_eq, reduceCtorEq, not_false_eq_true]
        cases c <;> rfl
  exact hone (contents f) rfl

/-- What a field of a valid model holds is read from the document of the model. -/
theorem read_content {m : SemanticModel} (h : m.Valid) (f : ModelField) :
    f.read (f.write (m.content f)) = .valid (m.content f) := by
  by_cases hf : f = .dimensions
  · subst hf
    exact Reader.list_map fun d hd => Dimension.read_toValue (h.enumValues d hd)
  · exact ModelField.read_write hf (m.content f)

/-- The document of a model with another value for a field has a value for each field. -/
theorem documentWith_eq (m : SemanticModel) (f : ModelField) (v : Value) :
    m.documentWith f v = .mapping (ModelField.all.map fun g =>
      (.string g.key, if g = f then v else g.write (m.content g))) := by
  have hfields : m.toFields = ModelField.all.map fun g => (g.key, g.write (m.content g)) := rfl
  rw [documentWith, Value.record, hfields, List.map_map, List.map_map]
  refine congrArg Value.mapping (List.map_congr_left fun g _ => ?_)
  by_cases hg : g = f
  · simp [hg]
  · simp [hg, ModelField.key_inj]

/-- A document of a valid model with another value for a field is read as the value is read by
itself, and then the model with it is checked. -/
theorem read_documentWith {m : SemanticModel} (h : m.Valid) (f : ModelField) (v : Value) :
    read (m.documentWith f v) =
      ((f.read v).within (.field f.key)).andThen fun a => (m.store f a).check := by
  have hothers : ∀ g, g ≠ f →
      (g.read (if g = f then v else g.write (m.content g))).within (.field g.key) =
        .valid (m.content g) := by
    intro g hg
    rw [if_neg hg, read_content h]
    rfl
  calc read (m.documentWith f v)
      = ofFields (ModelField.all.map fun g =>
          (.string g.key, if g = f then v else g.write (m.content g))) := by
        rw [documentWith_eq]
        rfl
    _ = (m.store f <$> (f.read (if f = f then v else f.write (m.content f))).within
          (.field f.key)).andThen check := by
        rw [ofFields_eq, ofContents_eq f hothers]
    _ = ((f.read v).within (.field f.key)).andThen fun a => (m.store f a).check := by
        rw [if_pos rfl]
        cases (f.read v).within (.field f.key) <;> rfl

/-- Assigning a value to a field of a valid model ends as reading the document of the model with the
value in the place of the field: it is accepted exactly if the document can be read, and then with
the model that is read, and it is refused with exactly the problems of the document. -/
theorem assignment_agrees_with_reading {m : SemanticModel} (h : m.Valid) (f : ModelField)
    (v : Value) :
    (∀ s, Assignment.set f.key v m = .ok () s ↔ read (m.documentWith f v) = .valid s) ∧
      ∀ ps, Assignment.set f.key v m = .error (.invalid ps) m ↔
        read (m.documentWith f v) = .invalid ps := by
  have hset : Assignment.set f.key v m = Assignment.setField f (f.read v) m := by
    rw [Assignment.set, ModelField.ofKey?_key]
  rw [hset, read_documentWith h, Assignment.setField_apply]
  cases (f.read v).within (.field f.key) with
  | invalid ps => simp [Checked.andThen, store_content]
  | valid a =>
    by_cases hvalid : (m.store f a).Valid
    · simp [Checked.andThen, check_of_valid hvalid]
    · -- The content is stored, the model with it fails its check, and the content is taken back.
      obtain ⟨ps, hcheck⟩ := check_of_not_valid hvalid
      simp [Checked.andThen, hcheck]

/-- A model with a time dimension that it uses by default. -/
def visits : SemanticModel where
  name := "visits"
  select := " select 1 "
  defaults := { timeDimension := some "day" }
  dimensions := [{ name := "day", kind := .time, typeParams := some { granularity := some .week } }]

/-- Tags are accepted both ways, and a list of dimensions without the default one is refused both
ways. -/
theorem assignment_agrees_on_visits :
    visits.Valid ∧
      (∃ s, Assignment.set "tags" (.tuple [.string "web"]) visits = .ok () s ∧
        read (visits.documentWith .tags (.tuple [.string "web"])) = .valid s) ∧
      ∃ ps, Assignment.set "dimensions" (.list []) visits = .error (.invalid ps) visits ∧
        read (visits.documentWith .dimensions (.list [])) = .invalid ps := by
  have hvalid : visits.Valid := violations_eq_nil_iff.1 rfl
  have htags := assignment_agrees_with_reading hvalid .tags (.tuple [.string "web"])
  have hdimensions := assignment_agrees_with_reading hvalid .dimensions (.list [])
  exact ⟨hvalid, ⟨_, rfl, (htags.1 _).1 rfl⟩, ⟨_, rfl, (hdimensions.2 _).1 rfl⟩⟩

end SemanticModel

end SemanticLayer
