import SemanticLayer.Model.Assignment
import SemanticLayer.Proofs.Model

/-!
# Models under assignments

What an assignment does to a model is said once: `setField_cases` and `setInPart_cases` list the
ways in which it can end, with the model after it. An assignment that is refused has stored the new
content and taken it back, so it ends with the model it began with (`store_content` and
`store_store`). From these cases it follows what one attempt preserves (`Attempt.next_valid`), and
by induction what any number of attempts preserves (`after_valid`).
-/

namespace SemanticLayer

/-! ## Storing -/

namespace SemanticModel

/-- What was stored in a field is there. -/
@[simp] theorem content_store_self (m : SemanticModel) (f : ModelField) (a : f.Content) :
    (m.store f a).content f = a := by
  cases f <;> rfl

/-- Storing in a field leaves the other fields alone. -/
theorem content_store_of_ne (m : SemanticModel) {f g : ModelField} (a : f.Content) (h : g ≠ f) :
    (m.store f a).content g = m.content g := by
  cases f <;> cases g <;> first | rfl | exact absurd rfl h

/-- Storing what a field holds changes nothing. -/
@[simp] theorem store_content (m : SemanticModel) (f : ModelField) :
    m.store f (m.content f) = m := by
  cases f <;> rfl

/-- Of two contents stored in a field the last one stays. -/
@[simp] theorem store_store (m : SemanticModel) (f : ModelField) (a b : f.Content) :
    (m.store f a).store f b = m.store f b := by
  cases f <;> rfl

end SemanticModel

/-! ## One assignment -/

namespace Assignment

/-- How an assignment to a field runs: a value that is refused by itself and a model that fails its
check both end with the old content stored again. -/
theorem setField_apply (f : ModelField) (new : Checked f.Content) (m : SemanticModel) :
    setField f new m =
      match new.within (.field f.key) with
      | .invalid ps => .error (.invalid ps) (m.store f (m.content f))
      | .valid a =>
        match (m.store f a).check with
        | .invalid ps => .error (.invalid ps) ((m.store f a).store f (m.content f))
        | .valid _ => .ok () (m.store f a) := by
  cases new with
  | invalid ps => rfl
  | valid a =>
    have hget (m : SemanticModel) : (get : Assignment SemanticModel) m = .ok m m := rfl
    have hmodify (h : SemanticModel → SemanticModel) (m : SemanticModel) :
        (modify h : Assignment Unit) m = .ok () (h m) := rfl
    simp only [setField, Checked.within, accepted, bind, EStateM.bind, hget, tryCatch, tryCatchThe,
      MonadExceptOf.tryCatch, EStateM.tryCatch, hmodify, pure, EStateM.pure]
    cases (m.store f a).check <;> rfl

/-- The ways in which an assignment to a field ends: the new content is there and the model with it
is valid, or the model is what it was. -/
theorem setField_cases (f : ModelField) (new : Checked f.Content) (m : SemanticModel) :
    (∃ a, new = .valid a ∧ (m.store f a).Valid ∧ setField f new m = .ok () (m.store f a)) ∨
      ((∀ a, new = .valid a → ¬ (m.store f a).Valid) ∧ ∃ e, setField f new m = .error e m) := by
  rw [setField_apply]
  cases new with
  | invalid ps =>
    simp only [Checked.within, SemanticModel.store_content]
    exact .inr ⟨nofun, _, rfl⟩
  | valid a =>
    by_cases hvalid : (m.store f a).Valid
    · simp only [Checked.within, SemanticModel.check_of_valid hvalid]
      exact .inl ⟨a, rfl, hvalid, rfl⟩
    · -- The content is stored, the model with it fails its check, and the content is taken back.
      obtain ⟨ps, hcheck⟩ := SemanticModel.check_of_not_valid hvalid
      simp only [Checked.within, hcheck, SemanticModel.store_store, SemanticModel.store_content]
      exact .inr ⟨fun b hb => Checked.valid.inj hb ▸ hvalid, _, rfl⟩

/-- The ways in which an assignment by name ends: as one to the field of the name, or without a
change. -/
theorem set_cases (name : String) (v : Value) (m : SemanticModel) :
    (∃ f, ModelField.ofKey? name = some f ∧ set name v = setField f (f.read v)) ∨
      (ModelField.ofKey? name = none ∧
        (set name v m = .ok () m ∨ ∃ e, set name v m = .error e m)) := by
  rw [set]
  cases ModelField.ofKey? name with
  | some f => exact .inl ⟨f, rfl, rfl⟩
  | none =>
    refine .inr ⟨rfl, ?_⟩
    dsimp only
    split
    · exact .inl rfl
    · split
      · exact .inr ⟨_, rfl⟩
      · exact .inr ⟨_, rfl⟩

/-- The ways in which an assignment to a field of a part ends: it is refused, or the name is none of
a document. In no case does the model change. -/
theorem setInPart_cases (p : Part) (name : String) (m : SemanticModel) :
    (∃ e, setInPart p name m = .error e m) ∨
      (SemanticModel.isHidden name = true ∧ setInPart p name m = .ok () m) := by
  have hrun : setInPart p name m =
      if !m.hasPart p then .error .noItem m
      else if SemanticModel.isHidden name then .ok () m
      else .error (.invalid [{ path := [.field name], fault := .frozen }]) m := by
    change (if !m.hasPart p then throw .noItem
      else if SemanticModel.isHidden name then pure ()
      else throw (.invalid [{ path := [.field name], fault := .frozen }]) : Assignment Unit) m = _
    split
    · rfl
    · split <;> rfl
  rw [hrun]
  split
  · exact .inl ⟨_, rfl⟩
  · split
    · rename_i hhidden
      exact .inr ⟨hhidden, rfl⟩
    · exact .inl ⟨_, rfl⟩

end Assignment

/-- No field of a part has a name outside the document. -/
theorem Part.isHidden_of_mem_fields {p : Part} {name : String} (h : name ∈ p.fields) :
    SemanticModel.isHidden name = false := by
  have hall : p.fields.all (fun s => !SemanticModel.isHidden s) = true := by
    cases p <;> rfl
  simpa using List.all_eq_true.1 hall name h

/-! ## Attempts -/

/-- An attempt to change a model. -/
inductive Attempt where
  /-- A value is assigned to what has the name. -/
  | toName (name : String) (v : Value)
  /-- Something is assigned to a field; looked at by itself it is found to be `new`. -/
  | toField (f : ModelField) (new : Checked f.Content)
  /-- Something is assigned to a field of a part. -/
  | toPart (p : Part) (name : String)

namespace Attempt

/-- What an attempt does. -/
def run : Attempt → Assignment Unit
  | toName name v => Assignment.set name v
  | toField f new => Assignment.setField f new
  | toPart p name => Assignment.setInPart p name

/-- The field that an attempt may change. -/
def target? : Attempt → Option ModelField
  | toName name _ => ModelField.ofKey? name
  | toField f _ => some f
  | toPart .. => none

/-- The model after an attempt, whether it was accepted or refused. -/
def next (a : Attempt) (m : SemanticModel) : SemanticModel :=
  match a.run m with
  | .ok _ s => s
  | .error _ s => s

end Attempt

/-- The model after attempts, one after the other. -/
def SemanticModel.after (m : SemanticModel) (as : List Attempt) : SemanticModel :=
  as.foldl (fun s a => a.next s) m

namespace Attempt

/-- The ways in which an attempt ends: it is accepted and changes its target to something with which
the model is valid, it is accepted and changes nothing, or it is refused and changes nothing. -/
theorem run_cases (a : Attempt) (m : SemanticModel) :
    (∃ f c, a.target? = some f ∧ (m.store f c).Valid ∧ a.run m = .ok () (m.store f c)) ∨
      (a.target? = none ∧ a.run m = .ok () m) ∨ ∃ e, a.run m = .error e m := by
  -- An attempt on a field, by itself or by name.
  have hfield (f : ModelField) (new : Checked f.Content) :
      (∃ c, (m.store f c).Valid ∧ Assignment.setField f new m = .ok () (m.store f c)) ∨
        ∃ e, Assignment.setField f new m = .error e m := by
    rcases Assignment.setField_cases f new m with ⟨c, -, hvalid, hrun⟩ | ⟨-, herror⟩
    · exact .inl ⟨c, hvalid, hrun⟩
    · exact .inr herror
  cases a with
  | toName name v =>
    rcases Assignment.set_cases name v m with ⟨f, hkey, hset⟩ | ⟨hkey, hrun⟩
    · rcases hfield f (f.read v) with ⟨c, hvalid, hrun⟩ | ⟨e, hrun⟩
      · exact .inl ⟨f, c, hkey, hvalid, (congrFun hset m).trans hrun⟩
      · exact .inr (.inr ⟨e, (congrFun hset m).trans hrun⟩)
    · exact .inr (hrun.imp_left fun h => ⟨hkey, h⟩)
  | toField f new =>
    rcases hfield f new with ⟨c, hvalid, hrun⟩ | herror
    · exact .inl ⟨f, c, rfl, hvalid, hrun⟩
    · exact .inr (.inr herror)
  | toPart p name =>
    rcases Assignment.setInPart_cases p name m with herror | ⟨-, hrun⟩
    · exact .inr (.inr herror)
    · exact .inr (.inl ⟨rfl, hrun⟩)

/-- An attempt on a valid model leaves it valid. -/
theorem next_valid (a : Attempt) {m : SemanticModel} (h : m.Valid) : (a.next m).Valid := by
  unfold next
  rcases a.run_cases m with ⟨f, c, -, hvalid, hrun⟩ | ⟨-, hrun⟩ | ⟨e, hrun⟩
  · rw [hrun]
    exact hvalid
  · rw [hrun]
    exact h
  · rw [hrun]
    exact h

end Attempt

namespace SemanticModel

/-- Attempts on a valid model leave it valid. -/
theorem after_valid {m : SemanticModel} (h : m.Valid) (as : List Attempt) : (m.after as).Valid := by
  induction as generalizing m with
  | nil => exact h
  | cons a as ih => exact ih (a.next_valid h)

/-- After any attempts on a model that was read from a document, the model is valid. A further
attempt that is refused leaves the model as it is; one that is accepted leaves all fields but its
target as they are; one that puts a content into a field with which the model is valid is accepted
and puts it there; and one on a field of a part is refused. -/
theorem attempts_keep_model_valid {fields : Fields} {m : SemanticModel}
    (hbuilt : ofFields fields = .valid m) (as : List Attempt) (a : Attempt) :
    (m.after as).Valid ∧
      (∀ e s, a.run (m.after as) = .error e s → s = m.after as) ∧
      (∀ s, a.run (m.after as) = .ok () s →
        ∀ g, a.target? ≠ some g → s.content g = (m.after as).content g) ∧
      (∀ f c, a = .toField f (.valid c) → ((m.after as).store f c).Valid →
        a.run (m.after as) = .ok () ((m.after as).store f c)) ∧
      (∀ p name, a = .toPart p name → name ∈ p.fields →
        ∃ e, a.run (m.after as) = .error e (m.after as)) := by
  have hvalid := after_valid (ofFields_valid hbuilt) as
  generalize m.after as = t at hvalid ⊢
  refine ⟨hvalid, ?_, ?_, ?_, ?_⟩
  · intro e s hrun
    rcases a.run_cases t with ⟨f, c, -, -, hok⟩ | ⟨-, hok⟩ | ⟨e', herror⟩
    · nomatch hrun.symm.trans hok
    · nomatch hrun.symm.trans hok
    · exact (EStateM.Result.error.inj (hrun.symm.trans herror)).2
  · intro s hrun g hg
    rcases a.run_cases t with ⟨f, c, htarget, -, hok⟩ | ⟨-, hok⟩ | ⟨e', herror⟩
    · obtain rfl := (EStateM.Result.ok.inj (hrun.symm.trans hok)).2
      exact t.content_store_of_ne c fun hgf => hg (hgf ▸ htarget)
    · rw [(EStateM.Result.ok.inj (hrun.symm.trans hok)).2]
    · nomatch hrun.symm.trans herror
  · rintro f c rfl hstored
    rcases Assignment.setField_cases f (.valid c) t with ⟨c', hc, -, hok⟩ | ⟨hrefused, -⟩
    · obtain rfl := Checked.valid.inj hc
      exact hok
    · exact absurd hstored (hrefused c rfl)
  · rintro p name rfl hname
    rcases Assignment.setInPart_cases p name t with herror | ⟨hhidden, -⟩
    · exact herror
    · rw [Part.isHidden_of_mem_fields hname] at hhidden
      nomatch hhidden

/-- The document of a model with a time dimension that it uses by default. -/
def visitsFields : Fields :=
  [(.string "name", .string "visits"), (.string "model", .string " select 1 "),
    (.string "defaults", .record [("agg_time_dimension", .string "day")]),
    (.string "dimensions", .list [.record [("name", .string "day"), ("type", .string "TIME")]])]

/-- Attempts on the model of that document: a statement that is none is refused, and so is a list of
dimensions without the default one; a list of tags is accepted. -/
theorem attempts_keep_visits_valid :
    ∃ m, ofFields visitsFields = .valid m ∧
      (m.after [.toName "model" (.string "DROP"), .toName "tags" (.list [.string "web"]),
        .toField .dimensions (.valid [])]).Valid ∧
      ∃ e, (Attempt.toPart (.dimension 0) "type").run
        (m.after [.toName "model" (.string "DROP"), .toName "tags" (.list [.string "web"]),
          .toField .dimensions (.valid [])]) =
        .error e (m.after [.toName "model" (.string "DROP"),
          .toName "tags" (.list [.string "web"]), .toField .dimensions (.valid [])]) := by
  have hbuilt : ofFields visitsFields = .valid
      { name := "visits", select := " select 1 ", defaults := { timeDimension := some "day" },
        dimensions := [{ name := "day", kind := .time }] } := by
    rfl
  obtain ⟨hvalid, -, -, -, hpart⟩ := attempts_keep_model_valid hbuilt
    [.toName "model" (.string "DROP"), .toName "tags" (.list [.string "web"]),
      .toField .dimensions (.valid [])] (.toPart (.dimension 0) "type")
  exact ⟨_, hbuilt, hvalid, hpart _ _ rfl (by decide)⟩

end SemanticModel

end SemanticLayer
