import SemanticLayer.Sql.Printer

/-!
# From layouts to texts

The text of a layout is put together as the layout is, and a tree that is fitted to a target already
stays as it is when it is fitted once more.
-/

namespace SemanticLayer

/-- A text without blanks at its ends. -/
theorem Text.strip_eq_self {s : String} {a b : Char} (hfirst : s.toList.head? = some a)
    (hlast : s.toList.getLast? = some b) (ha : Text.isBlank a = false)
    (hb : Text.isBlank b = false) : Text.strip s = s := by
  obtain ⟨xs, hxs⟩ := List.head?_eq_some_iff.mp hfirst
  obtain ⟨ys, hys⟩ := List.getLast?_eq_some_iff.mp hlast
  have hdrop : s.toList.dropWhile Text.isBlank = s.toList := by
    rw [hxs, List.dropWhile_cons_of_neg (by simp [ha])]
  have hright : Text.trimRight s.toList = s.toList := by
    rw [Text.trimRight, hys, List.reverse_append, List.reverse_singleton, List.singleton_append,
      List.dropWhile_cons_of_neg (by simp [hb])]
    simp
  rw [Text.strip, Text.trim, hdrop, hright, String.ofList_toList]

namespace Sql

/-! ## Texts of layouts -/

namespace Layout

@[simp] theorem toText_atom (s : String) : (atom s).toText = s := by
  simp [toText, atom, String.intercalate_singleton]

theorem intercalate_join (ls ms : List String) :
    "\n".intercalate (join ls ms) = "\n".intercalate ls ++ "\n".intercalate ms := by
  induction ls with
  | nil => simp [join]
  | cons l ls ih =>
    cases ls with
    | nil =>
      cases ms with
      | nil => simp [join]
      | cons m ms => cases ms <;> simp [join, String.intercalate_cons_cons, String.append_assoc]
    | cons l' ls =>
      have hjoin : ∃ x xs, join (l' :: ls) ms = x :: xs := by
        cases ls <;> cases ms <;> exact ⟨_, _, rfl⟩
      obtain ⟨x, xs, hx⟩ := hjoin
      rw [join, hx, String.intercalate_cons_cons, ← hx, ih, String.intercalate_cons_cons]
      all_goals simp [String.append_assoc]

@[simp] theorem toText_append (a b : Layout) : (a ++ b).toText = a.toText ++ b.toText :=
  intercalate_join a.lines b.lines

/-- A text whose line breaks divide lines is the text all the same. -/
@[simp] theorem toText_ofText (s : String) : (ofText s).toText = s := by
  unfold ofText toText
  extract_lets step
  have hlines (cs : List Char) : ∃ l ls, cs.foldr step [[]] = l :: ls ∧
      ("\n".intercalate ((l :: ls).map String.ofList)).toList = cs := by
    induction cs with
    | nil => exact ⟨[], [], rfl, by simp⟩
    | cons c cs ih =>
      obtain ⟨l, ls, hfold, htext⟩ := ih
      rw [List.foldr_cons, hfold]
      by_cases hc : c = '\n'
      · refine ⟨[], l :: ls, by simp [step, hc], ?_⟩
        rw [List.map_cons, List.map_cons, String.intercalate_cons_cons, ← List.map_cons,
          String.toList_append, String.toList_append, htext, hc]
        rfl
      · refine ⟨c :: l, ls, by simp [step, hc], ?_⟩
        rw [List.map_cons] at htext ⊢
        cases ls with
        | nil => simpa using htext
        | cons m ls => simpa [String.intercalate_cons_cons] using htext
  obtain ⟨l, ls, hfold, htext⟩ := hlines s.toList
  rw [hfold]
  exact String.toList_inj.mp htext

/-- A layout begins as its text does, unless that is a line break. -/
theorem first?_of_toText {a : Layout} {x : Char} {xs : List Char} (h : a.toText.toList = x :: xs)
    (hx : x ≠ '\n') : a.first? = some x := by
  obtain ⟨ls⟩ := a
  cases ls with
  | nil => simp [toText] at h
  | cons l ls =>
    rw [first?, List.head?_cons, Option.bind_some]
    cases hl : l.toList with
    | nil =>
      obtain rfl : l = "" := String.toList_eq_nil_iff.mp hl
      cases ls with
      | nil => simp [toText] at h
      | cons m ls =>
        rw [toText, String.intercalate_cons_cons, String.toList_append, String.toList_append] at h
        exact absurd (List.cons.inj h).1.symm hx
    | cons y ys =>
      cases ls with
      | nil => simp_all [toText]
      | cons m ls =>
        rw [toText, String.intercalate_cons_cons, String.toList_append, String.toList_append,
          hl] at h
        rw [List.head?_cons, (List.cons.inj h).1]

@[simp] theorem toText_empty : (empty).toText = "" := toText_atom ""

end Layout

/-! ## Fitted trees -/

namespace Lowering

theorem lowerAll_self {t : Target} {site : Site} {ns : List Node}
    (h : ∀ n ∈ ns, ∀ s, lowerIn t s n = n) : lowerAll t site ns = ns := by
  induction ns with
  | nil => rfl
  | cons n ns ih =>
    obtain ⟨hn, hns⟩ := List.forall_mem_cons.mp h
    rw [lowerAll, hn, ih hns]

theorem numberTablesAll_self {clauses : Bool} {ns : List Node}
    (h : ∀ n ∈ ns, numberTables n = pure n) : numberTablesAll clauses ns = pure ns := by
  induction ns with
  | nil => rfl
  | cons n ns ih =>
    obtain ⟨hn, hns⟩ := List.forall_mem_cons.mp h
    rw [numberTablesAll, hn, ih hns]
    split <;> rfl

theorem numberTables_self {head : Head} {c : List String} {ns : List Node}
    (hhead : Lowering.numberHead head = pure head) (h : ∀ n ∈ ns, numberTables n = pure n) :
    numberTables (.mk head c ns) = pure (.mk head c ns) := by
  have hzip : List.zipWith (fun n w : Node => if w.head.isWith then w else n) ns ns = ns := by
    rw [List.zipWith_self]
    simp
  rw [numberTables, hhead, numberTablesAll_self h, numberTablesAll_self h]
  simp only [pure_bind, hzip]

end Lowering

end Sql

end SemanticLayer
