import Mathlib.Data.Finset.Card
import SemanticLayer.Proofs.Model

/-!
# What the rules of a model report

A model that breaks no rule is a valid one, and the other way round (`violations_eq_nil_iff`). Here
it is shown what the rule about names reports. It goes over the elements with the names it has seen.
An element is reported exactly if its name is that of an element before it (`repeated_eq`), so the
reports and the distinct names are together as many as the elements (`length_repeated_add_card`). No
other rule reports in the same words (`filter_reportsName_violations`).
-/

namespace SemanticLayer.SemanticModel

/-- The elements that have the name of an element before them. -/
def repeats (es : List (String × String)) : List (String × String) :=
  (es.zipIdx.filter fun e => (es.take e.2).any fun earlier => earlier.2 == e.1.2).map Prod.fst

/-- The report on an element that has the name of an element before it. -/
def nameReport (m : SemanticModel) (e : String × String) : String :=
  "There is duplicate name in " ++ m.label ++ ": " ++ e.1 ++ " '" ++ e.2 ++ "'"

/-- Whether a report is one on the name of an element. -/
def reportsName (report : String) : Bool :=
  "There is duplicate name in ".toList.isPrefixOf report.toList

/-! ## Names that were seen -/

/-- Going over elements with the names of those before them finds the elements whose names are among
the ones before. The elements before are `pre`, and `seen` holds their names. -/
theorem repeated_eq_filter {seen : List String} (pre es : List (String × String))
    (hseen : ∀ name, name ∈ seen ↔ ∃ e ∈ pre, e.2 = name) :
    repeated seen es =
      ((es.zipIdx pre.length).filter fun e =>
        ((pre ++ es).take e.2).any fun earlier => earlier.2 == e.1.2).map Prod.fst := by
  induction es generalizing seen pre with
  | nil => rfl
  | cons e es ih =>
    have hpre : (pre ++ e :: es).take pre.length = pre := List.take_left
    have hsplit : pre ++ e :: es = (pre ++ [e]) ++ es := by simp
    have hlength : (pre ++ [e]).length = pre.length + 1 := by simp
    -- The first element is looked at with `pre` before it, the others with `pre` and the first.
    have hfirst : (pre.any fun earlier => earlier.2 == e.2) = seen.contains e.2 := by
      rw [Bool.eq_iff_iff, List.any_eq_true, List.contains_iff_mem, hseen]
      simp
    rw [repeated, List.zipIdx_cons, List.filter_cons, hpre, hfirst]
    by_cases hmem : seen.contains e.2 = true
    · have hrest : ∀ name, name ∈ seen ↔ ∃ x ∈ pre ++ [e], x.2 = name := by
        intro name
        rw [hseen name]
        constructor
        · rintro ⟨x, hx, hname⟩
          exact ⟨x, List.mem_append_left _ hx, hname⟩
        · rintro ⟨x, hx, rfl⟩
          rcases List.mem_append.1 hx with hx | hx
          · exact ⟨x, hx, rfl⟩
          · obtain rfl := List.mem_singleton.1 hx
            exact (hseen x.2).1 (List.contains_iff_mem.1 hmem)
      rw [if_pos hmem, if_pos hmem, ih (pre ++ [e]) hrest, hlength, hsplit, List.map_cons]
    · have hrest : ∀ name, name ∈ e.2 :: seen ↔ ∃ x ∈ pre ++ [e], x.2 = name := by
        intro name
        rw [List.mem_cons, hseen name]
        constructor
        · rintro (rfl | ⟨x, hx, hname⟩)
          · exact ⟨e, by simp, rfl⟩
          · exact ⟨x, List.mem_append_left _ hx, hname⟩
        · rintro ⟨x, hx, rfl⟩
          rcases List.mem_append.1 hx with hx | hx
          · exact .inr ⟨x, hx, rfl⟩
          · exact .inl (congrArg Prod.snd (List.mem_singleton.1 hx))
      rw [if_neg hmem, if_neg hmem, ih (pre ++ [e]) hrest, hlength, hsplit]

/-- The rule about names finds the elements that have the name of an element before them. -/
theorem repeated_eq (es : List (String × String)) : repeated [] es = repeats es :=
  repeated_eq_filter [] es (by simp)

/-- The elements that are found and the names that are new are together as many as the elements. -/
theorem length_repeated_add_card (seen : List String) (es : List (String × String)) :
    (repeated seen es).length + ((es.map Prod.snd).toFinset \ seen.toFinset).card = es.length := by
  induction es generalizing seen with
  | nil => simp [repeated]
  | cons e es ih =>
    rw [repeated, List.map_cons, List.toFinset_cons, List.length_cons]
    by_cases hmem : e.2 ∈ seen
    · rw [if_pos (List.contains_iff_mem.2 hmem), List.length_cons,
        Finset.insert_sdiff_of_mem _ (List.mem_toFinset.2 hmem), ← ih seen]
      omega
    · have hnew : e.2 ∉ seen.toFinset := mt List.mem_toFinset.1 hmem
      have hcard : (insert e.2 (es.map Prod.snd).toFinset \ seen.toFinset).card =
          ((es.map Prod.snd).toFinset \ (e.2 :: seen).toFinset).card + 1 := by
        have hinsert : insert e.2 (es.map Prod.snd).toFinset \ seen.toFinset =
            insert e.2 ((es.map Prod.snd).toFinset \ (e.2 :: seen).toFinset) := by
          ext name
          simp only [Finset.mem_sdiff, Finset.mem_insert, List.mem_toFinset, List.mem_cons]
          by_cases hname : name = e.2
          · simp [hname, hmem]
          · simp [hname]
        rw [hinsert, Finset.card_insert_of_notMem (by simp)]
      rw [if_neg (mt List.contains_iff_mem.1 hmem), hcard, ← ih (e.2 :: seen)]
      omega

/-! ## Reports -/

/-- The rule about names reports on the elements that it finds. -/
theorem nameViolations_eq (m : SemanticModel) :
    m.nameViolations = (repeats m.elementNames).map m.nameReport := by
  rw [nameViolations, repeated_eq]
  rfl

/-- How a text begins does not change when it goes on. -/
theorem isPrefix_append {first : List Char} {s : String} (t : String) (h : first <+: s.toList) :
    first <+: (s ++ t).toList := by
  rw [String.toList_append]
  exact h.trans (List.prefix_append _ _)

/-- What the rule about names reports is a report on a name. -/
theorem reportsName_nameReport (m : SemanticModel) (e : String × String) :
    reportsName (m.nameReport e) = true :=
  List.isPrefixOf_iff_prefix.2 <|
    isPrefix_append _ <| isPrefix_append _ <| isPrefix_append _ <| isPrefix_append _ <|
      isPrefix_append _ <| isPrefix_append _ List.prefix_rfl

/-- A report that begins in other words is none on a name. -/
theorem reportsName_append {first : String} (rest : String)
    (hlong : ¬ "There is duplicate name in ".toList <+: first.toList)
    (hshort : ¬ first.toList <+: "There is duplicate name in ".toList) :
    reportsName (first ++ rest) = false := by
  rw [reportsName, Bool.eq_false_iff, Ne, List.isPrefixOf_iff_prefix]
  intro hprefix
  have hfirst : first.toList <+: (first ++ rest).toList := isPrefix_append rest List.prefix_rfl
  rcases List.prefix_or_prefix_of_prefix hprefix hfirst with h | h
  · exact hlong h
  · exact hshort h

/-- No rule about something else reports on a name. -/
theorem reportsName_of_mem_other {m : SemanticModel} {report : String}
    (h : report ∈ m.selectViolations ++ m.primaryViolations ∨
      report ∈ m.defaultViolations ++ m.enumViolations) :
    reportsName report = false := by
  have hselect (rest : String) : reportsName ("The model of " ++ rest) = false :=
    reportsName_append rest (by decide) (by decide)
  have hprimary (rest : String) :
      reportsName ("There can be at most one primary entity in " ++ rest) = false :=
    reportsName_append rest (by decide) (by decide)
  have hdefault (rest : String) : reportsName ("The '" ++ rest) = false :=
    reportsName_append rest (by decide) (by decide)
  have henum (rest : String) : reportsName ("The time type " ++ rest) = false :=
    reportsName_append rest (by decide) (by decide)
  rcases h with h | h <;> rcases List.mem_append.1 h with h | h
  · rcases List.mem_append.1 h with h | h
    · split at h
      · cases h
      · rw [List.mem_singleton.1 h, String.append_assoc]
        exact hselect _
    · split at h
      · rw [List.mem_singleton.1 h, String.append_assoc, String.append_assoc]
        exact hselect _
      · cases h
  · simp only [primaryViolations] at h
    split at h
    · rw [List.mem_singleton.1 h, String.append_assoc, String.append_assoc]
      exact hprimary _
    · cases h
  · rw [defaultViolations] at h
    cases hname : m.defaults.timeDimension with
    | none =>
      rw [hname] at h
      cases h
    | some name =>
      rw [hname] at h
      dsimp only at h
      split at h
      · cases h
      · rw [List.mem_singleton.1 h, String.append_assoc, String.append_assoc, String.append_assoc]
        exact hdefault _
  · simp only [enumViolations] at h
    split at h
    · cases h
    · rw [List.mem_singleton.1 h, String.append_assoc, String.append_assoc]
      exact henum _

/-- The reports on names are the reports on the elements that have the name of an element before
them, in the order of the elements. -/
theorem filter_reportsName_violations (m : SemanticModel) :
    m.violations.filter reportsName = (repeats m.elementNames).map m.nameReport := by
  have hbefore : (m.selectViolations ++ m.primaryViolations).filter reportsName = [] :=
    List.filter_eq_nil_iff.2 fun report hr => by simp [reportsName_of_mem_other (.inl hr)]
  have hafter : (m.defaultViolations ++ m.enumViolations).filter reportsName = [] :=
    List.filter_eq_nil_iff.2 fun report hr => by simp [reportsName_of_mem_other (.inr hr)]
  have hnames : m.nameViolations.filter reportsName = m.nameViolations := by
    rw [nameViolations_eq, List.filter_eq_self]
    intro report hr
    obtain ⟨e, -, rfl⟩ := List.mem_map.1 hr
    exact reportsName_nameReport m e
  calc m.violations.filter reportsName
      = (m.selectViolations ++ m.primaryViolations).filter reportsName ++
          m.nameViolations.filter reportsName ++
          (m.defaultViolations ++ m.enumViolations).filter reportsName := by
        rw [violations, List.append_assoc _ m.defaultViolations, List.filter_append,
          List.filter_append]
    _ = m.nameViolations := by rw [hbefore, hafter, hnames, List.nil_append, List.append_nil]
    _ = (repeats m.elementNames).map m.nameReport := m.nameViolations_eq

/-- A model breaks no rule exactly if it is valid. Of its elements, entities first, then dimensions,
then measures, those that have the name of an element before them are reported, one by one; so there
are as many reports on names as there are elements beyond the distinct names. -/
theorem violations_exact (m : SemanticModel) :
    (m.violations = [] ↔ m.Valid) ∧
      m.violations.filter reportsName = (repeats m.elementNames).map m.nameReport ∧
      (m.violations.filter reportsName).length + (m.elementNames.map Prod.snd).toFinset.card =
        m.elementNames.length := by
  refine ⟨violations_eq_nil_iff, m.filter_reportsName_violations, ?_⟩
  have hcount := length_repeated_add_card [] m.elementNames
  rw [List.toFinset_nil, Finset.sdiff_empty] at hcount
  rw [filter_reportsName_violations, List.length_map, ← repeated_eq]
  exact hcount

end SemanticLayer.SemanticModel
