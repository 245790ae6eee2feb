import SemanticLayer.Proofs.NameOrigin.Query

/-!
# Where the names of a fitted tree come from

`fit` keeps what holds of the names of a node and its parts, so `lowerIn` keeps it by induction on
the tree. Numbering the tables without names changes no names.
-/

namespace SemanticLayer.Sql

namespace Lowering

variable {t : Target} {P : Ident → Prop} {h : Head} {c d : List String} {ps qs : List Node}
  {n this other : Node}

attribute [local simp] holds_mk holds_of Head.takesNames.eq_def Head.isDistinct.eq_def
  List.forall_mem_cons

theorem holds_nullsInside (keyword : String) (hps : ∀ p ∈ ps, Holds t P p) :
    ∀ p ∈ nullsInside keyword ps, Holds t P p := by
  fun_induction nullsInside keyword ps with
  | case1 => simp
  | case2 => simp_all
  | case3 => simp_all
  | case4 n m ns ih =>
    rw [List.forall_mem_cons] at hps ⊢
    exact ⟨hps.1, ih hps.2⟩

theorem holds_nullTreatment (keyword : String) (hthis : Holds t P this) :
    Holds t P (nullTreatment t c keyword this) := by
  unfold nullTreatment
  split
  · simpa using hthis
  · split
    · split
      · rw [holds_mk rfl rfl] at hthis ⊢
        exact holds_nullsInside keyword hthis
      · exact hthis
    · exact hthis

theorem holds_orderedGroup (hps : ∀ p ∈ ps, Holds t P p) : Holds t P (orderedGroup t c ps) := by
  have hsame : Holds t P (.mk .withinGroup c ps) := by simpa using hps
  unfold orderedGroup
  dsimp only
  split
  · next kind name d fraction rest order =>
    split
    · split
      · next key hkey =>
        obtain ⟨first, hfirst, hkey⟩ := Option.bind_eq_some_iff.1 hkey
        simp only [List.forall_mem_cons] at hps
        have hfirst := hps.2.1.parts first (List.mem_of_mem_head? hfirst)
        have hkey := hfirst.parts key (List.mem_of_mem_head? hkey)
        have hfraction := hps.1.parts fraction List.mem_cons_self
        simp [hkey, hfraction, hps.2.1]
      · exact hsame
    · exact hsame
  · exact hsame

theorem holds_jsonPart (parent : Head) (scalar arrow : Bool) (hthis : Holds t P this)
    (hn : Holds t P n) (hps : ∀ p ∈ ps, Holds t P p) :
    Holds t P (jsonPart t parent c scalar arrow this n ps) := by
  unfold jsonPart
  extract_lets name kind text whole guarded segment
  have htext : Holds t P text := by
    unfold text
    split
    · simp
    · exact hn
  have hwhole : Holds t P whole := by simp [whole, hthis, htext]
  have hsegment : ∀ s, Holds t P (segment s) := by
    intro s
    unfold segment
    split
    · split
      · exact holds_literal _
      · simp
    · simp
  clear_value text whole guarded segment
  split
  · split
    · simpa using hwhole
    · exact hwhole
  · split
    · simp [hthis, htext]
    · simpa [hthis, htext] using hps
  · split
    · refine List.foldlRecOn (motive := Holds t P) _ _ hthis fun a ha s _ => ?_
      simp [ha, hsegment s]
    · simp [hthis, hsegment]
    · simp [hthis, hn]
    · simp [hthis, hn]
  · simpa [hthis, htext] using hps

theorem holds_fitBinary (parent : Head) (op : BinaryOp) (hps : ∀ p ∈ ps, Holds t P p) :
    Holds t P (fitBinary t parent c op ps) := by
  have hsame : Holds t P (.mk (.binary op) c ps) := by simpa using hps
  unfold fitBinary
  dsimp only
  split
  · split
    · exact hsame
    · simpa using holds_joinOperandsAll hps
  · split
    · exact hsame
    · simp only [List.forall_mem_cons] at hps
      exact holds_getD (holds_spelledQuantifier hps.1 hps.2.1) hsame
  · split
    · simpa using hps
    · split
      · exact hsame
      · simp only [List.forall_mem_cons] at hps
        exact holds_getD (holds_spelledQuantifier hps.1 hps.2.1) hsame
  · split
    · exact hsame
    · simpa using hps
  · exact holds_patternMatch false hps
  · exact holds_patternMatch true hps
  · exact holds_integerDivision hps
  · split
    · simpa using hps
    · exact hsame
  · split
    · exact hsame
    · simp only [List.forall_mem_cons] at hps
      exact holds_exactlyOne hps.1 hps.2.1
  · split
    · simpa using hps
    · exact hsame

theorem holds_hintItem (hn : Holds t P n) : Holds t P (hintItem n) := by
  unfold hintItem
  split
  · simpa using hn
  · exact hn

/-- The call of a field of a record, which the target writes with the field as a name. -/
def namesField (t : Target) (h : Head) : Prop :=
  ∃ name, h = .call (.known "STRUCTEXTRACT" name) ∧ t.functions = .postgres

theorem holds_fit (hP : Covers P) (s : Site) (hfield : namesField t h → ∀ s, P (.ofText s))
    (hn : Holds t P (.mk h c ps)) : Holds t P (fit t s h c ps) := by
  have hps : ∀ p ∈ ps, Holds t P p := hn.parts
  unfold fit
  dsimp only
  split
  · exact holds_fitBinary s.parent _ hps
  · split
    · simpa using holds_map (fun n => holds_hintItem) hps
    · exact hn
  · simp only [List.forall_mem_cons] at hps
    rw [holds_mk rfl rfl, List.forall_mem_cons]
    refine ⟨by simp [hps.1, hps.2.1], holds_map (fun n hn => ?_) (holds_take 1 hps.2.2)⟩
    simpa using hn
  · split
    · simpa using holds_oneDistinct hps
    · exact hn
  · next kind name =>
    refine holds_fitKnown hP (fun hkind hfunctions => hfield ⟨name, ?_, hfunctions⟩) hps
    rw [hkind]
  · exact holds_joinGroup hps
  · exact holds_conversion _ hps
  · simp only [List.forall_mem_cons] at hps
    split
    · simpa [holds_usualPart hps.1] using hps.2
    · exact hn
  · split
    · exact hn
    · exact hps _ List.mem_cons_self
  · exact holds_nullTreatment _ (hps _ List.mem_cons_self)
  · exact holds_orderedGroup hps
  · split
    · exact hn
    · simpa using hps
  · simp only [List.forall_mem_cons] at hps
    simpa [hps.1] using holds_moved t.firstIndex hps.2
  · simp only [List.forall_mem_cons] at hps
    exact holds_jsonPart s.parent _ _ hps.1 hps.2.1 hps.2.2
  · exact holds_fitSelect hP hps
  iterate 4
    rw [holds_named rfl] at hn ⊢
    exact ⟨hn.1, holds_queryParts hn.2⟩
  · exact holds_fitRecord hps
  iterate 2
    split
    · exact holds_rebuild hn length_unqualifiedAll (holds_unqualifiedAll hps)
    · exact hn
  · next label view =>
    split
    · refine holds_getD (holds_unnestView (fun i hi => ?_) (hps view List.mem_cons_self)) hn
      rcases List.mem_append.1 hi with hname | hcolumn
      · exact hn.fine.views i hname
      · exact hn.fine.names i hcolumn
    · exact hn
  · split
    · exact hn
    · exact holds_getD (holds_valuesUnion hn.fine.names hps) hn
  · exact hn

/-- What the fields of records that become names ask of `P`. -/
def FieldsHold (t : Target) (P : Ident → Prop) (n : Node) : Prop :=
  n.Each fun m => namesField t m.head → ∀ s, P (.ofText s)

theorem length_lowerAll (s : Site) : (lowerAll t s ps).length = ps.length := by
  induction ps with
  | nil => rfl
  | cons n ns ih => rw [lowerAll, List.length_cons, ih, List.length_cons]

mutual

/-- The names of a tree that is fitted to a target are names of the tree or made up. -/
theorem holds_lowerIn (hP : Covers P) : ∀ {n : Node} (s : Site), FieldsHold t P n → Holds t P n →
    Holds t P (lowerIn t s n)
  | .mk h c ps, s, hfields, hn => by
    obtain ⟨hfield, hfields⟩ := Node.each_mk.1 hfields
    have hinner : ∀ s, ∀ p ∈ lowerAll t s ps, Holds t P p :=
      fun s => holds_lowerAll hP s hfields hn.parts
    have hsame : ∀ s, Holds t P (.mk h c (lowerAll t s ps)) :=
      fun s => holds_rebuild hn (length_lowerAll s) (hinner s)
    rw [lowerIn.eq_def]
    dsimp only
    split
    · split
      · exact hsame _
      · rw [holds_mk rfl rfl]
        exact holds_division _ _ (hinner _)
    · split
      · exact hsame _
      · exact holds_fit hP s hfield (hsame _)
    · rw [holds_mk rfl rfl]
      exact hinner _
    · exact holds_fit hP s hfield (hsame _)

theorem holds_lowerAll (hP : Covers P) : ∀ {ps : List Node} (s : Site),
    (∀ p ∈ ps, FieldsHold t P p) → (∀ p ∈ ps, Holds t P p) → ∀ p ∈ lowerAll t s ps, Holds t P p
  | [], _, _, _ => by simp [lowerAll]
  | n :: ns, s, hfields, hps => by
    rw [List.forall_mem_cons] at hfields hps
    rw [lowerAll, List.forall_mem_cons]
    exact ⟨holds_lowerIn hP s hfields.1 hps.1, holds_lowerAll hP s hfields.2 hps.2⟩

end

/-! ## Tables without names -/

theorem names_numberAlias (a : TableAlias) (i : Nat) : (numberAlias a i).1.names = a.names := by
  unfold numberAlias
  split <;> rfl

theorem labelNames_numberAlias (label : Option TableAlias) (i : Nat) :
    Head.labelNames (label.mapM numberAlias i).1 = Head.labelNames label := by
  cases label with
  | none => rfl
  | some a =>
    have hnames : Head.labelNames (some (numberAlias a i).1) = Head.labelNames (some a) := by
      simp only [Head.labelNames, Option.toList_some, List.flatMap_singleton, names_numberAlias]
    exact hnames

/-- Two heads with the same names. -/
structure SameNames (g h : Head) : Prop where
  names : g.names = h.names
  views : g.viewNames = h.viewNames
  distinct : g.isDistinct = h.isDistinct

theorem holds_relabel {g : Head} (hsame : SameNames g h) (hn : Holds t P (.mk h c ps)) :
    Holds t P (.mk g c ps) := by
  have hfine := hn.fine
  have hspells : spellsDistinct t (.mk g c ps) = spellsDistinct t (.mk h c ps) :=
    congrArg (fun b => !t.hasDistinctOn && b && !ps.isEmpty) hsame.distinct
  refine Node.each_mk.2 ⟨⟨?_, ?_, fun hg => hfine.distinct (hspells ▸ hg)⟩, hn.parts⟩
  · exact fun i hi => hfine.names i (hsame.names ▸ hi)
  · exact fun i hi => hfine.views i (hsame.views ▸ hi)

theorem sameNames_numberHead (h : Head) (i : Nat) : SameNames (numberHead h i).1 h := by
  unfold numberHead
  split
  · exact ⟨labelNames_numberAlias _ i, rfl, rfl⟩
  · next path label => exact ⟨congrArg (path ++ ·) (labelNames_numberAlias label i), rfl, rfl⟩
  · next path label _ => exact ⟨congrArg (path ++ ·) (labelNames_numberAlias label i), rfl, rfl⟩
  · exact ⟨labelNames_numberAlias _ i, rfl, rfl⟩
  · exact ⟨labelNames_numberAlias _ i, rfl, rfl⟩
  · exact ⟨labelNames_numberAlias _ i, rfl, rfl⟩
  · exact ⟨labelNames_numberAlias _ i, rfl, rfl⟩
  · exact ⟨rfl, rfl, rfl⟩

/-- Of two lists of as many parts, each place has the part of the one or of the other. -/
theorem holds_chosen {test : Node → Bool} {as bs : List Node} (hn : Holds t P (.mk h c ps))
    (has : as.length = ps.length ∧ ∀ p ∈ as, Holds t P p)
    (hbs : bs.length = ps.length ∧ ∀ p ∈ bs, Holds t P p) :
    Holds t P (.mk h c (List.zipWith (fun n w => if test w then w else n) as bs)) := by
  refine holds_rebuild hn ?_ ?_
  · rw [List.length_zipWith, has.1, hbs.1, Nat.min_self]
  · rw [← List.map_uncurry_zip_eq_zipWith, List.forall_mem_map]
    rintro ⟨n, w⟩ hp
    obtain ⟨hleft, hright⟩ := List.of_mem_zip hp
    change Holds t P (if test w then w else n)
    split
    · exact hbs.2 _ hright
    · exact has.2 _ hleft

mutual

theorem holds_numberTables : ∀ {n : Node} (i : Nat), Holds t P n → Holds t P (numberTables n i).1
  | .mk h c ps, i, hn => by
    have hparts : ∀ p ∈ ps, Holds t P p := hn.parts
    have hbody := holds_numberTablesAll false (numberHead h i).2 hparts
    have hclauses := holds_numberTablesAll true
      (numberTablesAll false ps (numberHead h i).2).2 hparts
    rw [numberTables]
    exact holds_relabel (sameNames_numberHead h i) (holds_chosen hn hbody hclauses)

theorem holds_numberTablesAll (clauses : Bool) : ∀ {ps : List Node} (i : Nat),
    (∀ p ∈ ps, Holds t P p) →
    (numberTablesAll clauses ps i).1.length = ps.length ∧
      ∀ p ∈ (numberTablesAll clauses ps i).1, Holds t P p
  | [], i, _ => ⟨rfl, fun _ => List.not_mem_nil.elim⟩
  | n :: ns, i, hps => by
    rw [List.forall_mem_cons] at hps
    rw [numberTablesAll]
    split
    · have hothers := holds_numberTablesAll clauses (numberTables n i).2 hps.2
      exact ⟨congrArg Nat.succ hothers.1,
        List.forall_mem_cons.2 ⟨holds_numberTables i hps.1, hothers.2⟩⟩
    · have hothers := holds_numberTablesAll clauses i hps.2
      exact ⟨congrArg Nat.succ hothers.1, List.forall_mem_cons.2 ⟨hps.1, hothers.2⟩⟩

end

end Lowering

/-- The names of a tree as a target has it are names of the tree or made up. -/
theorem Node.holds_lower {t : Target} {P : Ident → Prop} {n : Node} (hP : Lowering.Covers P)
    (hfields : Lowering.FieldsHold t P n) (hn : Lowering.Holds t P n) :
    Lowering.Holds t P (n.lower t) :=
  Lowering.holds_numberTables 0 (Lowering.holds_lowerIn hP {} hfields hn)

end SemanticLayer.Sql
