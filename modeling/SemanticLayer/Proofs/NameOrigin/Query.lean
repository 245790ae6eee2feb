import SemanticLayer.Proofs.NameOrigin.Function

/-!
# Where the names of a fitted query come from

The queries around a query name its columns anew: by the names they have, by numbered ones, and by
those in `madeNames`. `holds_lower` is the result for a whole tree.
-/

namespace SemanticLayer.Sql.Lowering

variable {t : Target} {P : Ident → Prop} {h : Head} {c d : List String} {ps qs : List Node}
  {n this other : Node}

attribute [local simp] holds_mk holds_of Head.takesNames.eq_def Head.isDistinct.eq_def
  List.forall_mem_cons

/-! ## Parts of a query -/

theorem isDistinct_eq_false (test : Head → Bool) (htest : test .distinct = false)
    (hh : test h = true) : h.isDistinct = false := by
  cases h <;> first | rfl | exact absurd (htest.symm.trans hh) Bool.false_ne_true

/-- Other parts for a node, of which there are as many. -/
theorem holds_rebuild (hn : Holds t P (.mk h c ps)) (hlength : qs.length = ps.length)
    (hqs : ∀ q ∈ qs, Holds t P q) : Holds t P (.mk h d qs) := by
  have hempty : qs.isEmpty = ps.isEmpty := by
    cases qs <;> cases ps <;> simp_all
  have hfine := hn.fine
  refine Node.each_mk.2 ⟨⟨hfine.names, hfine.views, fun hspells => hfine.distinct ?_⟩, hqs⟩
  unfold spellsDistinct at hspells ⊢
  simpa [hempty] using hspells

theorem holds_setParts (hdistinct : n.head.isDistinct = false) (hn : Holds t P n)
    (hps : ∀ p ∈ ps, Holds t P p) : Holds t P (n.setParts ps) := by
  obtain ⟨h, c, qs⟩ := n
  exact (holds_named hdistinct).2 ⟨((holds_named hdistinct).1 hn).1, hps⟩

theorem holds_column {path : List Ident} :
    Holds t P (.of (.column path) []) ↔ ∀ i ∈ path, P i := by
  rw [Node.of, holds_named rfl]
  simp [Head.names, Head.viewNames]

theorem holds_aliased {i : Ident} :
    Holds t P (.of (.aliased i) ps) ↔ P i ∧ ∀ p ∈ ps, Holds t P p := by
  rw [Node.of, holds_named rfl]
  simp [Head.names, Head.viewNames]

theorem Holds.names (hn : Holds t P n) (hhead : n.head = h) : ∀ i ∈ h.names, P i :=
  hhead ▸ hn.fine.names

theorem holds_items (hps : ∀ p ∈ ps, Holds t P p) : ∀ p ∈ items ps, Holds t P p := by
  intro p hp
  obtain ⟨q, hq, hmem⟩ := List.mem_flatMap.1 hp
  exact (hps q (List.mem_filter.1 hq).1).parts p hmem

theorem holds_setItems (hqs : ∀ q ∈ qs, Holds t P q) (hps : ∀ p ∈ ps, Holds t P p) :
    ∀ p ∈ setItems qs ps, Holds t P p := by
  unfold setItems
  rw [List.forall_mem_map]
  intro p hp
  split
  · next hlist =>
    have hdistinct := isDistinct_eq_false Head.isProjections rfl hlist
    exact holds_setParts hdistinct (hps p hp) hqs
  · exact hps p hp

theorem holds_filter (test : Node → Bool) (hps : ∀ p ∈ ps, Holds t P p) :
    ∀ p ∈ ps.filter test, Holds t P p :=
  fun p hp => hps p (List.mem_filter.1 hp).1

theorem holds_map {f : Node → Node} (hf : ∀ n, Holds t P n → Holds t P (f n))
    (hps : ∀ p ∈ ps, Holds t P p) : ∀ p ∈ ps.map f, Holds t P p :=
  List.forall_mem_map.2 fun p hp => hf p (hps p hp)

theorem holds_groupItemByPosition (positions : List (String × Nat)) (hn : Holds t P n) :
    Holds t P (groupItemByPosition positions n) := by
  unfold groupItemByPosition
  split
  · split
    · simp
    · exact hn
  · exact hn

theorem holds_groupByPosition (hps : ∀ p ∈ ps, Holds t P p) :
    ∀ p ∈ groupByPosition ps, Holds t P p := by
  unfold groupByPosition
  rw [List.forall_mem_map]
  intro p hp
  split
  · next hgroup =>
    have hdistinct := isDistinct_eq_false Head.isGroup rfl hgroup
    refine holds_setParts hdistinct (hps p hp) (holds_map ?_ (hps p hp).parts)
    exact fun n => holds_groupItemByPosition _
  · exact hps p hp

theorem holds_limitPart (hn : Holds t P n) : Holds t P (limitPart t n) := by
  have hfolded : ∀ p ∈ n.parts.map Arithmetic.folded, Holds t P p :=
    holds_map (fun m => holds_folded) hn.parts
  unfold limitPart
  extract_lets m
  have hm : Holds t P m := by
    simp only [m]
    split
    · next hhead =>
      split
      · exact holds_setParts (by rw [hhead]; rfl) hn hfolded
      · exact hn
    · next hhead =>
      split
      · exact holds_setParts (by rw [hhead]; rfl) hn hfolded
      · exact hn
    · exact hn
  clear_value m
  split
  · simpa using hm.parts
  · simpa using holds_take 1 hm.parts
  · exact hm

theorem holds_samplePart (hn : Holds t P n) : Holds t P (samplePart t n) := by
  unfold samplePart
  split
  · simpa using hn
  · exact hn

theorem holds_queryParts (hps : ∀ p ∈ ps, Holds t P p) : ∀ p ∈ queryParts t ps, Holds t P p := by
  unfold queryParts
  refine holds_map (fun n hn => holds_samplePart (holds_limitPart hn)) (holds_filter _ ?_)
  split
  · exact hps
  · exact holds_groupByPosition hps

/-! ## Conditions and joins -/

theorem holds_both (hn : Holds t P n) (hother : Holds t P other) : Holds t P (both n other) := by
  unfold both
  rw [holds_of rfl rfl]
  simp only [List.forall_mem_cons]
  refine ⟨?_, ?_, by simp⟩
  · split <;> simpa using hn
  · split <;> simpa using hother

theorem holds_addCondition (hn : Holds t P n) (hps : ∀ p ∈ ps, Holds t P p) :
    ∀ p ∈ addCondition n ps, Holds t P p := by
  unfold addCondition
  split
  · rw [List.forall_mem_map]
    intro p hp
    split
    · have hold := hps _ hp
      rw [holds_mk rfl rfl, List.forall_mem_singleton] at hold ⊢
      exact holds_both hold hn
    · exact hps _ hp
  · rw [List.forall_mem_append]
    exact ⟨hps, by simpa using hn⟩

theorem holds_matchQuery (hthis : Holds t P this) (hn : Holds t P n) :
    Holds t P (matchQuery this n) := by
  simp [matchQuery, hthis, hn]

theorem holds_matchCondition (hn : Holds t P n) : ∀ m ∈ matchCondition? n, Holds t P m := by
  unfold matchCondition?
  split
  · simp only [holds_mk, Head.takesNames.eq_def, Head.isDistinct.eq_def, List.forall_mem_cons] at hn
    have hsource : Holds t P (.of .fromClause [_]) := (holds_of rfl rfl).2 (by simpa using hn.1)
    have hfound := holds_matchQuery hsource hn.2.1.1
    dsimp only
    split
    · exact holds_some hfound
    · split
      · exact holds_some (by simpa using hfound)
      · simp
  · simp

theorem holds_takeMatches (hps : ∀ p ∈ ps, Holds t P p) :
    (∀ p ∈ (takeMatches ps).1, Holds t P p) ∧ ∀ p ∈ (takeMatches ps).2, Holds t P p := by
  fun_induction takeMatches ps with
  | case1 => simp
  | case2 j js hnone kept conditions hrest ih =>
    rw [List.forall_mem_cons] at hps
    have hmore := ih hps.2
    rw [hrest] at hmore
    exact ⟨List.forall_mem_cons.2 ⟨hps.1, hmore.1⟩, hmore.2⟩
  | case3 j condition hsome =>
    exact ⟨by simp, by simpa using holds_matchCondition (hps _ List.mem_cons_self) _ hsome⟩
  | case4 j condition hsome k rest kept conditions hrest ih =>
    simp only [List.forall_mem_cons] at hps
    have hmore := ih hps.2.2
    rw [hrest] at hmore
    exact ⟨List.forall_mem_cons.2 ⟨hps.2.1, hmore.1⟩,
      List.forall_mem_cons.2 ⟨holds_matchCondition hps.1 _ hsome, hmore.2⟩⟩

theorem holds_semiJoinsAsConditions (hps : ∀ p ∈ ps, Holds t P p) :
    ∀ p ∈ semiJoinsAsConditions ps, Holds t P p := by
  unfold semiJoinsAsConditions
  have htaken := holds_takeMatches (holds_filter (fun p => p.head.isJoin) hps)
  dsimp only
  split
  · exact hps
  · refine List.foldlRecOn (motive := fun l => ∀ p ∈ l, Holds t P p) _ _ ?_ ?_
    · rw [List.forall_mem_append, List.forall_mem_append]
      refine ⟨⟨fun p hp => hps p ((List.takeWhile_sublist _).subset hp), htaken.1⟩, ?_⟩
      exact holds_filter _ fun p hp => hps p (List.mem_of_mem_drop hp)
    · exact fun l hl q hq => holds_addCondition (htaken.2 q hq) hl

theorem holds_withoutSide (hn : Holds t P n) : Holds t P (withoutSide n) := by
  unfold withoutSide
  split
  · simpa using hn
  · exact hn

/-! ## Full joins -/

theorem name_of_label {label : Option TableAlias} (hlabel : ∀ i ∈ Head.labelNames label, P i) :
    ∀ i ∈ label.bind TableAlias.name, P i := by
  intro i hi
  obtain ⟨a, ha, hname⟩ := Option.bind_eq_some_iff.1 hi
  refine hlabel i ?_
  simp only [ha, Head.labelNames, Option.toList_some, List.flatMap_singleton, TableAlias.names]
  exact List.mem_append_left _ (Option.mem_toList.2 hname)

theorem holds_tableName (hn : Holds t P n) : ∀ i ∈ tableName? n, P i := by
  unfold tableName?
  split
  · next path label hhead =>
    have hnames := hn.names hhead
    simp only [Head.names, List.forall_mem_append] at hnames
    have hlabel := name_of_label hnames.2
    cases hname : label.bind TableAlias.name with
    | none => exact fun i hi => hnames.1 i (List.mem_of_getLast? hi)
    | some a =>
      rw [hname] at hlabel
      exact hlabel
  · next label hhead => exact name_of_label (hn.names hhead)
  · simp

theorem holds_joinCondition {left right : Option Ident} (hleft : ∀ i ∈ left, P i)
    (hright : ∀ i ∈ right, P i) (hn : Holds t P n) :
    ∀ m ∈ joinCondition left right n, Holds t P m := by
  have hrest : ∀ p ∈ n.parts.drop 1, Holds t P p :=
    fun p hp => hn.parts p (List.mem_of_mem_drop hp)
  unfold joinCondition
  split
  · next heq =>
    rw [heq] at hrest
    exact holds_some (by simpa using hrest)
  · next names heq =>
    rw [heq, List.forall_mem_singleton, holds_mk rfl rfl] at hrest
    extract_lets sides
    have hsides : ∀ p ∈ sides, Holds t P p := by
      intro p hp
      obtain ⟨q, hq, hside⟩ := List.mem_filterMap.1 hp
      split at hside
      · next i hhead =>
        have hi := (hrest q hq).names hhead i (by simp [Head.names])
        obtain rfl := Option.some.inj hside
        simpa [holds_column, or_imp, forall_and, hi] using ⟨hleft, hright⟩
      · cases hside
    clear_value sides
    split
    · simp
    · rw [List.forall_mem_cons] at hsides
      refine holds_some (List.foldlRecOn (motive := Holds t P) _ _ hsides.1 fun a ha b hb => ?_)
      simpa using ⟨ha, hsides.2 b hb⟩
  · simp

theorem holds_firstName (hn : Holds t P n) : ∀ i ∈ n.first?.bind tableName?, P i := by
  intro i hi
  obtain ⟨m, hm, hname⟩ := Option.bind_eq_some_iff.1 hi
  exact holds_tableName (hn.parts m (List.mem_of_mem_head? hm)) i hname

theorem mem_of_soleFullJoin (hn : soleFullJoin? ps = some n) : n ∈ ps := by
  unfold soleFullJoin? at hn
  split at hn
  · next heq =>
    obtain rfl := Option.some.inj hn
    exact (List.mem_filter.1 (heq ▸ List.mem_singleton_self _)).1
  · cases hn

theorem holds_oneSided (side : String) (hn : Holds t P n) : Holds t P (oneSided side n) := by
  unfold oneSided
  split
  · simpa using hn
  · exact hn

theorem holds_splitFullJoin (hps : ∀ p ∈ ps, Holds t P p) :
    ∀ m ∈ splitFullJoin c ps, Holds t P m := by
  intro m hm
  unfold splitFullJoin at hm
  simp only [bind, Option.mem_def, Option.bind_eq_some_iff] at hm
  obtain ⟨full, hfull, source, hsource, condition, hcondition, heq⟩ := hm
  obtain rfl := Option.some.inj heq
  have hfull := hps full (mem_of_soleFullJoin hfull)
  have hsource := hps source (List.mem_of_find?_eq_some hsource)
  have hcondition := holds_joinCondition (holds_firstName hsource) (holds_firstName hfull) hfull
    condition hcondition
  have hunmatched : Holds t P (.of (.unary .not) [matchQuery source condition]) := by
    simpa using holds_matchQuery hsource hcondition
  have hside : ∀ side test, ∀ p ∈ (ps.filter test).map (oneSided side), Holds t P p :=
    fun side test => holds_map (fun n => holds_oneSided side) (holds_filter test hps)
  simp only [holds_of, holds_mk, Head.takesNames.eq_def, Head.isDistinct.eq_def,
    List.forall_mem_cons]
  exact ⟨hside "LEFT" _, holds_addCondition hunmatched (hside "RIGHT" _), by simp⟩

/-! ## DISTINCT ON -/

theorem holds_aliasItems (hP : Covers P) (hany : ∀ s, P ⟨s, false⟩) (taken : List String)
    (hps : ∀ p ∈ ps, Holds t P p) :
    ∀ p ∈ aliasItems taken ps, Holds t P p.1 ∧ P p.2 := by
  induction ps generalizing taken with
  | nil => simp [aliasItems]
  | cons n ns ih =>
    rw [List.forall_mem_cons] at hps
    rw [aliasItems]
    split
    · next i hhead =>
      have hi := hps.1.names hhead i (by simp [Head.names])
      exact List.forall_mem_cons.2 ⟨⟨hps.1, hi⟩, ih _ hps.2⟩
    · next path hhead =>
      have hnames := hps.1.names hhead
      have hlast : P (path.getLast?.getD ⟨"_col", false⟩) := by
        cases hpath : path.getLast? with
        | none => exact hP.plain (by decide)
        | some i => exact hnames i (List.mem_of_getLast? hpath)
      have hlabel := hP.renamed _ hlast taken
      refine List.forall_mem_cons.2 ⟨⟨holds_aliased.2 ⟨hlabel, ?_⟩, hlabel⟩, ih _ hps.2⟩
      simpa using hps.1
    · refine List.forall_mem_cons.2 ⟨⟨holds_aliased.2 ⟨hany _, ?_⟩, hany _⟩, ih _ hps.2⟩
      simpa using hps.1

theorem holds_aroundQuery (hP : Covers P) (hps : ∀ p ∈ ps, Holds t P p) (hthis : Holds t P this)
    (hn : Holds t P n) : Holds t P (aroundQuery ps this n) := by
  have hinner : Holds t P (.of (.subquery (some { name := some ⟨"_t", false⟩ })) [this]) := by
    rw [Node.of, holds_named rfl]
    have hlabel : P ⟨"_t", false⟩ := hP.plain (by decide)
    simpa [Head.names, Head.labelNames, TableAlias.names, Head.viewNames] using ⟨hlabel, hthis⟩
  unfold aroundQuery
  simpa [hn] using ⟨hps, hinner⟩

theorem holds_columnNamed {s : String} : Holds t P (columnNamed s) ↔ P ⟨s, false⟩ := by
  rw [columnNamed, holds_column]
  simp

theorem holds_rowNumber (hps : ∀ p ∈ ps, Holds t P p) (hn : Holds t P n) :
    Holds t P (rowNumber ps n) := by
  unfold rowNumber
  rw [Node.of, holds_named rfl]
  simpa [Head.names, Head.viewNames, hn] using hps

theorem holds_namedItems (hP : Covers P) (hany : ∀ s, P ⟨s, false⟩) (label : String)
    (hps : ∀ p ∈ ps, Holds t P p) :
    (∀ p ∈ (namedItems label ps).1, Holds t P p) ∧
      ∀ p ∈ (namedItems label ps).2, Holds t P p := by
  unfold namedItems
  split
  · have hstar : Holds t P (.of (.star []) []) := by
      rw [Node.of, holds_named rfl]
      simp [Head.names, Head.viewNames]
    exact ⟨hps, by simpa using hstar⟩
  · have hnamed := holds_aliasItems hP hany [label] hps
    refine ⟨List.forall_mem_map.2 fun p hp => (hnamed p hp).1, List.forall_mem_map.2 ?_⟩
    exact fun p hp => holds_column.2 (by simpa using (hnamed p hp).2)

theorem parts_of_distinctKeys {keys : List Node} (hkeys : distinctKeys? n = some keys) :
    ∃ c, n.parts = [.mk .tuple c keys] := by
  unfold distinctKeys? at hkeys
  split at hkeys
  · next c keys heq =>
    obtain rfl := Option.some.inj hkeys
    exact ⟨c, heq⟩
  · cases hkeys

/-- A query that numbers its rows. The DISTINCT ON that is spelled out allows every name without
quotes. -/
theorem holds_numberDistinct (hP : Covers P) (hlacks : t.hasDistinctOn = false)
    (hps : ∀ p ∈ ps, Holds t P p) : ∀ m ∈ numberDistinct c ps, Holds t P m := by
  intro m hm
  unfold numberDistinct at hm
  simp only [bind, Option.mem_def, Option.bind_eq_some_iff] at hm
  obtain ⟨distinct, hfound, keys, hkeys, heq⟩ := hm
  obtain rfl := Option.some.inj heq
  obtain ⟨d, hparts⟩ := parts_of_distinctKeys hkeys
  have hdistinct := hps distinct (List.mem_of_find?_eq_some hfound)
  have hany : ∀ s, P ⟨s, false⟩ := by
    refine hdistinct.fine.distinct ?_
    have hhead := List.find?_some hfound
    simp only [spellsDistinct, hlacks, hhead, hparts, Bool.not_false, Bool.and_self,
      List.isEmpty_cons]
  have hkeys : ∀ p ∈ keys, Holds t P p := by
    have htuple := hdistinct.parts
    rw [hparts, List.forall_mem_singleton, holds_mk rfl rfl] at htuple
    exact htuple
  have horder : Holds t P (orderOr keys ps) := by
    refine holds_getD (fun o ho => hps o (List.mem_of_find?_eq_some ho)) ?_
    simpa using hkeys
  have hlist := holds_namedItems hP hany
    (freshName ((items ps).filterMap outerName?) "_row_number") (holds_items hps)
  refine holds_aroundQuery hP hlist.2 ?_ ?_
  · rw [holds_mk rfl rfl]
    refine holds_setItems (List.forall_mem_append.2 ⟨hlist.1, ?_⟩) (holds_filter _ hps)
    rw [List.forall_mem_singleton, holds_aliased, List.forall_mem_singleton]
    exact ⟨hany _, holds_rowNumber hkeys horder⟩
  · simpa using holds_columnNamed.2 (hany _)

/-! ## QUALIFY -/

theorem holds_zipLevels {a b : List (List Node)} (ha : ∀ l ∈ a, ∀ m ∈ l, Holds t P m)
    (hb : ∀ l ∈ b, ∀ m ∈ l, Holds t P m) : ∀ l ∈ zipLevels a b, ∀ m ∈ l, Holds t P m := by
  fun_induction zipLevels a b with
  | case1 => exact hb
  | case2 => exact ha
  | case3 x xs y ys ih =>
    rw [List.forall_mem_cons] at ha hb ⊢
    exact ⟨List.forall_mem_append.2 ⟨ha.1, hb.1⟩, ih ha.2 hb.2⟩

mutual

theorem holds_levels : ∀ {n : Node}, Holds t P n → ∀ l ∈ levels n, ∀ m ∈ l, Holds t P m
  | .mk h c ps, hn => by
    rw [levels]
    split
    · exact holds_levelsAll hn.parts
    · exact List.forall_mem_cons.2 ⟨by simpa using hn, holds_levelsAll hn.parts⟩

theorem holds_levelsAll :
    ∀ {ps : List Node}, (∀ p ∈ ps, Holds t P p) → ∀ l ∈ levelsAll ps, ∀ m ∈ l, Holds t P m
  | [], _ => by simp [levelsAll]
  | n :: ns, hps => by
    rw [List.forall_mem_cons] at hps
    rw [levelsAll]
    exact holds_zipLevels (holds_levels hps.1) (holds_levelsAll hps.2)

end

theorem length_resolveAliasesAll (aliases : List (String × Node)) :
    (resolveAliasesAll aliases ps).length = ps.length := by
  induction ps with
  | nil => rfl
  | cons n ns ih => rw [resolveAliasesAll, List.length_cons, ih, List.length_cons]

mutual

theorem holds_resolveAliases {aliases : List (String × Node)}
    (haliases : ∀ a ∈ aliases, Holds t P a.2) :
    ∀ {n : Node}, Holds t P n → Holds t P (resolveAliases aliases n)
  | .mk h c ps, hn => by
    rw [resolveAliases.eq_def]
    split
    · next heq =>
      cases heq
      split
      · next hfound =>
        obtain ⟨i, -, hfound⟩ := Option.bind_eq_some_iff.1 hfound
        obtain ⟨before, after, rfl, -⟩ := List.lookup_eq_some_iff.1 hfound
        exact haliases _ (List.mem_append_right _ List.mem_cons_self)
      · exact hn
    · next heq =>
      cases heq
      exact holds_rebuild hn (length_resolveAliasesAll aliases)
        (holds_resolveAliasesAll haliases hn.parts)

theorem holds_resolveAliasesAll {aliases : List (String × Node)}
    (haliases : ∀ a ∈ aliases, Holds t P a.2) :
    ∀ {ps : List Node}, (∀ p ∈ ps, Holds t P p) →
      ∀ p ∈ resolveAliasesAll aliases ps, Holds t P p
  | [], _ => by simp [resolveAliasesAll]
  | n :: ns, hps => by
    rw [List.forall_mem_cons] at hps
    rw [resolveAliasesAll, List.forall_mem_cons]
    exact ⟨holds_resolveAliases haliases hps.1, holds_resolveAliasesAll haliases hps.2⟩

end

theorem length_nameWindowsAll (names : List String) :
    (nameWindowsAll names ps).1.length = ps.length := by
  induction ps generalizing names with
  | nil => rfl
  | cons n ns ih =>
    rw [nameWindowsAll]
    exact congrArg Nat.succ (ih _)

mutual

/-- The names that are left after the windows of a tree have got theirs are names that were
given. -/
theorem holds_nameWindows : ∀ {n : Node} {names : List String}, Holds t P n →
    (∀ s ∈ names, P ⟨s, false⟩) →
    Holds t P (nameWindows names n).1 ∧ ∀ s ∈ (nameWindows names n).2, P ⟨s, false⟩
  | .mk h c ps, names, hn, hnames => by
    rw [nameWindows.eq_def]
    split
    · next heq =>
      cases heq
      split
      · rw [List.forall_mem_cons] at hnames
        exact ⟨holds_columnNamed.2 hnames.1, hnames.2⟩
      · exact ⟨hn, by simp⟩
    · next heq =>
      cases heq
      have hparts := holds_nameWindowsAll hn.parts hnames
      exact ⟨holds_rebuild hn (length_nameWindowsAll names) hparts.1, hparts.2⟩

theorem holds_nameWindowsAll : ∀ {ps : List Node} {names : List String},
    (∀ p ∈ ps, Holds t P p) → (∀ s ∈ names, P ⟨s, false⟩) →
    (∀ p ∈ (nameWindowsAll names ps).1, Holds t P p) ∧
      ∀ s ∈ (nameWindowsAll names ps).2, P ⟨s, false⟩
  | [], names, _, hnames => ⟨by simp [nameWindowsAll], hnames⟩
  | n :: ns, names, hps, hnames => by
    rw [List.forall_mem_cons] at hps
    rw [nameWindowsAll]
    have hfirst := holds_nameWindows hps.1 hnames
    have hothers := holds_nameWindowsAll hps.2 hfirst.2
    exact ⟨List.forall_mem_cons.2 ⟨hfirst.1, hothers.1⟩, hothers.2⟩

end

theorem holds_extendItems (hP : Covers P) {aliases : List (String × Node)} (star : Bool)
    (haliases : ∀ a ∈ aliases, Holds t P a.2) (hps : ∀ p ∈ ps, Holds t P p)
    (hqs : ∀ q ∈ qs, Holds t P q) :
    (∀ p ∈ (extendItems aliases star ps qs).1, Holds t P p) ∧
      ∀ s ∈ (extendItems aliases star ps qs).2, P ⟨s, false⟩ := by
  have hadd : ∀ {l : List Node} {m : Node}, (∀ p ∈ l, Holds t P p) → Holds t P m →
      ∀ p ∈ l ++ [m], Holds t P p :=
    fun hl hm => List.forall_mem_append.2 ⟨hl, by simpa using hm⟩
  induction qs generalizing ps with
  | nil => exact ⟨hps, by simp [extendItems]⟩
  | cons n ns ih =>
    rw [List.forall_mem_cons] at hqs
    rw [extendItems]
    dsimp only
    split
    · have hlabel : P ⟨freshName (ps.filterMap outerName?) "_w", false⟩ := hP.made _ (by decide) _
      have hitem := holds_aliased.2 ⟨hlabel,
        List.forall_mem_singleton.2 (holds_resolveAliases haliases hqs.1)⟩
      have hmore := ih (hadd hps hitem) hqs.2
      exact ⟨hmore.1, List.forall_mem_cons.2 ⟨hlabel, hmore.2⟩⟩
    · split
      · split
        · exact ih hps hqs.2
        · exact ih (hadd hps hqs.1) hqs.2
      · exact ih hps hqs.2

theorem holds_nameItems (hP : Covers P) (taken : List String) (hps : ∀ p ∈ ps, Holds t P p) :
    ∀ p ∈ nameItems taken ps, Holds t P p := by
  induction ps generalizing taken with
  | nil => simp [nameItems]
  | cons n ns ih =>
    rw [List.forall_mem_cons] at hps
    rw [nameItems]
    split
    · exact List.forall_mem_cons.2 ⟨hps.1, ih _ hps.2⟩
    · refine List.forall_mem_cons.2 ⟨holds_aliased.2 ⟨hP.made _ (by decide) _, ?_⟩, ih _ hps.2⟩
      simpa using hps.1

theorem holds_outerItem (hn : Holds t P n) : Holds t P (outerItem n) := by
  unfold outerItem
  split
  · next i hhead => exact holds_column.2 (hn.names hhead)
  · next path hhead =>
    refine holds_column.2 fun i hi => hn.names hhead i ?_
    exact List.mem_of_getLast? (Option.mem_toList.1 hi)
  · rw [Node.of, holds_named rfl]
    simp [Head.names, Head.viewNames]
  · refine Node.each_mk.2 ⟨⟨hn.fine.names, hn.fine.views, fun hspells => ?_⟩, by simp⟩
    simp [spellsDistinct] at hspells

theorem holds_aliasOf {a : String × Node} (hn : Holds t P n) (ha : aliasOf? n = some a) :
    Holds t P a.2 := by
  unfold aliasOf? at ha
  split at ha
  · obtain rfl := Option.some.inj ha
    exact hn.parts _ List.mem_cons_self
  · cases ha

theorem holds_qualifyOutside (hP : Covers P) (hps : ∀ p ∈ ps, Holds t P p) :
    ∀ m ∈ qualifyOutside c ps, Holds t P m := by
  intro m hm
  unfold qualifyOutside at hm
  simp only [bind, Option.mem_def, Option.bind_eq_some_iff] at hm
  obtain ⟨clause, hclause, condition, hcondition, heq⟩ := hm
  obtain rfl := Option.some.inj heq
  have hclause := hps clause (List.mem_of_find?_eq_some hclause)
  have hcondition := hclause.parts condition (List.mem_of_mem_head? hcondition)
  have hlist := holds_nameItems hP ((items ps).filterMap outerName?) (holds_items hps)
  generalize nameItems ((items ps).filterMap outerName?) (items ps) = list at hlist ⊢
  have hcandidates : ∀ q ∈ (levels condition).flatten.filter
      (fun n => isWindow n || (columnName? n).isSome), Holds t P q := by
    refine holds_filter _ fun q hq => ?_
    obtain ⟨l, hl, hmem⟩ := List.mem_flatten.1 hq
    exact holds_levels hcondition l hl q hmem
  have haliases : ∀ a ∈ list.filterMap aliasOf?, Holds t P a.2 := by
    intro a ha
    obtain ⟨n, hn, ha⟩ := List.mem_filterMap.1 ha
    exact holds_aliasOf (hlist n hn) ha
  have hinner := holds_extendItems hP (list.any isStar) haliases hlist hcandidates
  refine holds_aroundQuery hP (holds_map (fun n => holds_outerItem) hlist) ?_ ?_
  · rw [holds_mk rfl rfl]
    exact holds_setItems hinner.1 (holds_filter _ hps)
  · exact (holds_nameWindows hcondition hinner.2).1

/-! ## Pivots and views -/

theorem length_unqualifiedAll : (unqualifiedAll ps).length = ps.length := by
  induction ps with
  | nil => rfl
  | cons n ns ih => rw [unqualifiedAll, List.length_cons, ih, List.length_cons]

mutual

theorem holds_unqualified : ∀ {n : Node}, Holds t P n → Holds t P (unqualified n)
  | .mk h c ps, hn => by
    rw [unqualified.eq_def]
    split
    · next path _ _ heq =>
      cases heq
      rw [holds_named rfl] at hn ⊢
      refine ⟨⟨fun i hi => hn.1.1 i ?_, hn.1.2⟩, hn.2⟩
      exact List.mem_of_getLast? (Option.mem_toList.1 hi)
    · next heq =>
      cases heq
      exact holds_rebuild hn length_unqualifiedAll (holds_unqualifiedAll hn.parts)

theorem holds_unqualifiedAll :
    ∀ {ps : List Node}, (∀ p ∈ ps, Holds t P p) → ∀ p ∈ unqualifiedAll ps, Holds t P p
  | [], _ => by simp [unqualifiedAll]
  | n :: ns, hps => by
    rw [List.forall_mem_cons] at hps
    rw [unqualifiedAll, List.forall_mem_cons]
    exact ⟨holds_unqualified hps.1, holds_unqualifiedAll hps.2⟩

end

theorem holds_unnestView {label : TableAlias} (hlabel : ∀ i ∈ label.names, P i)
    (hn : Holds t P n) : ∀ m ∈ unnestView label n, Holds t P m := by
  unfold unnestView
  split
  · next kind _ _ this _ =>
    dsimp only
    split
    · have hthis := hn.parts this List.mem_cons_self
      have hitems : Holds t P (.of (.unnest (some label) (kind == "POSEXPLODE")) [this]) := by
        rw [Node.of, holds_named rfl]
        simpa [Head.names, Head.labelNames, Head.viewNames, hthis] using hlabel
      exact holds_some (by simpa using hitems)
    · simp
  · simp

/-! ## The query as a whole -/

theorem holds_fitBareSelect (hP : Covers P) (hps : ∀ p ∈ ps, Holds t P p) :
    Holds t P (fitBareSelect t c ps) := by
  unfold fitBareSelect
  extract_lets qs plain numbered qualified split
  have hqs : ∀ p ∈ qs, Holds t P p := by
    simp only [qs]
    split
    · exact hps
    · exact holds_map (fun n => holds_withoutSide) hps
    · exact holds_semiJoinsAsConditions hps
  have hnumbered : ∀ m ∈ numbered, Holds t P m := by
    unfold numbered
    split
    · simp
    · next hlacks => exact holds_numberDistinct hP (Bool.eq_false_iff.2 hlacks) hqs
  have hqualified : ∀ m ∈ qualified, Holds t P m := by
    unfold qualified
    split
    · simp
    · exact holds_qualifyOutside hP hqs
  have hsplit : ∀ m ∈ split, Holds t P m := by
    unfold split
    split
    · simp
    · exact holds_splitFullJoin hqs
  refine holds_getD (holds_orElse hnumbered (holds_orElse hqualified hsplit)) ?_
  simpa [plain] using hqs

theorem holds_fieldOfItem (hn : Holds t P n) : Holds t P (fieldOfItem n) := by
  unfold fieldOfItem
  split
  · rw [holds_named rfl] at hn
    simp only [Head.names, List.forall_mem_singleton] at hn
    simpa [holds_name] using ⟨hn.1.1, hn.2⟩
  · exact hn

theorem holds_rowsOfColumns (hps : ∀ p ∈ ps, Holds t P p) :
    ∀ p ∈ rowsOfColumns t ps, Holds t P p := by
  unfold rowsOfColumns
  dsimp only
  split
  · refine holds_setItems ?_ (holds_filter _ hps)
    rw [List.forall_mem_singleton]
    exact holds_fitRecord (holds_map (fun n => holds_fieldOfItem) (holds_items hps))
  · exact holds_filter _ hps

theorem holds_fitSelect (hP : Covers P) (hps : ∀ p ∈ ps, Holds t P p) :
    Holds t P (fitSelect t c ps) := by
  unfold fitSelect
  extract_lets qs rs
  have hqs : ∀ p ∈ qs, Holds t P p := holds_queryParts hps
  have hrs : ∀ p ∈ rs, Holds t P p := by
    unfold rs
    split
    · refine holds_rowsOfColumns (holds_setItems ?_ hqs)
      intro p hp
      obtain ⟨n, hn, hmem⟩ := List.mem_flatMap.1 hp
      exact holds_splitPositions hP (holds_items hqs n hn) p hmem
    · exact hqs
  clear_value rs
  split
  · next taker htaker =>
    split at htaker
    · cases htaker
    · have htaker := hrs taker (List.mem_of_find?_eq_some htaker)
      unfold tableOfQuery
      rw [holds_of rfl rfl, List.forall_mem_append, List.forall_mem_singleton]
      exact ⟨htaker.parts, holds_fitBareSelect hP (holds_filter _ hrs)⟩
  · exact holds_fitBareSelect hP hrs

theorem holds_valuesUnion {label : Option TableAlias} (hlabel : ∀ i ∈ Head.labelNames label, P i)
    (hps : ∀ p ∈ ps, Holds t P p) : ∀ m ∈ valuesUnion label ps, Holds t P m := by
  unfold valuesUnion
  extract_lets columns query
  have hcolumns : ∀ i ∈ columns, P i := by
    cases label with
    | none => simp [columns]
    | some a => exact fun i hi => hlabel i (by simp_all [Head.labelNames, TableAlias.names, columns])
  have hquery : ∀ named row, Holds t P row → Holds t P (query named row) := by
    intro named row hrow
    unfold query
    rw [holds_of rfl rfl, List.forall_mem_singleton, holds_of rfl rfl]
    split
    · rw [List.forall_mem_map]
      intro p hp
      obtain ⟨hvalue, hcolumn⟩ := List.of_mem_zip hp
      exact holds_aliased.2 ⟨hcolumns _ hcolumn, by simpa using hrow.parts _ hvalue⟩
    · exact hrow.parts
  clear_value query
  split
  · simp
  · next first rest =>
    rw [List.forall_mem_cons] at hps
    have hunion : Holds t P ((rest.map (query false)).foldl
        (fun a b => Node.of (.setOperation "UNION" false false) [a, b]) (query true first)) := by
      refine List.foldlRecOn (motive := Holds t P) _ _ (hquery true first hps.1) ?_
      intro a ha b hb
      obtain ⟨row, hrow, rfl⟩ := List.mem_map.1 hb
      simpa using ⟨ha, hquery false row (hps.2 row hrow)⟩
    refine holds_some ?_
    rw [Node.of, holds_named rfl, List.forall_mem_singleton]
    refine ⟨⟨?_, by simp [Head.viewNames]⟩, hunion⟩
    cases label with
    | none => simp [Head.names, Head.labelNames]
    | some a =>
      refine fun i hi => hlabel i ?_
      simp_all [Head.names, Head.labelNames, TableAlias.names]

end SemanticLayer.Sql.Lowering
