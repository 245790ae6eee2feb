import SemanticLayer.Proofs.NameOrigin.Value

/-!
# Where the names of a fitted call come from

The functions that fit calls to a target make no names, apart from STRUCT_EXTRACT, whose field is
given as a text.
-/

namespace SemanticLayer.Sql.Lowering

variable {t : Target} {P : Ident → Prop} {c : List String} {kind name : String} {ps : List Node}
  {n this other : Node}

attribute [local simp] holds_mk holds_of Head.takesNames.eq_def Head.isDistinct.eq_def
  List.forall_mem_cons

/-! ## Choices and texts -/

theorem holds_caseNode {arms : List (Node × Node)} {otherwise : Option Node}
    (harms : ∀ a ∈ arms, Holds t P a.1 ∧ Holds t P a.2) (hlast : ∀ n ∈ otherwise, Holds t P n) :
    Holds t P (caseNode arms otherwise) := by
  unfold caseNode
  rw [holds_of rfl rfl, List.forall_mem_append, List.forall_mem_map]
  refine ⟨fun a ha => ?_, ?_⟩
  · simpa using harms a ha
  · cases otherwise <;> simp_all

theorem holds_byNull {otherwise : Option Node} (hthis : Holds t P this) (hn : Holds t P n)
    (hlast : ∀ n ∈ otherwise, Holds t P n) : Holds t P (byNull this n otherwise) :=
  holds_caseNode (by simp [holds_isNullTest hthis, hn]) hlast

theorem holds_decodes (hthis : Holds t P this) (hn : Holds t P n) :
    Holds t P (decodes this n) := by
  have hsought := holds_guardOperand hn
  unfold decodes
  split
  · simp [holds_guardOperand hthis, hn]
  · simp [holds_guardOperand hthis, hn]
  · exact holds_isNullTest hthis
  · simp [holds_guardOperand hthis, holds_isNullTest hthis, holds_isNullTest hsought, hsought]

theorem holds_decodeArms (hthis : Holds t P this) (hps : ∀ p ∈ ps, Holds t P p) :
    (∀ a ∈ (decodeArms this ps).1, Holds t P a.1 ∧ Holds t P a.2) ∧
      ∀ n ∈ (decodeArms this ps).2, Holds t P n := by
  fun_induction decodeArms this ps with
  | case1 sought value rest arms otherwise hrest ih =>
    simp only [List.forall_mem_cons] at hps
    have hmore := ih hps.2.2
    rw [hrest] at hmore
    exact ⟨List.forall_mem_cons.2 ⟨⟨holds_decodes hthis hps.1, hps.2.1⟩, hmore.1⟩, hmore.2⟩
  | case2 => simp_all
  | case3 => simp

theorem holds_decodeCase (hps : ∀ p ∈ ps, Holds t P p) : ∀ m ∈ decodeCase ps, Holds t P m := by
  unfold decodeCase
  split
  · rw [List.forall_mem_cons] at hps
    obtain ⟨harms, hlast⟩ := holds_decodeArms hps.1 hps.2
    simpa using holds_caseNode harms hlast
  · simp

theorem holds_positionLater {found : Node → Node} (hfound : ∀ n, Holds t P n → Holds t P (found n))
    (hthis : Holds t P this) (hn : Holds t P n) : Holds t P (positionLater found this n) := by
  have hlater : Holds t P (found (.of (.call .substring) [this, n])) :=
    hfound _ (by simp [hthis, hn])
  unfold positionLater
  refine holds_caseNode ?_ ?_
  · simpa using hlater
  · simpa [hn] using hlater

theorem holds_position (hthis : Holds t P this) (hn : Holds t P n)
    (hps : ∀ p ∈ ps, Holds t P p) : Holds t P (position t c this n ps) := by
  unfold position
  extract_lets write
  have hwrite : ∀ m, Holds t P m → Holds t P (write m) := by
    intro m hm
    simp only [write]
    split <;> simp [hm, hn]
  split
  · exact hwrite this hthis
  · split
    · simpa [hthis, hn] using hps
    · exact holds_positionLater hwrite hthis (holds_headD hps (by simp))
  · simp_all
  · exact holds_positionLater hwrite hthis (hps _ List.mem_cons_self)

theorem holds_splitLimit (hn : Holds t P n) :
    Holds t P (splitLimit n).1 ∧ ∀ p ∈ (splitLimit n).2, Holds t P p := by
  unfold splitLimit
  split <;> simp_all

theorem holds_splitOrder (hn : Holds t P n) :
    Holds t P (splitOrder n).1 ∧ ∀ p ∈ (splitOrder n).2, Holds t P p := by
  unfold splitOrder
  split <;> simp_all

theorem holds_joinGroup (hps : ∀ p ∈ ps, Holds t P p) : Holds t P (joinGroup t c ps) := by
  unfold joinGroup
  split
  · simp
  · next this rest =>
    rw [List.forall_mem_cons] at hps
    have hseparator : Holds t P (rest.headD (.text ",")) := holds_headD hps.2 (by simp)
    have hlimit := holds_splitLimit hps.1
    have horder := holds_splitOrder hlimit.1
    dsimp only
    split
    · simpa using hps
    · simpa [hps.1] using hseparator
    · rw [holds_mk rfl rfl, List.forall_mem_singleton, holds_of rfl rfl, List.forall_mem_append,
        List.forall_mem_append, List.forall_mem_cons, List.forall_mem_singleton]
      exact ⟨⟨⟨horder.1, hseparator⟩, horder.2⟩, hlimit.2⟩

theorem holds_replaceAll (hps : ∀ p ∈ ps, Holds t P p) : Holds t P (replaceAll t c ps) := by
  unfold replaceAll
  extract_lets chosen given modifiers args
  have hgiven : ∀ m ∈ given, Holds t P m := holds_head?_drop 5 hps
  clear_value given
  have hmodifiers : ∀ m ∈ modifiers, Holds t P m := by
    simp only [modifiers]
    split
    · exact hgiven
    · split <;> simp_all
  rw [holds_mk rfl rfl]
  simp only [args]
  split
  · simpa [or_imp, forall_and] using ⟨holds_take 3 hps, hmodifiers⟩
  · simpa [or_imp, forall_and] using ⟨holds_take 5 hps, hmodifiers⟩
  · exact hps

theorem holds_firstMatch (hps : ∀ p ∈ ps, Holds t P p) : Holds t P (firstMatch c ps) := by
  have hflags := holds_head?_drop 4 hps
  have hgiven := holds_head?_drop 5 hps
  unfold firstMatch
  extract_lets flags group
  have hgroup : ∀ m ∈ group, Holds t P m := by
    simp only [group]
    split
    · split <;> simp_all
    · simp
  rw [holds_mk rfl rfl, List.forall_mem_append, List.forall_mem_append]
  exact ⟨⟨holds_take 2 hps, hgroup⟩, by simpa [flags] using hflags⟩

theorem holds_codePoint (hthis : Holds t P this) : ∀ m ∈ codePoint? t c this, Holds t P m := by
  unfold codePoint?
  split <;> simp [hthis]

/-! ## Times -/

theorem holds_intervalOf (hn : Holds t P n) : Holds t P (intervalOf n ps) := by
  simp [intervalOf, hn]

theorem holds_moved_time (hps : ∀ p ∈ ps, Holds t P p) : Holds t P (moved t c kind name ps) := by
  unfold moved
  extract_lets op isText
  split
  · simp only [List.forall_mem_cons] at hps
    rw [holds_mk rfl rfl, List.forall_mem_cons, List.forall_mem_singleton]
    refine ⟨?_, ?_⟩
    · split
      · exact holds_castOnce "DATE" hps.1
      · split
        · exact holds_castTo.2 hps.1
        · exact hps.1
    · split
      · exact hps.2.1
      · exact holds_intervalOf hps.2.1
  · simp only [List.forall_mem_cons] at hps
    split
    · rw [holds_mk rfl rfl, List.forall_mem_cons, List.forall_mem_singleton]
      refine ⟨?_, by simp⟩
      split
      · exact holds_castOnce "DATE" hps.1
      · exact hps.1
    · simpa using hps
  · simp only [List.forall_mem_cons] at hps
    simp [hps.1, holds_intervalOf hps.2.1]
  · simpa using hps

theorem holds_asTime (hn : Holds t P n) : Holds t P (asTime n) := by
  unfold asTime
  split <;> simp [hn]

theorem holds_partOf (part : String) (hn : Holds t P n) : Holds t P (partOf part n) := by
  simp [partOf, hn]

theorem holds_ageDifference (unit : Option String) (hthis : Holds t P this)
    (hother : Holds t P other) : Holds t P (ageDifference this other unit) := by
  unfold ageDifference
  extract_lets stop start span age op quotient value
  have hspan : Holds t P span := by simp [span, stop, start, hthis, hother]
  have hage : Holds t P age := by simp [age, stop, start, hthis, hother]
  have hop : ∀ o a s, Holds t P a → Holds t P (op o a s) := fun o a s ha => by simp [op, ha]
  have hvalue : Holds t P value := by
    unfold value
    clear_value span age op quotient
    split
    · exact holds_partOf "epoch" hspan
    · refine hop _ _ _ (holds_partOf "days" ?_)
      simpa using hspan
    · simp [hop, holds_partOf, hage]
    · simp [hop, holds_partOf, hage]
    · exact holds_partOf "year" hage
    · split
      · exact hop _ _ _ (holds_partOf "epoch" hspan)
      · exact hage
    · exact hage
  simpa using hvalue

theorem holds_difference (hps : ∀ p ∈ ps, Holds t P p) : Holds t P (difference t c kind ps) := by
  unfold difference
  split
  · simp only [List.forall_mem_cons] at hps
    extract_lets settled
    have hsettled : ∀ n, Holds t P n → Holds t P (settled n) := by
      intro n hn
      simp only [settled]
      split
      · exact hn
      · exact holds_asTime hn
      · exact holds_castOnce "TIMESTAMP" hn
      · exact holds_asDate hn
    simp [hsettled, hps.1, hps.2.1]
  · split
    · simp only [List.forall_mem_cons] at hps
      exact holds_ageDifference _ hps.1 hps.2.1
    · simpa using hps
  · simp only [List.forall_mem_cons] at hps
    split <;> simp [hps.1, hps.2.1]
  · simpa using hps

theorem holds_lastDay (hthis : Holds t P this) : Holds t P (lastDay this) := by
  simp [lastDay, hthis]

theorem holds_secondsForm (hps : ∀ p ∈ ps, Holds t P p) :
    ∀ m ∈ secondsForm? t kind ps, Holds t P m := by
  unfold secondsForm?
  split <;> simp_all [holds_castOnce]

theorem holds_dayForm (hps : ∀ p ∈ ps, Holds t P p) :
    ∀ m ∈ dayForm? t kind ps, Holds t P m := by
  unfold dayForm?
  split <;> simp_all [holds_castOnce, holds_partOf]

theorem holds_inZone (hps : ∀ p ∈ ps, Holds t P p) : ∀ m ∈ inZone t ps, Holds t P m := by
  unfold inZone
  split <;> simp_all [holds_castOnce]

theorem holds_convertedTime (hps : ∀ p ∈ ps, Holds t P p) :
    ∀ m ∈ convertedTime? kind ps, Holds t P m := by
  unfold convertedTime?
  extract_lets zoned
  split <;> simp_all [zoned]
  · split <;> simp_all

theorem holds_clock (hps : ∀ p ∈ ps, Holds t P p) : Holds t P (clock t c kind name ps) := by
  unfold clock
  split <;> simp_all

theorem holds_universalClock (hps : ∀ p ∈ ps, Holds t P p) :
    Holds t P (universalClock t c kind name ps) := by
  have hzone : ∀ p ∈ [Node.text "UTC"], Holds t P p := by simp
  unfold universalClock
  split
  · simpa using hps
  · simpa using hps
  · simpa using hps
  · exact holds_clock hzone
  · exact holds_clock hzone
  · simp

theorem holds_firstDay : Holds t P (firstDay t) :=
  holds_converted "DATE" (by simp)

theorem holds_secondsSince (hthis : Holds t P this) : Holds t P (secondsSince t c this) := by
  unfold secondsSince
  split
  · dsimp only
    split <;> simp [hthis]
  · exact holds_difference (by simp [hthis, holds_converted])

theorem holds_formatted (hps : ∀ p ∈ ps, Holds t P p) :
    Holds t P (formatted t c kind name ps) := by
  unfold formatted
  split
  · simp only [List.forall_mem_cons] at hps
    dsimp only
    split <;> simp [hps.1, holds_mapArgument, hps.2.1]
  · simpa using hps

theorem holds_monthsLater (hthis : Holds t P this) (hn : Holds t P n) :
    Holds t P (monthsLater this n) := by
  unfold monthsLater
  dsimp only
  split <;> split <;> simp [hthis, hn]

/-! ## Numbers -/

theorem holds_median (hps : ∀ p ∈ ps, Holds t P p) : Holds t P (median t c ps) := by
  unfold median
  split
  · split <;> simp_all
  · simpa using hps

theorem holds_percentile (hps : ∀ p ∈ ps, Holds t P p) :
    Holds t P (percentile t c kind name ps) := by
  unfold percentile
  split <;> simp_all

theorem holds_rounded (hps : ∀ p ∈ ps, Holds t P p) : Holds t P (rounded t c ps) := by
  unfold rounded
  split
  · dsimp only
    split <;> simp_all
  · simpa using hps

theorem holds_safeDivision (hthis : Holds t P this) (hother : Holds t P other) :
    Holds t P (safeDivision t this other) := by
  have hdivisor := holds_guardOperand hother
  have hoperands : ∀ p ∈ [Calls.guardOperand this, Calls.guardOperand other], Holds t P p := by
    simp [holds_guardOperand hthis, hdivisor]
  unfold safeDivision
  refine holds_caseNode ?_ (by simp)
  simpa [hdivisor] using holds_division false _ hoperands

/-! ## Calls -/

theorem holds_usualCall (hps : ∀ p ∈ ps, Holds t P p) : Holds t P (usualCall t c kind name ps) := by
  unfold usualCall
  simpa using hps

theorem holds_numberForm (hps : ∀ p ∈ ps, Holds t P p) :
    ∀ m ∈ numberForm? t c kind name ps, Holds t P m := by
  unfold numberForm?
  split
  · split <;> simp_all
  · split <;> simp_all
  · split
    · refine holds_some ?_
      rw [holds_mk rfl rfl, List.forall_mem_singleton]
      exact holds_caseNode (by simpa using hps) (by simp)
    · simp
  · split
    · exact holds_some <| holds_usualCall (by simp_all)
    · simp
  · exact holds_some <| holds_median hps
  · exact holds_some <| holds_percentile hps
  · exact holds_some <| holds_percentile hps
  · exact holds_some <| holds_rounded hps
  · simp only [List.forall_mem_cons] at hps
    exact holds_some <| holds_safeDivision hps.1 hps.2.1
  · simp

theorem holds_choiceForm (hps : ∀ p ∈ ps, Holds t P p) :
    ∀ m ∈ choiceForm? t c kind name ps, Holds t P m := by
  unfold choiceForm?
  split
  · simp only [List.forall_mem_cons] at hps
    split
    · simp
    · exact holds_some <| holds_byNull hps.1 hps.2.1 fun n hn => hps.2.2 n (List.mem_of_mem_head? hn)
  · split
    · simp
    · exact holds_decodeCase hps
  · split <;> simp_all
  · split <;> simp_all
  · simp

theorem holds_textForm (hps : ∀ p ∈ ps, Holds t P p) :
    ∀ m ∈ textForm? t c kind name ps, Holds t P m := by
  unfold textForm?
  split
  · simp only [List.forall_mem_cons] at hps
    exact holds_some <| holds_position hps.1 hps.2.1 hps.2.2
  · split <;> simp_all
  · exact holds_some <| holds_replaceAll hps
  · exact holds_some <| holds_patternMatch false hps
  · split
    · exact holds_some <| holds_firstMatch hps
    · simp
  · simp_all
  · exact holds_codePoint (hps _ List.mem_cons_self)
  · split
    · exact holds_some <| holds_usualCall (by simp_all)
    · simp
  · split
    · exact holds_some <| holds_usualCall (by simp_all)
    · simp
  · split <;> simp_all
  · split <;> simp_all
  · simp

theorem holds_convertedUnless (type : String) (hthis : Holds t P this) :
    ∀ m ∈ conversionForm?.convertedUnless t type this ps, Holds t P m := by
  unfold conversionForm?.convertedUnless
  split
  · simp
  · split
    · exact holds_some <| holds_converted type hthis
    · simp
  · exact holds_some <| holds_converted type hthis

theorem holds_conversionForm (hps : ∀ p ∈ ps, Holds t P p) :
    ∀ m ∈ conversionForm? t kind ps, Holds t P m := by
  unfold conversionForm?
  split
  · exact holds_convertedUnless "TEXT" (hps _ List.mem_cons_self)
  · exact holds_convertedUnless "DOUBLE" (hps _ List.mem_cons_self)
  · exact holds_some <| holds_converted "VARCHAR" (hps _ List.mem_cons_self)
  · simp only [List.forall_mem_cons] at hps
    refine holds_some (holds_converted "VARCHAR" (holds_getD ?_ hps.1))
    exact holds_inZone (by simp [hps.1, hps.2.1])
  · exact holds_some <| holds_converted "BIGINT" (hps _ List.mem_cons_self)
  · exact holds_some <| holds_converted "DOUBLE" (hps _ List.mem_cons_self)
  · split <;> simp_all
  · split <;> simp_all
  · split <;> simp_all
  · simp

theorem holds_spanForm (hps : ∀ p ∈ ps, Holds t P p) :
    ∀ m ∈ spanForm? t c kind name ps, Holds t P m := by
  have hcons : ∀ {p qs}, (∀ q ∈ p :: qs, Holds t P q) → Holds t P p :=
    fun h => h _ List.mem_cons_self
  have hkeyword : Holds t P (.of (.keyword "DAY") []) := by simp
  unfold spanForm?
  split
  iterate 5 exact holds_some <| holds_moved_time hps
  iterate 4
    split
    · exact holds_some <| holds_moved_time hps
    · simp
  iterate 3 exact holds_some <| holds_difference hps
  iterate 2
    split
    · exact holds_some <| holds_difference hps
    · simp
  · split <;> simp_all
  · split <;> simp_all
  · simp only [List.forall_mem_cons] at hps
    split
    · exact holds_some <| holds_monthsLater hps.1 hps.2.1
    · simp
  · refine holds_some ?_
    split
    · exact holds_lastDay (hcons hps)
    · exact holds_usualCall (by simpa using hcons hps)
  · exact holds_some <| holds_secondsSince (hcons hps)
  · exact holds_some <| holds_difference (by simp [hcons hps, holds_firstDay, hkeyword])
  · exact holds_some <| holds_moved_time (by simp [hcons hps, holds_firstDay, hkeyword])
  · simp

theorem holds_clockForm (hps : ∀ p ∈ ps, Holds t P p) :
    ∀ m ∈ clockForm? t c kind name ps, Holds t P m := by
  unfold clockForm?
  split
  iterate 3 exact holds_some <| holds_formatted hps
  iterate 4
    split
    · exact holds_convertedTime hps
    · simp
  iterate 2 exact holds_some <| holds_clock hps
  iterate 3 exact holds_some <| holds_universalClock hps
  · exact holds_inZone hps
  · simp

theorem holds_listForm (hps : ∀ p ∈ ps, Holds t P p) :
    ∀ m ∈ listForm? t c kind name ps, Holds t P m := by
  unfold listForm?
  split
  · split <;> simp_all
  · simp only [List.forall_mem_cons] at hps
    split
    · refine holds_some (holds_usualCall ?_)
      split <;> simp_all
    · simp
    · exact holds_some <| holds_usualCall (by simpa using hps.1)
  · simp

theorem holds_ownForm (hP : Covers P)
    (hfield : kind = "STRUCTEXTRACT" → t.functions = .postgres → ∀ s, P (.ofText s))
    (hps : ∀ p ∈ ps, Holds t P p) : ∀ m ∈ ownForm? t c kind name ps, Holds t P m := by
  unfold ownForm?
  repeat' apply holds_orElse
  · exact holds_numberForm hps
  · exact holds_choiceForm hps
  · exact holds_textForm hps
  · exact holds_conversionForm hps
  · exact holds_spanForm hps
  · exact holds_clockForm hps
  · exact holds_listForm hps
  · exact holds_arrayForm hP hfield hps
  · exact holds_secondsForm hps
  · exact holds_dayForm hps

theorem holds_fitKnown (hP : Covers P)
    (hfield : kind = "STRUCTEXTRACT" → t.functions = .postgres → ∀ s, P (.ofText s))
    (hps : ∀ p ∈ ps, Holds t P p) : Holds t P (fitKnown t c kind name ps) :=
  holds_getD (holds_ownForm hP hfield hps) (holds_usualCall hps)

end SemanticLayer.Sql.Lowering
