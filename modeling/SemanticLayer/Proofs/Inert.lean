import SemanticLayer.Proofs.Reading

/-!
# Rules that find nothing
-/

namespace SemanticLayer.Sql.Parser

open Rule (Ensures FindsNothing)

variable {s : Scope} {α β : Type} {c d e : Cursor} {R : Rules}

/-- The word SELECT stands at the cursor. -/
def AtSelect (c : Cursor) : Prop :=
  ∃ t ts, c.rest = t :: ts ∧ t.kind = .word ∧ t.key = "SELECT"

namespace AtSelect

theorem key (h : AtSelect c) : c.key = "SELECT" := by
  obtain ⟨t, ts, hr, -, hk⟩ := h
  rw [Ensures.key_of_rest hr, hk]

theorem of_same (h : AtSelect c) (hd : SamePlace c d) : AtSelect d := by
  obtain ⟨t, ts, hr, hw, hk⟩ := h
  exact ⟨t, ts, hd.rest.trans hr, hw, hk⟩

end AtSelect

/-- SELECT is a plain keyword of the grammar. -/
structure PlainSelect (g : Grammar) : Prop where
  notCallable : g.isCallable "SELECT" = false
  noType : g.typeName? "SELECT" = none

theorem isName_select (g : Grammar) : g.isName "SELECT" = false := by
  simp [Grammar.isName, Vocabulary.reserved]

/-- A word that may not be a name. -/
theorem name_word {t : Token} {ts : List Token} (hr : c.rest = t :: ts) (hw : t.kind = .word)
    {anything : Bool} {allowed : String → Bool} (hn : (anything && isAnyName t) = false)
    (ha : allowed t.key = false) :
    (name anything allowed : Rule s (Option Node)).FindsNothing c := by
  refine Ensures.bind (Ensures.peek ?_)
  rw [hr]
  simp only [List.head?_cons, hw, Token.isWord, hn, ha]
  exact FindsNothing.pure

/-- A word is no string. -/
theorem stringName_word {t : Token} {ts : List Token} (hr : c.rest = t :: ts)
    (hw : t.kind = .word) : (stringName : Rule s (Option Node)).FindsNothing c := by
  refine Ensures.bind (Ensures.peek ?_)
  rw [hr]
  simp only [List.head?_cons, hw]
  exact FindsNothing.pure

theorem name_select (h : AtSelect c) {anything : Bool} {allowed : String → Bool}
    (ha : allowed "SELECT" = false) :
    (name anything allowed : Rule s (Option Node)).FindsNothing c := by
  obtain ⟨t, ts, hr, hw, hk⟩ := h
  refine name_word hr hw ?_ (hk ▸ ha)
  simp [isAnyName, hw, hk]

theorem stringName_select (h : AtSelect c) :
    (stringName : Rule s (Option Node)).FindsNothing c := by
  obtain ⟨t, ts, hr, hw, -⟩ := h
  exact stringName_word hr hw

theorem placeholder_select (h : AtSelect c) (g : Grammar) :
    (placeholder g : Rule s (Option Node)).FindsNothing c := by
  refine Ensures.bind (Ensures.peekKey ?_)
  rw [h.key]
  exact FindsNothing.pure

theorem literal_select (h : AtSelect c) : (literal R).FindsNothing c := by
  obtain ⟨t, ts, hr, hw, hk⟩ := h
  have hplain : (plainLiteral R).FindsNothing c := by
    refine Ensures.bind (Ensures.peek ?_)
    rw [hr, List.head?_cons]
    dsimp only
    rw [hw, hk]
    exact FindsNothing.pure
  have hset : namesCharacterSet R.grammar t = false := by
    have hselect : Vocabulary.characterSets.contains "SELECT" = false := by decide
    rw [namesCharacterSet, hk, hselect, Bool.and_false, Bool.false_and]
  refine Ensures.bind (Ensures.peek ?_)
  rw [hr, List.head?_cons]
  dsimp only
  rw [if_neg (by simp [hset])]
  exact hplain

theorem parenthesized_select (h : AtSelect c) : (parenthesized R).FindsNothing c := by
  refine Ensures.bind (Ensures.peekKey ?_)
  rw [h.key]
  exact FindsNothing.pure

theorem bracket_select (h : AtSelect c) (this : Option Node) :
    (bracket R this).FindsNothing c := by
  refine Ensures.bind (Ensures.peekKey ?_)
  rw [h.key]
  refine Ensures.bind (Ensures.peekKey ?_)
  rw [h.key]
  exact FindsNothing.pure

theorem call_select (hg : PlainSelect R.grammar) (h : AtSelect c) (place : CallPlace)
    (hp : place.anyName = false) : (call R place).FindsNothing c := by
  have hplain : (plainCall R place).FindsNothing c := by
    obtain ⟨t, ts, hr, hw, hk⟩ := h
    refine Ensures.bind (Ensures.peek ?_)
    rw [hr]
    refine Ensures.bind (Ensures.here ?_)
    have hkey : (if place.bare && (t.isWord || t.key == "@") then
        keywordOperand R c.hierarchy t.key else none) = none := by
      rw [hk]
      split <;> rfl
    simp only [hkey]
    refine Ensures.bind (Ensures.peekSecondKey ?_)
    split
    · simpa [hp, hw, hk, Token.isWord, hg.notCallable] using FindsNothing.pure
    · have hconst : (if place.bare && t.isWord then constant? R.grammar t.key else none) = none := by
        rw [hk]
        split <;> rfl
      simp only [hconst]
      exact FindsNothing.pure
  refine Ensures.bind (Ensures.here (Ensures.bind (Ensures.peekKey ?_)))
  rw [h.key]
  exact hplain

theorem callOrMap_select (hg : PlainSelect R.grammar) (h : AtSelect c) :
    (callOrMap R).FindsNothing c := by
  refine Ensures.bind (Ensures.peekKey ?_)
  rw [h.key, if_neg (by simp)]
  exact call_select hg h {} rfl

theorem field_select (hg : PlainSelect R.grammar) (h : AtSelect c) : (field R).FindsNothing c := by
  refine (literal_select h).bind fun d hd => ?_
  refine (parenthesized_select (h.of_same hd)).bind fun d' hd' => ?_
  replace hd := hd.trans hd'
  refine (callOrMap_select hg (h.of_same hd)).bind fun d' hd' => ?_
  replace hd := hd.trans hd'
  refine Ensures.bind (Ensures.peekKey (Ensures.bind (Ensures.peekSecondKey ?_)))
  refine (name_select (h.of_same hd) (isName_select R.grammar)).bind fun d' hd' => ?_
  replace hd := hd.trans hd'
  refine (placeholder_select (h.of_same hd) R.grammar).bind fun d' hd' => ?_
  replace hd := hd.trans hd'
  exact (bracket_select (h.of_same hd) none).of_same hd

theorem column_select (hg : PlainSelect R.grammar) (h : AtSelect c) :
    (column R).FindsNothing c :=
  (field_select hg h).bind fun _ hd => Ensures.pure ⟨rfl, hd⟩

theorem interval_select (h : AtSelect c) : (interval R true).FindsNothing c := by
  refine FindsNothing.orBack ?_
  refine Ensures.bind (Ensures.accept_of_ne (by simp [h.key]) ?_)
  exact Ensures.pure rfl

theorem dataType_select (hg : PlainSelect R.grammar) (h : AtSelect c) (checkCall : Bool) :
    (dataType R checkCall false).FindsNothing c := by
  refine FindsNothing.orBack ?_
  obtain ⟨t, ts, hr, hw, hk⟩ := h
  refine Ensures.bind (Ensures.peek ?_)
  rw [hr]
  simp only [List.head?_cons, Token.isWord, hw, hk, beq_self_eq_true, if_true, hg.noType]
  exact Ensures.pure rfl

theorem typedLiteral_select (hg : PlainSelect R.grammar) (h : AtSelect c) :
    (typedLiteral R).FindsNothing c := by
  refine FindsNothing.orBack ?_
  refine Ensures.bind (Ensures.here ?_)
  exact (dataType_select hg h true).bind fun _ _ => Ensures.pure rfl

theorem operand_select (hg : PlainSelect R.grammar) (h : AtSelect c) :
    (operand R).FindsNothing c := by
  refine (interval_select h).bind fun d hd => ?_
  refine (typedLiteral_select hg (h.of_same hd)).bind fun d' hd' => ?_
  replace hd := hd.trans hd'
  exact (column_select hg (h.of_same hd)).of_same hd

theorem unary_select (hg : PlainSelect R.grammar) (h : AtSelect c) :
    (unary R).FindsNothing c := by
  refine Ensures.bind (Ensures.peekKey ?_)
  rw [h.key]
  refine (operand_select hg h).bind fun d hd => ?_
  refine Ensures.chain_of_none ?_
  refine Ensures.bind (Ensures.acceptAll_of_ne (by simp [hd.key, h.key]) ?_)
  exact Ensures.pure ⟨rfl, rfl, hd⟩

theorem power_select (hg : PlainSelect R.grammar) (h : AtSelect c) :
    (power R).FindsNothing c := by
  refine (unary_select hg h).bind fun d hd => ?_
  split
  · exact Ensures.pure ⟨rfl, hd⟩
  · refine Ensures.chain_of_none ?_
    refine Ensures.bind (Ensures.acceptOne_of_not_mem (by simp [hd.key, h.key]) ?_)
    exact Ensures.pure ⟨rfl, rfl, hd⟩

/-- A level of operators over operands that find nothing at a key that is none of the operators. -/
theorem level_findsNothing {operand : Rule .operand (Option Node)}
    {operators : List (String × BinaryOp)} (ho : operand.FindsNothing c)
    (hk : operators.lookup c.key = none) : (level operand operators).FindsNothing c := by
  refine ho.bind fun d hd => Ensures.chain_of_none ?_
  refine Ensures.bind (Ensures.peekKey ?_)
  rw [hd.key, hk]
  exact Ensures.pure ⟨rfl, rfl, hd⟩

theorem factor_select (hg : PlainSelect R.grammar) (h : AtSelect c) :
    (factor R).FindsNothing c := by
  refine (power_select hg h).bind fun d hd => Ensures.chain_of_none ?_
  refine Ensures.bind (Ensures.peekKey ?_)
  have hk : (factorOperators R.grammar).lookup "SELECT" = none := by
    unfold factorOperators
    split <;> rfl
  rw [hd.key, h.key, hk]
  exact Ensures.pure ⟨rfl, rfl, hd⟩

theorem term_select (hg : PlainSelect R.grammar) (h : AtSelect c) : (term R).FindsNothing c := by
  refine (factor_select hg h).bind fun d hd => Ensures.chain_of_none ?_
  refine Ensures.bind (Ensures.peekKey ?_)
  rw [hd.key, h.key]
  exact Ensures.pure ⟨rfl, rfl, hd⟩

theorem bitwise_select (hg : PlainSelect R.grammar) (h : AtSelect c) :
    (bitwise R).FindsNothing c := by
  refine (term_select hg h).bind fun d hd => Ensures.chain_of_none ?_
  have hkey : d.key = "SELECT" := hd.key.trans h.key
  refine Ensures.bind (Ensures.peekKey ?_)
  have hk : (bitOperators R.grammar).lookup "SELECT" = none := by
    unfold bitOperators
    split <;> split <;> split <;> rfl
  rw [hkey, hk]
  refine Ensures.bind (Ensures.acceptAll_of_ne (by simp [hkey]) ?_)
  refine Ensures.bind (Ensures.acceptAll_of_ne (by simp [hkey]) ?_)
  refine Ensures.bind (Ensures.pure ?_)
  refine Ensures.bind (Ensures.accept_of_ne (by simp [hkey]) ?_)
  exact Ensures.pure ⟨rfl, rfl, hd⟩

theorem predicate_select (h : AtSelect c) (this : Option Node) :
    (predicate R this).FindsNothing c := by
  refine Ensures.bind (Ensures.peekKey ?_)
  have hp : (patternOperators R.grammar).lookup "SELECT" = none := by
    unfold patternOperators
    split <;> split <;> rfl
  have hc : (callOperators R.grammar).lookup "SELECT" = none := by
    unfold callOperators
    split <;> rfl
  rw [h.key]
  simp only [hp, hc]
  exact FindsNothing.pure

theorem range_select (hg : PlainSelect R.grammar) (h : AtSelect c) : (range R).FindsNothing c := by
  refine (bitwise_select hg h).bind fun d hd => ?_
  refine Ensures.bind (Ensures.pure (Ensures.bind (Ensures.peekKey ?_)))
  rw [hd.key, h.key, if_neg (by simp)]
  refine (predicate_select (h.of_same hd) none).bind fun e he => ?_
  exact Ensures.bind (Ensures.pure (Ensures.pure ⟨rfl, hd.trans he⟩))

theorem assignment_select (hg : PlainSelect R.grammar) (h : AtSelect c) :
    (assignment R).FindsNothing c := by
  have hcomparison : (comparison R).FindsNothing c :=
    level_findsNothing (range_select hg h) (by rw [h.key]; rfl)
  have hequality : (equality R).FindsNothing c :=
    level_findsNothing hcomparison (by rw [h.key]; rfl)
  have hconjunction : (conjunction R).FindsNothing c :=
    level_findsNothing hequality (by rw [h.key]; split <;> rfl)
  have hdisjunction : (disjunction R).FindsNothing c :=
    level_findsNothing hconjunction (by rw [h.key]; split <;> rfl)
  exact level_findsNothing hdisjunction (by rw [h.key]; rfl)

theorem label_select (h : AtSelect c) : (label R).FindsNothing c := by
  refine Ensures.bind (Ensures.peekSecondKey ?_)
  split
  · exact name_select h (isName_select R.grammar)
  · exact FindsNothing.pure

/-- Without a limit at the cursor its words are names. -/
theorem limitFollows_of_ne {post : Bool → Cursor → Prop} (hl : c.key ≠ "LIMIT")
    (ho : c.key ≠ "OFFSET") (h : post false c) :
    (limitFollows R : Rule s Bool).Ensures c post := by
  refine Ensures.bind (Ensures.peekKey ?_)
  rw [if_neg (by simp [hl, ho])]
  exact Ensures.pure h

theorem bareAlias_select (h : AtSelect c) : (bareAlias R none).FindsNothing c := by
  refine Ensures.bind (Ensures.pending (Ensures.bind (Ensures.peekKey ?_)))
  rw [h.key, if_neg (by simp)]
  refine FindsNothing.bind (name_select h (isName_select R.grammar)) fun d hd => ?_
  dsimp only
  split
  · refine FindsNothing.bind (stringName_select (h.of_same hd)) fun d' hd' => ?_
    exact Ensures.pure ⟨rfl, hd.trans hd'⟩
  · exact Ensures.bind (Ensures.pure (Ensures.pure ⟨rfl, hd⟩))

/-- SELECT begins no expression. -/
theorem expression_select (hg : PlainSelect R.grammar) (h : AtSelect c) :
    (expression R).FindsNothing c := by
  refine FindsNothing.bind (label_select h) fun d hd => ?_
  refine FindsNothing.bind (assignment_select hg (h.of_same hd)) fun d' hd' => ?_
  replace hd := hd.trans hd'
  have hkey : d'.key = "SELECT" := (h.of_same hd).key
  refine Ensures.bind (limitFollows_of_ne (by simp [hkey]) (by simp [hkey]) ?_)
  refine Ensures.bind (Ensures.accept_of_ne (by simp [hkey]) ?_)
  exact (bareAlias_select (h.of_same hd)).of_same hd

/-! ## Where no clause begins -/

/-- Keys with which a query goes on after an item of its list: a further item, a clause, a join, a
set operation or a step. -/
def continuations : List String :=
  [",", "INTO", "FROM", "JOIN", "STRAIGHT_JOIN", "LATERAL", "WHERE", "GROUP BY", "HAVING",
    "QUALIFY", "WINDOW", "ORDER BY", "CLUSTER BY", "DISTRIBUTE BY", "SORT BY", "ORDER SIBLINGS BY",
    "LIMIT", "FETCH", "OFFSET", "FOR", "LOCK", "TABLESAMPLE", "USING", "START WITH", "CONNECT BY",
    "UNION", "EXCEPT", "INTERSECT", "|>"]

/-- Words that may stand before JOIN. -/
def joinSides : List String :=
  ["NATURAL", "ASOF", "POSITIONAL", "LEFT", "RIGHT", "FULL", "ANTI", "CROSS", "INNER", "OUTER",
    "SEMI"]

/-- A query does not go on with the tokens. -/
def Idle : List Token → Prop
  | [] => True
  | t :: ts => t.key ∉ continuations ∧ (t.key ∈ joinSides → Idle ts) ∧
      (t.key ∈ ["CROSS", "OUTER"] → ts.head?.any (fun u => u.key == "APPLY") = false)

theorem Idle.key (h : Idle c.rest) : c.key ∉ continuations := by
  cases hr : c.rest with
  | nil => simp [Cursor.key, hr, continuations]
  | cons t ts =>
    rw [hr] at h
    rw [Ensures.key_of_rest hr]
    exact h.1

theorem Idle.key_ne (h : Idle c.rest) {k : String} (hk : k ∈ continuations) : c.key ≠ k :=
  fun he => h.key (he ▸ hk)

theorem Idle.of_same (h : Idle c.rest) (hd : SamePlace c d) : Idle d.rest := hd.rest ▸ h

/-- A key that continues a query is not there. -/
theorem accept_idle (h : Idle c.rest) {k : String} (hk : k ∈ continuations)
    {post : Bool → Cursor → Prop} (hp : post false c) :
    (accept k : Rule s Bool).Ensures c post :=
  Ensures.accept_of_ne (h.key_ne hk) hp

/-- A word before JOIN leaves tokens with which the query does not go on either. -/
theorem acceptOne_idle (h : Idle c.rest) {ks : List String}
    (hks : ∀ k ∈ ks, k ∈ joinSides ∨ k ∈ continuations) {post : Option Token → Cursor → Prop}
    (hp : ∀ x d, (∀ t, x = some t → t.key ∈ joinSides) → Idle d.rest → post x d) :
    (acceptOne ks : Rule s (Option Token)).Ensures c post := by
  refine Ensures.acceptOne (fun _ => hp none c (by simp) h) ?_ fun hempty => ?_
  · intro t ts hr ht
    rw [hr] at h
    obtain hside | hcont := hks _ ht
    · exact hp (some t) _ (fun u hu => Option.some.inj hu ▸ hside) (h.2.1 hside)
    · exact absurd hcont h.1
  · exact absurd (hks _ hempty) (by decide)

/-- Words of a join without JOIN after them are none. -/
theorem joinWords_idle (h : Idle c.rest) : joinWords.FindsNothing c := by
  refine FindsNothing.orBack ?_
  refine Ensures.bind (acceptOne_idle h (by decide) fun method d _ hd => ?_)
  refine Ensures.bind (acceptOne_idle hd (by decide) fun side e _ he => ?_)
  refine Ensures.bind (acceptOne_idle he (by decide) fun kind f hkind hf => ?_)
  have hstraight : ((kind.map Token.key) == some "STRAIGHT_JOIN") = false := by
    cases kind with
    | none => rfl
    | some t =>
      have hk : t.key ≠ "STRAIGHT_JOIN" := fun hk => absurd (hk ▸ hkind t rfl) (by decide)
      simpa using hk
  rw [hstraight]
  exact Ensures.bind (accept_idle hf (by decide) (Ensures.pure rfl))

/-- CROSS and OUTER stand before no APPLY. -/
theorem Idle.noApply {ts : List Token} (h : Idle ts) {k : String} (hk : k ∈ ["CROSS", "OUTER"]) :
    ((ts.take 2).map Token.key == [k, "APPLY"]) = false := by
  match ts, h with
  | [], _ => rfl
  | [t], _ => simp
  | t :: u :: us, h =>
    have hne : t.key = k → u.key ≠ "APPLY" := by
      rintro rfl
      simpa using h.2.2 hk
    simpa using hne

theorem apply_idle (h : Idle c.rest) : apply.FindsNothing c := by
  refine Ensures.bind (Ensures.bind (Ensures.here ?_))
  rw [show ["CROSS", "APPLY"].length = 2 from rfl, h.noApply (by simp)]
  refine Ensures.pure (Ensures.bind (Ensures.bind (Ensures.here ?_)))
  rw [show ["OUTER", "APPLY"].length = 2 from rfl, h.noApply (by simp)]
  exact Ensures.pure FindsNothing.pure

theorem lateral_idle (h : Idle c.rest) : (lateral R).FindsNothing c := by
  refine (apply_idle h).bind fun d hd => ?_
  refine Ensures.bind (accept_idle (h.of_same hd) (by decide) ?_)
  exact Ensures.pure ⟨rfl, hd⟩

theorem joinWith_idle (h : Idle c.rest) (inner : Rule .clause (List Node)) :
    (joinWith R inner).FindsNothing c := by
  refine Ensures.bind (accept_idle h (by decide) ?_)
  refine (joinWords_idle h).bind fun d hd => ?_
  refine Ensures.bind (Ensures.peekKey (Ensures.bind (Ensures.peekSecondKey ?_)))
  have happly : (["CROSS", "OUTER"].contains d.key && d.secondKey == "APPLY") = false := by
    unfold Cursor.secondKey
    match hr : d.rest, h.of_same hd with
    | [], _ => simp [Cursor.key, hr]
    | [t], _ => simp
    | t :: u :: us, h =>
      rw [Ensures.key_of_rest hr]
      cases ht : ["CROSS", "OUTER"].contains t.key with
      | false => rfl
      | true => simpa using h.2.2 (by simpa using ht)
  rw [happly]
  exact Ensures.pure ⟨rfl, hd⟩

theorem joins_idle (h : Idle c.rest) :
    (joins R).Ensures c fun a d => a = [] ∧ SamePlace c d := by
  refine Ensures.bind (Ensures.left ?_)
  exact Ensures.many_of_none ((joinWith_idle h _).mono fun _ _ ha => ⟨ha.1, rfl, ha.2⟩)

theorem clause_idle (h : Idle c.rest) (this : Node) : (clause R this).FindsNothing c := by
  refine Ensures.bind (Ensures.peekKey ?_)
  split
  any_goals exact absurd ‹c.key = _› (h.key_ne (by decide))
  exact FindsNothing.pure

theorem clauses_idle (h : Idle c.rest) (this : Node) :
    (clauses R this).Ensures c fun n d => n = this ∧ SamePlace c d := by
  unfold clauses
  split
  · exact Ensures.pure ⟨rfl, .refl c⟩
  refine Ensures.bind ((joins_idle h).mono ?_)
  rintro _ d ⟨rfl, hd⟩
  refine Ensures.bind (Ensures.many_of_none ?_)
  refine (lateral_idle (h.of_same hd)).mono fun _ d' ha => ⟨ha.1, ?_⟩
  replace hd := hd.trans ha.2
  refine Ensures.chain_of_none ?_
  refine (clause_idle (h.of_same hd) _).mono fun _ d' ha => ⟨ha.1, ?_, hd.trans ha.2⟩
  cases this
  simp [Node.setParts, Node.parts]

theorem setOperations_idle (h : Idle c.rest) (this : Node) :
    (setOperations R this).Ensures c fun n d =>
      (this.head = .select → n = this) ∧ SamePlace c d := by
  refine Ensures.bind (Ensures.chain_of_none ?_)
  have hsub : ["UNION", "EXCEPT", "INTERSECT"] ⊆ continuations := by decide
  have hk : c.key ∉ ["UNION", "EXCEPT", "INTERSECT"] := fun hk => h.key (hsub hk)
  refine Ensures.bind (Ensures.acceptOne_of_not_mem hk ?_)
  refine Ensures.pure ⟨rfl, ?_⟩
  split
  · next hs => exact Ensures.pure ⟨fun hs' => absurd (hs.symm.trans hs') (by simp), .refl c⟩
  · exact Ensures.pure ⟨fun _ => rfl, .refl c⟩

end SemanticLayer.Sql.Parser
