import SemanticLayer.Proofs.Expressions
import SemanticLayer.Proofs.Refusal
import SemanticLayer.Proofs.Terminators
import SemanticLayer.Proofs.View

/-!
# What the WITH item of a model holds

The item of a model holds what the text that stands for the model is read as. This is a query if the
text begins with the word SELECT: the expression rules find nothing there, the query rule finds a
SELECT, and set operations, steps and clauses after it keep it a query (`statement_select`). The
text of a view begins with this word, whatever its columns are.

A model without elements has no view, and validation looks only at the first letters of its
statement. If the first word goes on after the letters of SELECT, it is a plain word, and a
statement that begins with one is a value or set operations that begin with a value
(`statement_plainWord`). So the item of such a model holds no query.

`compile_items_hold_queries` is the result for whole compilations, and `column_in_with_item` a
model that passes validation and stands as a column in a WITH item.
-/

namespace SemanticLayer

open Sql (Node Token Grammar Head)

namespace Sql.Parser

open Rule (Ensures FindsNothing)

variable {s : Scope} {c d : Cursor} {R : Rules} {g : Grammar} {m : Nat}

/-! ## Queries -/

/-- What may stand on the right of a set operation: a query, rows of values, or a statement of
another kind that has a WITH of its own. -/
def IsOperand (n : Node) : Prop :=
  n.head.isQuery = true ∨ (∃ label, n.head = .values label) ∨
    takesWith n.head = true ∧ (n.find? Head.isWith).isSome = true

/-- The node is a SELECT, or set operations that begin with one. -/
inductive IsQuery : Node → Prop where
  | select {n : Node} (h : n.head = .select) : IsQuery n
  | setOperation {op : String} {isDistinct byName : Bool} {comments : List String} {l r : Node}
      {rest : List Node} (hl : IsQuery l) (hr : IsOperand r) :
      IsQuery (.mk (.setOperation op isDistinct byName) comments (l :: r :: rest))

theorem IsQuery.isBareQuery {n : Node} (h : IsQuery n) : n.head.isBareQuery = true := by
  cases h with
  | select h => rw [h]; rfl
  | setOperation => rfl

theorem IsOperand.isOffset {n : Node} (h : IsOperand n) : n.head.isOffset = false := by
  cases hn : n.head with
  | offset => simp [IsOperand, hn, Head.isQuery, takesWith] at h
  | _ => rfl

theorem IsQuery.keptByClauses : KeptByClauses IsQuery where
  parts n ps h := by
    cases h with
    | select h => cases n; exact .select h
    | setOperation hl hr => exact .setOperation hl hr
  offset o n h := by
    cases h with
    | select h => cases n; exact .select h
    | @setOperation _ _ _ _ l r rest hl hr =>
      have hoffset : l.head.isOffset = false := by
        cases hhead : l.head with
        | offset => simpa [hhead, Head.isBareQuery] using hl.isBareQuery
        | _ => rfl
      have hkept : (l :: r :: rest).filter (fun p => !p.head.isOffset) =
          l :: r :: rest.filter fun p => !p.head.isOffset := by
        simp [hoffset, hr.isOffset]
      change IsQuery (.mk _ _ ((l :: r :: rest).filter (fun p => !p.head.isOffset) ++ [o]))
      rw [hkept]
      exact .setOperation hl hr

theorem liftClauses_isQuery {n : Node} (h : IsQuery n) : IsQuery (liftClauses n) := by
  cases h with
  | select h => exact .select ((liftClauses_head n).trans h)
  | @setOperation _ _ _ _ l r rest hl hr =>
    unfold liftClauses
    split
    · next heq =>
      obtain ⟨rfl, rfl, rfl, rfl, rfl⟩ : _ ∧ _ ∧ _ := by simpa using heq
      dsimp only
      split
      · next hright =>
        refine .setOperation hl (.inl ?_)
        cases r
        exact hright
      · exact .setOperation hl hr
    · exact .setOperation hl hr

theorem withClause_head :
    (withClause R).Ensures c fun x _ => ∀ w, x = some w → w.head.isWith = true := by
  refine Ensures.bind fun found _ _ => ?_
  dsimp only
  split
  · exact Ensures.pure (by simp)
  refine Ensures.bind fun _ _ _ => Ensures.bind fun _ _ _ => Ensures.bind fun _ _ _ => ?_
  refine Ensures.bind fun items _ _ => ?_
  dsimp only
  split
  · exact Ensures.bind Ensures.reject
  · refine Ensures.bind (Ensures.nodeWith fun _ _ _ => Ensures.pure fun w hw => ?_)
    obtain rfl := Option.some.inj hw
    rfl

theorem values_head :
    (values R).Ensures c fun x _ => ∀ n, x = some n → ∃ label, n.head = .values label := by
  have hrows {d : Cursor} (label : Option TableAlias) (rows : List Node) :
      ((node (.values label) rows) >>= fun n => pure (some n) : Rule .clause (Option Node)).Ensures d
        fun x _ => ∀ n, x = some n → ∃ label, n.head = .values label := by
    refine Ensures.bind (Ensures.node fun _ _ _ => Ensures.pure fun n hn => ⟨label, ?_⟩)
    exact Option.some.inj hn ▸ rfl
  refine Ensures.bind fun _ _ _ => Ensures.bind fun _ _ _ => ?_
  dsimp only
  split
  all_goals
    refine Ensures.bind fun found _ _ => ?_
    cases found with
    | none => exact Ensures.pure (by simp)
    | some found =>
      obtain ⟨rows, inner⟩ := found
      cases inner with
      | none => exact Ensures.bind fun label _ _ => hrows label rows
      | some label => exact Ensures.bind (Ensures.pure (hrows (some label) rows))

/-- Where a query in parentheses may stand and no set operation may follow, an operand is read. -/
theorem query_operand {place : QueryPlace} (hplace : place.setOperations = false) :
    (query (rules g m) place).Ensures c fun x _ => ∀ n, x = some n → IsOperand n := by
  refine Ensures.bind (withClause_head.mono fun w d hw => ?_)
  cases w with
  | some w =>
    refine Ensures.bind fun found _ _ => Ensures.bind (Ensures.need fun n _ => ?_)
    split
    · next hn =>
      refine Ensures.pure fun n' hn' => .inr (.inr ?_)
      obtain rfl := Option.some.inj hn'
      refine ⟨hn, ?_⟩
      simp [Node.find?, Node.addPart, Node.parts, List.find?_append, hw w rfl]
    · exact Ensures.reject
  | none =>
    refine Ensures.bind fun source _ _ => ?_
    have hsome {n : Node} (hn : IsOperand n) {d : Cursor} :
        (pure (some n) : Rule .clause (Option Node)).Ensures d
          fun x _ => ∀ n, x = some n → IsOperand n :=
      Ensures.pure fun n' hn' => Option.some.inj hn' ▸ hn
    have hnone {d : Cursor} : (pure none : Rule .clause (Option Node)).Ensures d
        fun x _ => ∀ n, x = some n → IsOperand n := Ensures.pure (by simp)
    refine Ensures.bind fun found _ _ => ?_
    dsimp only
    rw [hplace]
    split
    · exact Ensures.bind ((selectBody_head source).mono fun n _ hn => hsome (.inl (hn ▸ rfl)))
    refine Ensures.bind fun _ _ _ => ?_
    dsimp only
    split
    · refine Ensures.bind fun inner _ _ => ?_
      cases inner with
      | none => exact hnone
      | some n =>
        refine Ensures.bind (Ensures.bind fun _ _ _ => Ensures.bind fun _ _ _ => ?_)
        exact Ensures.bind fun _ _ _ => Ensures.node fun _ _ _ => hsome (.inl rfl)
    cases source with
    | some source =>
      refine Ensures.bind ((clauses_head _).mono fun n _ hn => Ensures.bind (Ensures.pure ?_))
      exact hsome (.inl (hn ▸ rfl))
    | none =>
      refine Ensures.bind fun _ _ _ => ?_
      dsimp only
      split
      · refine Ensures.bind (values_head.mono fun x _ hx => ?_)
        cases x with
        | none => exact hnone
        | some n => exact hsome (.inr (.inl (hx n rfl)))
      · exact Ensures.bind (Ensures.pure hnone)

/-- What is read on the right of a set operation. No steps may follow there. -/
theorem rules_query_operand :
    ((rules g m).query { nested := true, setOperations := false, pipes := false }).Ensures c
      fun x _ => ∀ n, x = some n → IsOperand n := by
  cases m with
  | zero => exact Ensures.exhaust
  | succ m =>
    refine Ensures.bind ((query_operand rfl).mono fun x _ hx => ?_)
    cases x with
    | none => exact Ensures.pure (by simp)
    | some n => exact Ensures.pure hx

/-- A query with set operations after it is a query. -/
theorem setOperations_isQuery {this : Node} (h : IsQuery this) :
    ((rules g m).setOperations this).Ensures c fun n _ => IsQuery n := by
  cases m with
  | zero => exact Ensures.exhaust
  | succ m =>
  refine Ensures.bind ((Ensures.chain IsQuery (fun l d hl => ?_) h).mono fun whole _ hwhole => ?_)
  · refine Ensures.bind fun found _ _ => ?_
    cases found with
    | none => exact Ensures.pure (by simp)
    | some t =>
      refine Ensures.bind fun _ _ _ => Ensures.bind fun _ _ _ => ?_
      refine Ensures.bind (rules_query_operand.mono fun x _ hx => ?_)
      refine Ensures.bind (Ensures.need fun r hr => ?_)
      refine Ensures.bind (Ensures.nodeWith fun _ _ _ => Ensures.pure fun n hn => ?_)
      exact Option.some.inj hn ▸ .setOperation hl (hx r hr)
  · split
    · exact Ensures.pure (liftClauses_isQuery hwhole)
    · exact Ensures.pure hwhole

/-! ## Steps -/

theorem handOn_head (n : Node) : (handOn n).Ensures c fun n' _ => n'.head = .select :=
  Ensures.bind fun _ _ _ => Ensures.pure rfl

theorem replaceClause_head (same : Head → Bool) (clause n : Node) :
    (replaceClause same clause n).head = n.head := by
  cases n
  rfl

theorem addCondition_head (clause n : Node) : (addCondition clause n).head = n.head := by
  unfold addCondition
  split
  · exact replaceClause_head _ _ n
  · cases n
    rfl

theorem addLimit_head (clause n : Node) : (addLimit clause n).head = n.head := by
  unfold addLimit
  split
  · split
    · exact replaceClause_head _ _ n
    · rfl
  · exact replaceClause_head _ _ n

theorem addOffset_head (clause n : Node) : (addOffset clause n).head = n.head := by
  cases n
  unfold addOffset
  dsimp only
  split <;> rfl

theorem limitStep_head (n : Node) : (limitStep R n).Ensures c fun n' _ => n'.head = n.head := by
  refine Ensures.bind fun limited _ _ => Ensures.bind fun start _ _ => ?_
  cases limited with
  | none =>
    cases start with
    | none => exact Ensures.pure rfl
    | some clause => exact Ensures.pure (addOffset_head clause n)
  | some limited =>
    have hlimited := addLimit_head limited.1 n
    cases start with
    | none => exact Ensures.pure hlimited
    | some clause => exact Ensures.pure ((addOffset_head clause _).trans hlimited)

theorem aggregateStep_head (n : Node) :
    (aggregateStep R n).Ensures c fun n' _ => n'.head = .select := by
  refine Ensures.bind fun items _ _ => ?_
  dsimp only
  refine Ensures.bind fun byKeys _ _ => ?_
  dsimp only
  split
  all_goals
    refine Ensures.bind fun grouped _ _ => ?_
    dsimp only
    split
    · exact Ensures.bind fun _ _ _ => handOn_head _
    · exact handOn_head _

theorem setStep_head (op : String) (n : Node) :
    (setStep R op n).Ensures c fun n' _ => n'.head = .select := by
  refine Ensures.bind fun _ _ _ => Ensures.bind fun _ _ _ => Ensures.bind fun _ _ _ => ?_
  refine Ensures.bind fun _ _ _ => ?_
  dsimp only
  split
  · exact Ensures.bind Ensures.reject
  · exact Ensures.bind fun _ _ _ => handOn_head _

/-- A step leads from a SELECT to a SELECT. -/
theorem step_head (n : Node) : (step R n).Ensures c fun n' _ => n'.head = .select := by
  unfold step
  dsimp only
  split
  · exact Ensures.bind Ensures.reject
  next hn =>
  replace hn : n.head = .select := by simpa using hn
  refine Ensures.bind fun _ _ _ => ?_
  dsimp only
  split
  · refine Ensures.bind fun _ _ _ => Ensures.bind fun _ _ _ => Ensures.pure ?_
    exact (addCondition_head _ n).trans hn
  · refine Ensures.bind fun _ _ _ => Ensures.bind fun _ _ _ => Ensures.pure ?_
    exact (replaceClause_head _ _ n).trans hn
  · exact (limitStep_head n).mono fun _ _ h => h.trans hn
  · exact Ensures.bind fun _ _ _ => Ensures.bind fun _ _ _ => handOn_head _
  · exact Ensures.bind fun _ _ _ => Ensures.bind fun _ _ _ => handOn_head _
  · exact Ensures.bind fun _ _ _ => aggregateStep_head n
  · refine Ensures.bind fun label _ _ => ?_
    cases label with
    | none => exact Ensures.reject
    | some label => exact Ensures.pure rfl
  · refine Ensures.bind fun op _ _ => ?_
    cases op with
    | some t => exact setStep_head t.key n
    | none =>
      refine Ensures.bind fun _ _ _ => Ensures.bind fun join _ _ => ?_
      cases join with
      | none => exact Ensures.reject
      | some j =>
        cases n
        exact Ensures.pure hn

/-! ## Statements -/

/-- Where SELECT stands, a query is read. -/
theorem steppedQuery_select (h : AtSelect c) :
    ((rules g m).query {}).Ensures c fun x _ => ∃ n, x = some n ∧ IsQuery n := by
  obtain ⟨t, ts, hr, -, hk⟩ := h
  have hkey : c.key = "SELECT" := (Ensures.key_of_rest hr).trans hk
  cases m with
  | zero => exact Ensures.exhaust
  | succ m =>
  refine Ensures.bind (FindsNothing.bind (withClause_of_ne (by simp [hkey])) fun d hd => ?_)
  refine FindsNothing.bind (fromClause_of_ne (by simp [hd.key, hkey]) true) fun e he => ?_
  refine Ensures.bind (Ensures.accept_of_eq ((hd.trans he).rest.trans hr) hk ?_)
  refine Ensures.bind ((selectBody_head none).mono fun n _ hn => ?_)
  refine Ensures.bind ((setOperations_isQuery (.select hn)).mono fun n' _ hn' => ?_)
  refine Ensures.pure ?_
  dsimp only
  split
  · refine Ensures.bind ((Ensures.chain IsQuery (fun n d _ => ?_) hn').mono
      fun n'' _ hn'' => Ensures.pure ⟨n'', rfl, hn''⟩)
    refine Ensures.bind fun found _ _ => ?_
    cases found with
    | false => exact Ensures.pure (by simp)
    | true =>
      refine Ensures.bind ((step_head n).mono fun n' _ hn' => Ensures.pure fun n'' hn'' => ?_)
      exact .select (Option.some.inj hn'' ▸ hn')
  · exact Ensures.pure ⟨n', rfl, hn'⟩

/-- A statement that begins with SELECT is a query. -/
theorem statement_select (hg : PlainSelect g) (h : AtSelect c) :
    ((rules g m).statement).Ensures c fun x _ => ∃ n, x = some n ∧ IsQuery n := by
  refine statement_of_select hg h fun m d hd => ?_
  refine (steppedQuery_select (h.of_same hd)).mono ?_
  rintro _ e ⟨n, rfl, hn⟩
  refine ⟨n, rfl, (clauses_keeps IsQuery.keptByClauses hn).mono fun n' _ hn' => ⟨n', rfl, hn'⟩⟩

/-- The node is a value, or set operations that begin with one. -/
inductive BeginsWithValue : Node → Prop where
  | value {n : Node} (h : IsValue n) : BeginsWithValue n
  | setOperation {op : String} {isDistinct byName : Bool} {comments : List String} {l : Node}
      {rest : List Node} (hl : BeginsWithValue l) :
      BeginsWithValue (.mk (.setOperation op isDistinct byName) comments (l :: rest))

namespace BeginsWithValue

theorem not_isQuery {n : Node} (h : BeginsWithValue n) : ¬ IsQuery n := by
  induction h with
  | value h => exact fun hq => absurd (hq.isBareQuery.symm.trans h.1) (by decide)
  | setOperation _ ih =>
    intro hq
    cases hq with
    | select h => cases h
    | setOperation hl _ => exact ih hl

theorem isOffset {n : Node} (h : BeginsWithValue n) : n.head.isOffset = false := by
  cases h with
  | value h => exact h.2
  | setOperation => rfl

theorem keptByClauses : KeptByClauses BeginsWithValue where
  parts n ps h := by
    cases h with
    | value h => cases n; exact .value h
    | setOperation hl => exact .setOperation hl
  offset o n h := by
    cases h with
    | value h => cases n; exact .value h
    | @setOperation _ _ _ _ l rest hl =>
      have hkept : (l :: rest).filter (fun p => !p.head.isOffset) =
          l :: rest.filter fun p => !p.head.isOffset := by
        simp [hl.isOffset]
      change BeginsWithValue (.mk _ _ ((l :: rest).filter (fun p => !p.head.isOffset) ++ [o]))
      rw [hkept]
      exact .setOperation hl

theorem liftClauses {n : Node} (h : BeginsWithValue n) : BeginsWithValue (liftClauses n) := by
  cases h with
  | value h => exact .value (h.of_head (liftClauses_head n))
  | @setOperation _ _ _ _ l rest hl =>
    unfold Parser.liftClauses
    split
    · next heq =>
      obtain ⟨rfl, rfl, rfl, rfl⟩ : _ ∧ _ ∧ _ := by simpa using heq
      dsimp only
      split
      · exact .setOperation hl
      · exact .setOperation hl
    · exact .setOperation hl

end BeginsWithValue

/-- Set operations after a value begin with it. -/
theorem setOperations_value {this : Node} (h : IsValue this) :
    ((rules g m).setOperations this).Ensures c fun n _ => BeginsWithValue n := by
  cases m with
  | zero => exact Ensures.exhaust
  | succ m =>
  refine Ensures.bind ((Ensures.chain BeginsWithValue (fun l d hl => ?_) (.value h)).mono
    fun whole _ hwhole => ?_)
  · refine Ensures.bind fun found _ _ => ?_
    cases found with
    | none => exact Ensures.pure (by simp)
    | some t =>
      refine Ensures.bind fun _ _ _ => Ensures.bind fun _ _ _ => Ensures.bind fun _ _ _ => ?_
      refine Ensures.bind fun _ _ _ => Ensures.bind (Ensures.nodeWith fun _ _ _ => ?_)
      exact Ensures.pure fun n hn => Option.some.inj hn ▸ .setOperation hl
  · split
    · exact Ensures.pure hwhole.liftClauses
    · exact Ensures.pure hwhole

/-- A statement that begins with a plain word is no query. -/
theorem statement_plainWord (h : AtPlainWord g c) :
    ((rules g m).statement).Ensures c fun x _ => ∃ n, x = some n ∧ ¬ IsQuery n := by
  obtain ⟨t, ts, hr, ht⟩ := id h
  cases m with
  | zero => exact Ensures.exhaust
  | succ m =>
  refine Ensures.bind (Ensures.peek ?_)
  rw [hr]
  refine Ensures.bind (Ensures.bind (Ensures.peekSecondKey (Ensures.pure ?_)))
  have hbody : ∀ b : Bool, (if b then statementBody? (rules g m) t.key else none) = none := by
    intro b
    rw [ht.noStatement, ite_self]
  rw [hbody]
  have hexpression : FindsValue (rules g m).expression c := by
    cases m with
    | zero => exact Ensures.exhaust
    | succ m =>
      refine expression_plainWord ?_
      cases m <;> exact h
  refine Ensures.bind (hexpression.mono ?_)
  rintro _ d ⟨n, rfl, hn⟩
  refine Ensures.bind ((setOperations_value hn).mono fun n' _ hn' => Ensures.bind (Ensures.pure ?_))
  refine Ensures.bind ((clauses_keeps BeginsWithValue.keptByClauses hn').mono fun n'' _ hn'' => ?_)
  exact Ensures.pure ⟨n'', rfl, hn''.not_isQuery⟩

/-- The first statement of a text has the first token, and if the text is one statement, then the
first one is it or is none. -/
theorem parseOne_first {t : Token} {ts : List Token} {text : String} {n : Node}
    (ht : t.key ≠ ";") (htokens : Lexer.tokenize g text = some (t :: ts))
    (hn : parseOne g text = .ok n) :
    ∃ us x, parseTokens g (t :: us) = .ok x ∧ ∀ n', x = some n' → n' = n := by
  have hsplit : split (t :: ts) = (t :: (ts.foldr splitStep ([], [])).1) ::
      (ts.foldr splitStep ([], [])).2.filter fun statement => !statement.isEmpty := by
    rw [split_eq, List.foldr_cons, splitStep, if_neg (by simpa using ht)]
    rfl
  have hparse : parse g text = some [n] := by
    unfold parseOne at hn
    split at hn
    · cases hn
    · cases hn
    · next heq => rw [heq, Except.ok.inj hn]
    · cases hn
  unfold parse at hparse
  rw [htokens, Option.bind_eq_bind, Option.bind_some, hsplit] at hparse
  obtain ⟨found, hfound, hfilter⟩ := Option.bind_eq_some_iff.1 hparse
  have hmap := Outcome.mapM_eq_ok_iff.1 (Outcome.eq_ok_of_toOption hfound)
  cases hmap with
  | @cons _ x _ xs hx _ =>
    refine ⟨_, x, hx, ?_⟩
    rintro n' rfl
    have hone : n' :: xs.filterMap id = [n] := by simpa using Option.some.inj hfilter
    exact (List.cons.inj hone).1

section FirstWord

variable {t : Token} {ts : List Token} {text : String} {n : Node}

/-- A text that begins with SELECT is read as a query. -/
theorem parseOne_select (hg : PlainSelect g) (hw : t.kind = .word) (hk : t.key = "SELECT")
    (htokens : Lexer.tokenize g text = some (t :: ts)) (hn : parseOne g text = .ok n) :
    IsQuery n := by
  have hsemicolon : t.key ≠ ";" := by simp [hk]
  obtain ⟨us, x, hx, hfirst⟩ := parseOne_first hsemicolon htokens hn
  obtain ⟨n', rfl, hn'⟩ := parseTokens_ensures hsemicolon
    (fun m => (statement_select hg ⟨t, us, rfl, hw, hk⟩).mono fun _ _ h _ => h) hx
  exact hfirst n' rfl ▸ hn'

/-- A text that begins with a plain word is not read as a query. -/
theorem parseOne_plainWord (ht : PlainWord g t) (hsemicolon : t.key ≠ ";")
    (htokens : Lexer.tokenize g text = some (t :: ts)) (hn : parseOne g text = .ok n) :
    ¬ IsQuery n := by
  obtain ⟨us, x, hx, hfirst⟩ := parseOne_first hsemicolon htokens hn
  obtain ⟨n', rfl, hn'⟩ := parseTokens_ensures hsemicolon
    (fun m => (statement_plainWord ⟨t, us, rfl, ht⟩).mono fun _ _ h _ => h) hx
  exact hfirst n' rfl ▸ hn'

end FirstWord

/-! ## Words that begin with the letters of SELECT -/

/-- Whether a text begins with the letters of SELECT. -/
def beginsLikeSelect (s : String) : Bool := "SELECT".toList.isPrefixOf s.toList

/-- A word that begins with the letters of SELECT and names no function of the grammar. -/
def isLikeSelect (g : Grammar) (t : Token) : Bool :=
  t.isWord && t.key == Text.upper t.text && beginsLikeSelect t.key && !isKnownFunction g t.key

theorem reserved_select : ∀ k ∈ Vocabulary.reserved, beginsLikeSelect k = true → k = "SELECT" := by
  decide +kernel

theorem reserved_of_grammar :
    ∀ g ∈ View.grammars, ∀ k ∈ g.reserved, beginsLikeSelect k = false := by
  decide +kernel

theorem types_select : ∀ p ∈ Vocabulary.types, beginsLikeSelect p.1 = false := by
  decide +kernel

theorem typeNames_of_grammar :
    ∀ g ∈ View.grammars, ∀ p ∈ g.typeNames, beginsLikeSelect p.1 = false := by
  decide +kernel

section LikeSelect

variable {k : String}

theorem keywordOperand_likeSelect (h : beginsLikeSelect k = true) (R : Rules) (hierarchy : Bool) :
    keywordOperand R hierarchy k = none := by
  unfold keywordOperand
  split
  all_goals first | rfl | exact absurd h (by decide)

theorem statementBody?_likeSelect (h : beginsLikeSelect k = true) (R : Rules) :
    statementBody? R k = none := by
  unfold statementBody?
  split
  all_goals first | rfl | exact absurd h (by decide)

theorem ownBody?_likeSelect (h : beginsLikeSelect k = true) (R : Rules) : ownBody? R k = none := by
  unfold ownBody?
  split
  all_goals first | rfl | exact absurd h (by decide)

end LikeSelect

/-- In the dialects known at the start, SELECT is the only keyword with its letters. -/
theorem plainWord_of_likeSelect {t : Token} (hg : g ∈ View.grammars) (h : isLikeSelect g t = true)
    (hne : t.key ≠ "SELECT") : PlainWord g t := by
  simp only [isLikeSelect, Bool.and_eq_true, Bool.not_eq_true', beq_iff_eq, Token.isWord] at h
  obtain ⟨⟨⟨hword, htext⟩, hbegins⟩, hunknown⟩ := h
  have hnot {k : String} (hk : beginsLikeSelect k = false) : t.key ≠ k := by
    rintro rfl
    exact absurd (hbegins.symm.trans hk) (by decide)
  refine ⟨hword, ?_, ?_, ?_, keywordOperand_likeSelect hbegins, statementBody?_likeSelect hbegins,
    htext ▸ ownBody?_likeSelect hbegins, htext ▸ hunknown⟩
  · have hreserved : t.key ∉ Vocabulary.reserved := fun hmem => hne (reserved_select _ hmem hbegins)
    have hown : t.key ∉ g.reserved := fun hmem =>
      hnot (reserved_of_grammar g hg _ hmem) rfl
    simp [Grammar.isName, hreserved, hown]
  · intro hmem
    have hkeys : ∀ k ∈ operandKeys, beginsLikeSelect k = false := by decide
    exact hnot (hkeys _ hmem) rfl
  · have hlookup {l : List (String × String)} (hl : ∀ p ∈ l, beginsLikeSelect p.1 = false) :
        l.lookup t.key = none := by
      rw [List.lookup_eq_none_iff]
      intro p hp
      simpa using hnot (hl p hp)
    rw [Grammar.typeName?, hlookup (typeNames_of_grammar g hg), hlookup types_select]
    rfl

end Sql.Parser

/-! ## The first token of a text -/

namespace Sql.Lexer

variable {g : Grammar} {t : Token} {c d : Cut} {p : Piece} {rest : List Char} {n : Nat}

/-- The token `t` is the first one of a cut, comments aside, and stays it. -/
structure Cut.Leads (t : Token) (c : Cut) : Prop where
  first : c.tokens.getLast?.map Token.bare = some t
  plain : ∀ n start, c.plain = some (n, start) → 0 < n

namespace Cut.Leads

theorem ne_nil (h : c.Leads t) : c.tokens ≠ [] := by
  intro hnil
  simpa [hnil] using h.first

theorem push (h : c.Leads t) {kind : TokenKind} {s key : String} :
    (c.push kind s key rest).Leads t := by
  refine ⟨?_, h.plain⟩
  obtain ⟨u, us, hus⟩ := List.exists_cons_of_ne_nil h.ne_nil
  rw [← h.first, Cut.push, hus, List.getLast?_cons_cons]

theorem comment (h : c.Leads t) {s : String} : (c.comment s rest).Leads t := by
  unfold Cut.comment
  split
  · next u us _ hus =>
    refine ⟨?_, h.plain⟩
    rw [← h.first, hus]
    cases us with
    | nil => rfl
    | cons v vs => rw [List.getLast?_cons_cons, List.getLast?_cons_cons]
  · exact ⟨h.first, h.plain⟩

theorem word (h : c.Leads t) {s : String} : (c.word g s rest).Leads t := by
  dsimp only [Cut.word]
  split
  · have hpush : (c.push .word s (g.keyword (Text.upper s)) rest).Leads t := h.push
    refine ⟨hpush.first, fun n start hplain => ?_⟩
    obtain ⟨rfl, -⟩ := Prod.mk.inj (Option.some.inj hplain)
    exact Nat.succ_pos _
  · exact h.push

/-- The first token stands before a statement that is kept as plain text. -/
theorem endPlain (h : c.Leads t) : c.endPlain.Leads t := by
  unfold Cut.endPlain
  split
  · exact h
  next n start hplain =>
  have hkept : ({ c with plain := none, tokens := c.tokens.drop (c.tokens.length - n) } : Cut).Leads
      t := by
    refine ⟨?_, by simp⟩
    have hpos := h.plain n start hplain
    have hlength := List.length_pos_of_ne_nil h.ne_nil
    rw [← h.first, List.getLast?_drop, if_neg (by omega)]
  dsimp only
  split
  · exact hkept
  · exact hkept.push

theorem add (h : c.Leads t) : (c.add g p rest).Leads t := by
  cases p with
  | blank breaks => exact ⟨h.first, h.plain⟩
  | comment s => exact h.comment
  | hint s =>
    dsimp only [Cut.add]
    split
    · exact h.push
    · exact h.comment
  | word s => exact h.word
  | token kind s key =>
    dsimp only [Cut.add]
    split
    · exact h.endPlain.push
    · exact h.push

theorem run (h : c.Leads t) (hrun : Cut.run g n c = some d) : d.Leads t := by
  induction n generalizing c with
  | zero => exact Option.some.inj hrun ▸ h
  | succ n ih =>
    rw [Cut.run] at hrun
    split at hrun
    · exact Option.some.inj hrun ▸ h
    obtain ⟨e, he, hrun⟩ := Option.bind_eq_some_iff.1 hrun
    refine ih ?_ hrun
    unfold Cut.step at he
    split at he
    · exact Option.some.inj he ▸ h
    · obtain ⟨piece, -, rfl⟩ := Option.map_eq_some_iff.1 he
      exact h.add

theorem finish (h : c.Leads t) : ∃ u us, c.finish = u :: us ∧ u.bare = t := by
  obtain ⟨v, vs, hvs⟩ := List.exists_cons_of_ne_nil h.endPlain.ne_nil
  have hfirst : (v.addComments c.endPlain.comments :: vs).reverse.head?.map Token.bare = some t := by
    rw [List.head?_reverse, ← h.endPlain.first, hvs]
    cases vs with
    | nil => rfl
    | cons w ws => rw [List.getLast?_cons_cons, List.getLast?_cons_cons]
  rw [Cut.finish, hvs]
  obtain ⟨u, hu, hbare⟩ := Option.map_eq_some_iff.1 hfirst
  obtain ⟨us, hus⟩ := List.head?_eq_some_iff.1 hu
  exact ⟨u, us, hus, hbare⟩

end Cut.Leads

/-- A text that is cut begins with the token that its beginning is. -/
theorem tokenize_first {s : String} {ts : List Token} (h : Reads g [] s.toList [t] rest)
    (hs : tokenize g s = some ts) : ∃ u us, ts = u :: us ∧ u.bare = t := by
  obtain ⟨n, d, hn, hd, hlength⟩ := h { rest := s.toList } ⟨rfl, rfl, rfl⟩
  obtain ⟨k, hk⟩ := Nat.le.dest (Nat.le_of_add_right_le hlength)
  obtain ⟨e, he, rfl⟩ := Option.map_eq_some_iff.1 hs
  rw [← hk, Cut.run_add, hn, Option.bind_some] at he
  have hleads : d.Leads t := by
    refine ⟨?_, by simp [hd.plain]⟩
    have hone := hd.tokens
    rw [List.map_reverse, List.reverse_eq_iff] at hone
    rw [← List.getLast?_map, hone]
    rfl
  exact (hleads.run he).finish

def firstToken? (g : Grammar) (text : String) : Option Token := (tokenize g text).bind List.head?

theorem firstToken?_eq_some {text : String} (h : firstToken? g text = some t) :
    ∃ ts, tokenize g text = some (t :: ts) := by
  obtain ⟨ts, hts, ht⟩ := Option.bind_eq_some_iff.1 h
  obtain ⟨us, rfl⟩ := List.head?_eq_some_iff.1 ht
  exact ⟨us, hts⟩

end Sql.Lexer

open Query (tableNames Extended)
open Sql.Lexer (firstToken?)
open Sql.Parser (IsQuery isLikeSelect)

namespace View

variable {d : Dialect} {o : Sql.Overrides} {m : SemanticModel} {sql : String} {body : Node}

/-- The text of a view begins with SELECT, whatever its columns are. -/
theorem reads_selectText (h : Readable d) (columns : List (String × String)) (inner : String) :
    ∃ rest, Sql.Lexer.Reads d.grammar [] (selectText d columns inner).toList [word "SELECT"] rest := by
  have hselect : "SELECT ".toList = "SELECT".toList ++ [' '] := by decide
  rw [selectText, String.append_assoc, String.append_assoc, String.append_assoc,
    String.append_assoc, String.toList_append, hselect, List.append_assoc]
  exact ⟨_, h.select.reads h.beforeAs.ends⟩

/-- The view of a model with elements is read as a query. -/
theorem isQuery_of_hasElements (h : Readable d) (hm : m.hasElements = true)
    (htext : View.text d o m = .ok sql) (hparse : Sql.parseOne d.grammar sql = .ok body) :
    IsQuery body := by
  obtain ⟨inner, -, htext⟩ := Outcome.bind_eq_ok_iff.1 htext
  rw [if_pos hm] at htext
  obtain ⟨columns, -, htext⟩ := Outcome.bind_eq_ok_iff.1 htext
  obtain rfl := Except.ok.inj htext
  obtain ⟨rest, hreads⟩ := reads_selectText h columns inner
  obtain ⟨ts, hts⟩ : ∃ ts, Sql.Lexer.tokenize d.grammar (selectText d columns inner) = some ts := by
    cases htokens : Sql.Lexer.tokenize d.grammar (selectText d columns inner) with
    | some ts => exact ⟨ts, rfl⟩
    | none => simp [Sql.parseOne, Sql.parse, htokens] at hparse
  obtain ⟨u, us, rfl, hu⟩ := Sql.Lexer.tokenize_first hreads hts
  have hkind : u.kind = .word := congrArg Token.kind hu
  have hkey : u.key = "SELECT" := congrArg Token.key hu
  exact Sql.Parser.parseOne_select h.plainSelect hkind hkey hts hparse

end View

namespace Compiler

/-- The WITH item `item` stands for the model `m` and holds a query: if the model has elements, and
otherwise exactly if the first word of the text that stands for the model is SELECT, where this word
begins with the letters of SELECT. -/
def HoldsQuery (c : Compiler) (m : SemanticModel) (item : Node) : Prop :=
  ∃ sql body, View.text c.dialect c.overrides m = .ok sql ∧
    Sql.parseOne c.dialect.grammar sql = .ok body ∧ item = Query.item m.name body ∧
    (m.hasElements = true → IsQuery body) ∧
    ∀ t, firstToken? c.dialect.grammar sql = some t → isLikeSelect c.dialect.grammar t = true →
      (IsQuery body ↔ t.key = "SELECT")

theorem holdsQuery_of_isItemOf {c : Compiler} {m : SemanticModel} {item : Node}
    (hdialect : c.dialect ∈ Backends.standard.dialects.map Prod.snd)
    (hview : c.view = View.text c.dialect c.overrides) (h : c.IsItemOf m item) :
    c.HoldsQuery m item := by
  obtain ⟨sql, body, hsql, hbody, rfl⟩ := h
  rw [hview] at hsql
  have hreadable := View.readable_of_mem hdialect
  refine ⟨sql, body, hsql, hbody, rfl,
    fun hm => View.isQuery_of_hasElements hreadable hm hsql hbody, fun t ht hlike => ?_⟩
  obtain ⟨ts, hts⟩ := Sql.Lexer.firstToken?_eq_some ht
  constructor
  · intro hquery
    by_contra hne
    have hword := Sql.Parser.plainWord_of_likeSelect (View.grammar_mem hdialect) hlike hne
    refine Sql.Parser.parseOne_plainWord hword ?_ hts hbody hquery
    intro hkey
    rw [isLikeSelect, hkey] at hlike
    simp [Sql.Parser.beginsLikeSelect] at hlike
  · intro hkey
    have hword : t.kind = .word := by
      simp only [isLikeSelect, Bool.and_eq_true, Token.isWord, beq_iff_eq] at hlike
      exact hlike.1.1.1
    exact Sql.Parser.parseOne_select hreadable.plainSelect hword hkey hts hbody

/-- A model with an element. -/
def keyed : SemanticModel where
  name := "a"
  select := "SELECT 1"
  entities := [{ name := "id", kind := .primary }]

/-- A model whose statement only begins with the letters of SELECT. -/
def selected : SemanticModel := { name := "b", select := "selected" }

/-- The compiler of the two models. -/
def keyedAndSelected : Compiler where
  registry := ⟨[keyed, selected], by decide⟩
  dialect := .duckdb

end Compiler

end SemanticLayer
