import SemanticLayer.Proofs.Inert

/-!
# Expressions that begin with a plain word

A *value* is a node that is no query of its own. Operators, predicates and aliases make values,
whatever their operands are, so what an expression is depends on its first operand alone. A *plain
word* is a name and nothing else in a grammar: where one stands, the first operand is a column or a
call of an unknown function, and the expression is a value (`expression_plainWord`).
-/

namespace SemanticLayer.Sql.Parser

open Rule (Ensures FindsNothing)

variable {s : Scope} {c d : Cursor} {R : Rules} {g : Grammar} {m : Nat} {n : Node}

/-- The node is no query without parentheses, and no offset that another may replace. -/
def IsValue (n : Node) : Prop := n.head.isBareQuery = false ∧ n.head.isOffset = false

/-- The rule finds a value at the cursor. -/
abbrev FindsValue (r : Rule s (Option Node)) (c : Cursor) : Prop :=
  r.Ensures c fun x _ => ∃ n, x = some n ∧ IsValue n

/-- The rule gives a value at the cursor. -/
abbrev GivesValue (r : Rule s Node) (c : Cursor) : Prop := r.Ensures c fun n _ => IsValue n

theorem IsValue.of_head {n' : Node} (h : IsValue n) (hn : n'.head = n.head) : IsValue n' := by
  unfold IsValue
  rwa [hn]

theorem IsValue.setComments (h : IsValue n) (comments : List String) :
    IsValue (n.setComments comments) := by
  cases n
  exact h

theorem IsValue.addComments (h : IsValue n) (comments : List String) :
    IsValue (n.addComments comments) := by
  cases n
  exact h

theorem FindsValue.of_gives {r : Rule s Node} (h : GivesValue r c) :
    FindsValue (r >>= fun n => pure (some n)) c :=
  Ensures.bind (h.mono fun n _ hn => Ensures.pure ⟨n, rfl, hn⟩)

/-- The rule finds a value or nothing. -/
abbrev FindsNoQuery (r : Rule s (Option Node)) (c : Cursor) : Prop :=
  r.Ensures c fun x _ => ∀ n, x = some n → IsValue n

theorem GivesValue.findsNoQuery {r : Rule s Node} (h : GivesValue r c) :
    FindsNoQuery (r >>= fun n => pure (some n)) c :=
  Ensures.bind (h.mono fun _ _ hn => Ensures.pure fun _ hx => Option.some.inj hx ▸ hn)

theorem findsNoQuery_none : FindsNoQuery (pure none : Rule s (Option Node)) c :=
  Ensures.pure (by simp)

theorem findsValue_pure (h : IsValue n) : FindsValue (pure (some n) : Rule s (Option Node)) c :=
  Ensures.pure ⟨n, rfl, h⟩

theorem givesValue_node {head : Head} {parts : List Node} (h : IsValue (.of head [])) :
    GivesValue (node head parts : Rule s Node) c :=
  Ensures.node fun _ _ _ => h

theorem givesValue_nodeWith {comments : List String} {head : Head} {parts : List Node}
    (h : IsValue (.of head [])) : GivesValue (nodeWith comments head parts : Rule s Node) c :=
  Ensures.nodeWith fun _ _ _ => h

/-- A value stays one through a chain of operators that make values. -/
theorem chain_value {step : Option Node → Rule s (Option (Option Node))} {x : Option Node}
    (hx : ∃ n, x = some n ∧ IsValue n)
    (h : ∀ x c, (step x).Ensures c fun y _ => ∀ z, y = some z → ∃ n, z = some n ∧ IsValue n) :
    FindsValue (chain step x) c :=
  Ensures.chain (fun x : Option Node => ∃ n, x = some n ∧ IsValue n) (fun x c _ => h x c) hx

/-- An operator makes a value of its operands. -/
theorem operator_value {r : Rule s Node} (h : GivesValue r c) :
    (r >>= fun n => pure (some (some n))).Ensures c
      fun y _ => ∀ z, y = some z → ∃ n, z = some n ∧ IsValue n :=
  Ensures.bind (h.mono fun n _ hn => Ensures.pure fun _ hz => ⟨n, (Option.some.inj hz).symm, hn⟩)

theorem no_operator : (pure none : Rule s (Option (Option Node))).Ensures c
    fun y _ => ∀ z, y = some z → ∃ n, z = some n ∧ IsValue n := Ensures.pure (by simp)

/-! ## Levels of operators -/

theorem level_value {operand : Rule .operand (Option Node)} {operators : List (String × BinaryOp)}
    (h : FindsValue operand c) : FindsValue (level operand operators) c := by
  refine Ensures.bind (h.mono fun x d hx => chain_value hx fun x e => ?_)
  refine Ensures.bind fun key _ _ => ?_
  dsimp only
  split
  · exact no_operator
  · refine Ensures.bind fun _ _ _ => Ensures.bind fun _ _ _ => Ensures.bind fun _ _ _ => ?_
    refine Ensures.bind fun _ _ _ => Ensures.bind fun _ _ _ => operator_value ?_
    exact givesValue_nodeWith ⟨rfl, rfl⟩

theorem zoned_value {x : Option Node} (hx : ∃ n, x = some n ∧ IsValue n) :
    FindsValue (zoned R x) c := by
  refine chain_value hx fun x d => Ensures.bind fun found _ _ => ?_
  cases found with
  | false => exact no_operator
  | true =>
    refine Ensures.bind fun _ _ _ => Ensures.bind fun _ _ _ => Ensures.bind fun _ _ _ => ?_
    exact operator_value (givesValue_node ⟨rfl, rfl⟩)

theorem power_value (h : FindsValue (unary R) c) : FindsValue (power R) c := by
  refine Ensures.bind (h.mono fun x d hx => ?_)
  dsimp only
  split
  · exact Ensures.pure hx
  · refine chain_value hx fun x e => Ensures.bind fun found _ _ => ?_
    cases found with
    | none => exact no_operator
    | some t =>
      refine Ensures.bind fun _ _ _ => Ensures.bind fun _ _ _ => Ensures.bind fun _ _ _ => ?_
      exact operator_value (givesValue_node ⟨rfl, rfl⟩)

theorem factor_value (h : FindsValue (power R) c) : FindsValue (factor R) c := by
  refine Ensures.bind (h.mono fun x d hx => chain_value hx fun x e => ?_)
  refine Ensures.bind fun key _ _ => ?_
  dsimp only
  split
  · exact no_operator
  · refine Ensures.orBack ?_ fun _ _ => by simp
    refine Ensures.bind fun _ _ _ => Ensures.bind fun _ _ _ => Ensures.bind fun _ _ _ => ?_
    refine Ensures.bind fun right _ _ => ?_
    cases right with
    | none =>
      dsimp only
      split
      · exact Ensures.pure (by simp)
      · exact Ensures.reject
    | some right =>
      refine Ensures.bind fun _ _ _ => ?_
      refine (operator_value (givesValue_nodeWith ⟨rfl, rfl⟩)).mono fun _ _ h _ => h

theorem settleCollation_head (n : Node) : (settleCollation n).head = n.head := by
  unfold settleCollation
  split <;> rfl

theorem term_value (h : FindsValue (factor R) c) : FindsValue (term R) c := by
  refine Ensures.bind (h.mono fun x d hx => chain_value hx fun x e => ?_)
  refine Ensures.bind fun key _ _ => ?_
  dsimp only
  split
  · exact no_operator
  · refine Ensures.bind fun _ _ _ => Ensures.bind fun _ _ _ => Ensures.bind fun _ _ _ => ?_
    refine Ensures.bind fun _ _ _ => Ensures.bind fun _ _ _ => ?_
    refine Ensures.bind (Ensures.nodeWith fun _ _ _ => Ensures.pure fun z hz => ?_)
    exact ⟨_, (Option.some.inj hz).symm, IsValue.of_head ⟨rfl, rfl⟩ (settleCollation_head _)⟩

theorem bitwise_value (h : FindsValue (term R) c) : FindsValue (bitwise R) c := by
  refine Ensures.bind (h.mono fun x d hx => chain_value hx fun x e => ?_)
  have hoperator (head : Head) (hhead : IsValue (.of head [])) {f : Cursor} :
      (term R >>= fun right => need x >>= fun left => need right >>= fun right =>
        node head [left, right] >>= fun n => pure (some (some n))).Ensures f
      fun y _ => ∀ z, y = some z → ∃ n, z = some n ∧ IsValue n := by
    refine Ensures.bind fun _ _ _ => Ensures.bind fun _ _ _ => Ensures.bind fun _ _ _ => ?_
    exact operator_value (givesValue_node hhead)
  refine Ensures.bind fun key _ _ => ?_
  dsimp only
  split
  · exact Ensures.bind fun _ _ _ => Ensures.bind (Ensures.pure (hoperator _ ⟨rfl, rfl⟩))
  refine Ensures.bind fun shiftsLeft _ _ => ?_
  cases shiftsLeft with
  | true => exact Ensures.bind (Ensures.pure (hoperator _ ⟨rfl, rfl⟩))
  | false =>
  refine Ensures.bind fun shiftsRight _ _ => ?_
  cases shiftsRight with
  | true => exact Ensures.bind (Ensures.pure (hoperator _ ⟨rfl, rfl⟩))
  | false =>
  refine Ensures.bind (Ensures.pure (Ensures.bind fun coalesces _ _ => ?_))
  cases coalesces with
  | false => exact no_operator
  | true => exact hoperator _ ⟨rfl, rfl⟩

/-! ## Predicates -/

/-- What stands in brackets is what the rule for it makes. -/
theorem within_gives {α : Type} {b : Bracket} {r : Rule .clause α} {post : α → Prop}
    (h : ∀ d, r.Ensures d fun a _ => post a) : (within b r : Rule s α).Ensures c fun a _ => post a := by
  intro a f hf
  simp only [within] at hf
  split at hf
  · cases hf
  obtain ⟨a', e, he, hf⟩ := Rule.andThen_eq_ok hf
  split at hf
  · cases hf
  · obtain ⟨rfl, rfl⟩ := Prod.mk.inj (Except.ok.inj hf)
    exact h _ _ _ he

theorem takePending_value (h : IsValue n) : GivesValue (takePending n : Rule s Node) c :=
  Ensures.takePending fun comments _ _ => h.setComments comments

theorem closed_value {r : Rule .clause Node} (h : ∀ d, GivesValue r d) :
    GivesValue (closed r : Rule s Node) c :=
  Ensures.bind ((within_gives h).mono fun _ _ hn => takePending_value hn)

theorem qualify_value (this field : Node) : GivesValue (qualify this field) c := by
  unfold qualify
  dsimp only
  split
  · split
    · exact Ensures.pure ⟨rfl, rfl⟩
    · exact Ensures.pure ⟨rfl, rfl⟩
  · exact Ensures.pure ⟨rfl, rfl⟩
  · next hwindow =>
    split
    · exact Ensures.pure (IsValue.of_head (n := .of (.window _) []) ⟨rfl, rfl⟩ hwindow)
    · exact Ensures.reject
  · exact Ensures.bind (Ensures.node fun _ _ _ => Ensures.pure ⟨rfl, rfl⟩)

theorem arrowed_value (scalar : Bool) (this path : Node) :
    GivesValue (arrowed g scalar this path) c := by
  unfold arrowed
  split
  · exact givesValue_node ⟨rfl, rfl⟩
  · dsimp only
    split
    · exact givesValue_node ⟨rfl, rfl⟩
    · exact givesValue_node ⟨rfl, rfl⟩

theorem bracket_value (this : Option Node) : FindsNoQuery (bracket R this) c := by
  refine Ensures.bind fun _ _ _ => ?_
  dsimp only
  split
  · refine Ensures.bind fun items _ _ => ?_
    cases this with
    | none => exact (givesValue_node ⟨rfl, rfl⟩).findsNoQuery
    | some n =>
      dsimp only
      split
      · exact (givesValue_node ⟨rfl, rfl⟩).findsNoQuery
      · exact (givesValue_nodeWith ⟨rfl, rfl⟩).findsNoQuery
  · refine Ensures.bind fun _ _ _ => ?_
    dsimp only
    split
    · exact Ensures.bind fun _ _ _ => (givesValue_node ⟨rfl, rfl⟩).findsNoQuery
    · exact findsNoQuery_none

theorem columnOps_value (h : IsValue n) : GivesValue (columnOps R n) c := by
  refine Ensures.chain IsValue (fun this d hthis => ?_) h
  refine Ensures.bind fun key _ _ => ?_
  dsimp only
  split
  · exact Ensures.bind fun _ _ _ => Ensures.bind fun _ _ _ => (arrowed_value _ _ _).findsNoQuery
  · refine Ensures.bind fun _ _ _ => Ensures.bind fun _ _ _ => ?_
    exact (givesValue_node ⟨rfl, rfl⟩).findsNoQuery
  · refine Ensures.bind fun casts _ _ => ?_
    cases casts with
    | true =>
      refine Ensures.bind fun type _ _ => ?_
      cases type with
      | none => exact Ensures.reject
      | some type => exact (givesValue_node ⟨rfl, rfl⟩).findsNoQuery
    | false =>
      refine Ensures.bind fun dot _ _ => ?_
      cases dot with
      | true => exact Ensures.bind fun _ _ _ => (qualify_value _ _).findsNoQuery
      | false => exact bracket_value (some this)

/-- What IS says about a value, possibly negated. -/
theorem isTest_value {this : Node} {negated : Bool} {r : Rule .operand (Option Node)}
    {f : Option Node → Rule .operand (Option Node)} (hnone : f none = pure none)
    (hsome : ∀ value, f (some value) = (node (.binary .is) [this, value] >>= fun positive =>
      if negated = true then node (.unary .not) [positive] >>= fun whole =>
        columnOps R whole >>= fun n => pure (some n)
      else pure positive >>= fun whole => columnOps R whole >>= fun n => pure (some n))) :
    FindsNoQuery (r >>= f) c := by
  refine Ensures.bind fun x _ _ => ?_
  cases x with
  | none => exact hnone ▸ findsNoQuery_none
  | some value =>
    rw [hsome]
    refine Ensures.bind (Ensures.node fun _ _ _ => ?_)
    split
    · refine Ensures.bind (Ensures.node fun _ _ _ => GivesValue.findsNoQuery ?_)
      exact columnOps_value ⟨rfl, rfl⟩
    · exact Ensures.bind (Ensures.pure (GivesValue.findsNoQuery (columnOps_value ⟨rfl, rfl⟩)))

theorem isBody_value (this : Node) : FindsNoQuery (isBody R this) c := by
  refine Ensures.bind fun negated _ _ => Ensures.bind fun isDistinct _ _ => ?_
  cases isDistinct with
  | true =>
    refine Ensures.bind fun _ _ _ => Ensures.bind fun _ _ _ => GivesValue.findsNoQuery ?_
    exact givesValue_node ⟨rfl, rfl⟩
  | false =>
  refine Ensures.bind fun json _ _ => ?_
  cases json with
  | true =>
    exact Ensures.bind fun _ _ _ => isTest_value rfl fun _ => rfl
  | false =>
  refine Ensures.bind fun null _ _ => ?_
  dsimp only
  split
  · exact Ensures.bind fun _ _ _ => isTest_value rfl fun _ => rfl
  · exact isTest_value rfl fun _ => rfl

theorem isPredicate_value (n : Node) : FindsNoQuery (isPredicate R (some n)) c := by
  refine Ensures.orBack ?_ fun _ _ => by simp
  refine Ensures.bind fun found _ _ => ?_
  cases found with
  | false => exact Ensures.pure (by simp)
  | true => exact Ensures.bind fun this _ _ => (isBody_value this).mono fun _ _ h _ => h

theorem inBody_value (this : Node) : GivesValue (inBody R this) c := by
  refine Ensures.bind fun _ _ _ => ?_
  dsimp only
  split
  · refine closed_value fun d => Ensures.bind fun items _ _ => ?_
    dsimp only
    split
    · split
      · exact Ensures.bind fun _ _ _ => givesValue_node ⟨rfl, rfl⟩
      · exact givesValue_node ⟨rfl, rfl⟩
    · exact givesValue_node ⟨rfl, rfl⟩
  · refine Ensures.bind fun _ _ _ => Ensures.bind fun _ _ _ => ?_
    dsimp only
    split
    · refine Ensures.bind fun _ _ _ => Ensures.bind fun _ _ _ => Ensures.bind fun _ _ _ => ?_
      exact Ensures.pure ⟨rfl, rfl⟩
    · exact Ensures.bind fun _ _ _ => givesValue_node ⟨rfl, rfl⟩

theorem patternBody_value (op : BinaryOp) (this : Node) : GivesValue (patternBody R op this) c := by
  refine Ensures.bind fun _ _ _ => Ensures.bind fun _ _ _ => ?_
  refine Ensures.bind (Ensures.node fun _ _ _ => Ensures.bind fun escapes _ _ => ?_)
  cases escapes with
  | false => exact Ensures.pure ⟨rfl, rfl⟩
  | true =>
    refine Ensures.bind fun mark _ _ => ?_
    cases mark with
    | some mark => exact Ensures.bind fun _ _ _ => givesValue_node ⟨rfl, rfl⟩
    | none =>
      refine Ensures.bind fun null _ _ => ?_
      dsimp only
      split
      · exact Ensures.bind fun _ _ _ => givesValue_node ⟨rfl, rfl⟩
      · exact Ensures.bind fun _ _ _ => givesValue_node ⟨rfl, rfl⟩

theorem comprehension_value (this : Node) : FindsNoQuery (comprehension R this) c := by
  refine Ensures.bind fun item _ _ => ?_
  cases item with
  | none => exact findsNoQuery_none
  | some item =>
    refine Ensures.bind fun found _ _ => ?_
    cases found with
    | false => exact findsNoQuery_none
    | true =>
      refine Ensures.bind fun _ _ _ => Ensures.bind fun _ _ _ => Ensures.bind fun guarded _ _ => ?_
      cases guarded with
      | true =>
        refine Ensures.bind fun _ _ _ => Ensures.bind fun _ _ _ => GivesValue.findsNoQuery ?_
        exact givesValue_node ⟨rfl, rfl⟩
      | false =>
        refine Ensures.bind fun _ _ _ => GivesValue.findsNoQuery ?_
        exact givesValue_node ⟨rfl, rfl⟩

theorem namedOperators_value (h : IsValue n) : GivesValue (namedOperators R n) c := by
  refine Ensures.chain IsValue (fun this d hthis => ?_) h
  refine Ensures.bind fun _ _ _ => Ensures.bind fun _ _ _ => ?_
  dsimp only
  split
  · refine Ensures.bind fun _ _ _ => Ensures.bind fun _ _ _ => Ensures.bind fun _ _ _ => ?_
    refine Ensures.bind fun _ _ _ => Ensures.bind (Ensures.nodeWith fun _ _ _ => ?_)
    refine Ensures.bind fun _ _ _ => Ensures.pure fun n hn => ?_
    exact Option.some.inj hn ▸ ⟨rfl, rfl⟩
  · exact Ensures.pure (by simp)

theorem betweenBody_value (this : Node) : GivesValue (betweenBody R this) c := by
  have hbounds {d : Cursor} (symmetric : Option Bool) :
      GivesValue (bitwise R >>= fun low => need low >>= fun low => accept "AND" >>= fun _ =>
        bitwise R >>= fun high => need high >>= fun high =>
          node (.between symmetric) [this, low, high]) d := by
    refine Ensures.bind fun _ _ _ => Ensures.bind fun _ _ _ => Ensures.bind fun _ _ _ => ?_
    refine Ensures.bind fun _ _ _ => Ensures.bind fun _ _ _ => ?_
    exact givesValue_node ⟨rfl, rfl⟩
  refine Ensures.bind fun symmetric _ _ => ?_
  cases symmetric with
  | true => exact Ensures.bind (Ensures.pure (hbounds (some true)))
  | false =>
    refine Ensures.bind fun asymmetric _ _ => ?_
    cases asymmetric with
    | true => exact Ensures.bind (Ensures.pure (hbounds (some false)))
    | false => exact Ensures.bind (Ensures.pure (hbounds none))

theorem predicate_value (h : IsValue n) : FindsNoQuery (predicate R (some n)) c := by
  refine Ensures.bind fun key _ _ => ?_
  dsimp only
  split
  · exact Ensures.bind fun _ _ _ => Ensures.bind fun this _ _ =>
      (betweenBody_value this).findsNoQuery
  · exact Ensures.bind fun _ _ _ => Ensures.bind fun this _ _ => (inBody_value this).findsNoQuery
  -- `@@`, `<@`, MEMBER OF and SOUNDS LIKE
  iterate 4
    refine Ensures.bind fun _ _ _ => Ensures.bind fun _ _ _ => Ensures.bind fun _ _ _ => ?_
    refine Ensures.bind fun _ _ _ => ?_
    exact (givesValue_node ⟨rfl, rfl⟩).findsNoQuery
  · exact Ensures.bind fun _ _ _ => (namedOperators_value h).findsNoQuery
  · refine Ensures.orBack (Ensures.bind fun _ _ _ => ?_) fun _ _ => by simp
    exact (comprehension_value n).mono fun _ _ h _ => h
  · split
    · refine Ensures.bind fun _ _ _ => Ensures.bind fun _ _ _ => ?_
      exact (patternBody_value _ _).findsNoQuery
    · refine Ensures.bind fun _ _ _ => Ensures.bind fun _ _ _ => Ensures.bind fun _ _ _ => ?_
      refine Ensures.bind fun _ _ _ => ?_
      exact (givesValue_node ⟨rfl, rfl⟩).findsNoQuery
    · exact findsNoQuery_none

theorem isPredicate_or {f : Option Node → Rule .operand (Option Node)}
    (hsome : ∀ m, f (some m) = pure (some m)) (hnone : f none = pure (some n)) (hn : IsValue n) :
    FindsValue (isPredicate R (some n) >>= f) c := by
  refine Ensures.bind ((isPredicate_value n).mono fun x _ hx => ?_)
  cases x with
  | none => exact hnone ▸ findsValue_pure hn
  | some m => exact hsome m ▸ findsValue_pure (hx m rfl)

/-- A value stays one if it is negated or not. -/
theorem negation_value {k : Node → Rule .operand (Option Node)} {negated : Bool}
    (hk : ∀ n d, IsValue n → FindsValue (k n) d) (hn : IsValue n) :
    FindsValue (if negated = true then node (.unary .not) [n] >>= k else pure n >>= k) c := by
  split
  · exact Ensures.bind (Ensures.node fun _ d _ => hk _ d ⟨rfl, rfl⟩)
  · exact Ensures.bind (Ensures.pure (hk n c hn))

/-- A value stays one if it is tested for null or not. -/
theorem notNull_value {k : Node → Rule .operand (Option Node)}
    (hk : ∀ n d, IsValue n → FindsValue (k n) d) (hn : IsValue n) :
    FindsValue (accept "NOTNULL" >>= fun found => if found = true then
      nullTest n >>= fun test => node (.unary .not) [test] >>= k else pure n >>= k) c := by
  refine Ensures.bind fun found d _ => ?_
  cases found with
  | true => exact Ensures.bind fun _ _ _ => Ensures.bind (Ensures.node fun _ d _ => hk _ d ⟨rfl, rfl⟩)
  | false => exact Ensures.bind (Ensures.pure (hk n d hn))

theorem range_value (h : FindsValue (bitwise R) c) : FindsValue (range R) c := by
  refine Ensures.bind (h.mono ?_)
  rintro _ d ⟨n, rfl, hn⟩
  refine Ensures.bind fun negated _ _ => Ensures.bind fun key _ _ => ?_
  dsimp only
  split
  · refine Ensures.bind ((isPredicate_value n).mono fun x _ hx => ?_)
    cases x with
    | none => exact findsValue_pure hn
    | some n' =>
      exact negation_value (fun n d hn => isPredicate_or (fun _ => rfl) rfl hn) (hx n' rfl)
  · refine Ensures.bind ((predicate_value hn).mono fun x _ hx => ?_)
    cases x with
    | some n' =>
      refine Ensures.bind (Ensures.pure ?_)
      exact notNull_value (fun n d hn => negation_value (fun n d hn =>
        isPredicate_or (fun _ => rfl) rfl hn) hn) (hx n' rfl)
    | none =>
      have hnull {d : Cursor} {k : Option Node → Rule .operand (Option Node)}
          (hk : ∀ n d, IsValue n → FindsValue (k (some n)) d) :
          FindsValue (need (some n) >>= fun n => nullTest n >>= fun test => pure (some test) >>= k)
            d := by
        refine Ensures.bind (Ensures.pure (Ensures.bind (Ensures.node fun _ e _ => ?_)))
        exact Ensures.bind (Ensures.pure (hk _ e ⟨rfl, rfl⟩))
      refine Ensures.bind fun isNull _ _ => ?_
      cases isNull with
      | true =>
        refine hnull fun n d hn => ?_
        exact notNull_value (fun n d hn => negation_value (fun n d hn =>
          isPredicate_or (fun _ => rfl) rfl hn) hn) hn
      | false =>
        refine Ensures.bind fun _ _ _ => ?_
        dsimp only
        split
        · refine Ensures.bind fun _ _ _ => hnull fun n d hn => ?_
          exact notNull_value (fun n d hn => negation_value (fun n d hn =>
            isPredicate_or (fun _ => rfl) rfl hn) hn) hn
        · refine Ensures.bind (Ensures.pure ?_)
          exact notNull_value (fun n d hn => negation_value (fun n d hn =>
            isPredicate_or (fun _ => rfl) rfl hn) hn) hn

/-! ## Calls -/

theorem liftNulls_value (h : IsValue n) : IsValue (liftNulls n) := by
  unfold liftNulls
  split
  · split
    · split
      · exact ⟨rfl, rfl⟩
      · exact h
    · exact h
  · exact h

theorem withNulls_value (h : IsValue n) (treatment : Option String) :
    IsValue (withNulls treatment n) := by
  cases treatment with
  | none => exact h
  | some keyword => exact ⟨rfl, rfl⟩

/-- A window over a call is a value, and so is the call with what stands before the window. -/
theorem over_value (whole : Node → Node) (h : IsValue (whole n)) :
    (accept "OVER" >>= fun windowed => if windowed = true then
      peekKey >>= fun key => if (key == "(") = true then
        wrapped (windowBody R) >>= fun body =>
          nodeWith n.comments (.window body.1) (whole (n.setComments []) :: body.2) >>= fun n =>
            pure (n, true)
      else name false R.grammar.isName >>= fun named =>
        nodeWith n.comments (.window (named.bind identOf)) [whole (n.setComments [])] >>= fun n =>
          pure (n, false)
    else acceptIf R.grammar.hasKeep "KEEP" >>= fun keep => if keep = true then
      peekKey >>= fun key => if (key == "(") = true then
        wrapped (keptRows R) >>= fun body =>
          nodeWith n.comments body.1 (whole (n.setComments []) :: body.2) >>= fun n =>
            pure (n, true)
      else name false R.grammar.isName >>= fun named =>
        nodeWith n.comments (.keep (named.bind identOf) none) [whole (n.setComments [])] >>= fun n =>
          pure (n, false)
    else pure (whole n, false) : Rule .operand (Node × Bool)).Ensures c fun p _ => IsValue p.1 := by
  refine Ensures.bind fun windowed _ _ => ?_
  dsimp only
  split
  · refine Ensures.bind fun key _ _ => ?_
    dsimp only
    split
    · refine Ensures.bind fun body _ _ => Ensures.bind (Ensures.nodeWith fun _ _ _ => ?_)
      exact Ensures.pure ⟨rfl, rfl⟩
    · refine Ensures.bind fun named _ _ => Ensures.bind (Ensures.nodeWith fun _ _ _ => ?_)
      exact Ensures.pure ⟨rfl, rfl⟩
  refine Ensures.bind fun keep _ _ => ?_
  dsimp only
  split
  · refine Ensures.bind fun key _ _ => ?_
    dsimp only
    split
    · have hkept (d : Cursor) : (keptRows R).Ensures d fun p _ => IsValue (.of p.1 []) := by
        refine Ensures.bind fun _ _ _ => Ensures.bind fun _ _ _ => Ensures.bind fun _ _ _ => ?_
        exact Ensures.pure ⟨rfl, rfl⟩
      refine Ensures.bind ((within_gives hkept).mono fun body _ hbody => ?_)
      exact Ensures.bind (Ensures.nodeWith fun _ _ _ => Ensures.pure hbody)
    · refine Ensures.bind fun named _ _ => Ensures.bind (Ensures.nodeWith fun _ _ _ => ?_)
      exact Ensures.pure ⟨rfl, rfl⟩
  · exact Ensures.pure h

theorem windowedOnce_value (h : IsValue n) :
    (windowedOnce R n).Ensures c fun p _ => IsValue p.1 := by
  have hfilter {d : Cursor} {k : (Node → Node) → Rule .operand (Node × Bool)}
      (hk : ∀ filtered d, (∀ n, IsValue n → IsValue (filtered n)) →
        (k filtered).Ensures d fun p _ => IsValue p.1) :
      (peekKey >>= fun key => peekSecondKey >>= fun second =>
        if (key == "FILTER" && second == "(") = true then
          advance >>= fun _ => wrapped (accept "WHERE" >>= fun _ =>
            liftM R.assignment >>= fun found => need found) >>= fun condition =>
              pure (fun n => Node.of .filter [n, .of .whereClause [condition]]) >>= k
        else pure id >>= k).Ensures d fun p _ => IsValue p.1 := by
    refine Ensures.bind fun _ _ _ => Ensures.bind fun _ _ _ => ?_
    dsimp only
    split
    · refine Ensures.bind fun _ _ _ => Ensures.bind fun _ e _ => Ensures.bind (Ensures.pure ?_)
      exact hk _ e fun _ _ => ⟨rfl, rfl⟩
    · exact Ensures.bind (Ensures.pure (hk id _ fun _ hn => hn))
  refine Ensures.bind fun group _ _ => ?_
  cases group with
  | true =>
    refine Ensures.bind fun order _ _ => Ensures.bind (Ensures.pure ?_)
    refine hfilter fun filtered d hfiltered => Ensures.bind fun treatment _ _ => ?_
    exact over_value (fun n => withNulls treatment (filtered (.of .withinGroup (n :: order.toList))))
      (withNulls_value (hfiltered _ ⟨rfl, rfl⟩) _)
  | false =>
    refine Ensures.bind (Ensures.pure ?_)
    refine hfilter fun filtered d hfiltered => Ensures.bind fun treatment _ _ => ?_
    exact over_value (fun n => withNulls treatment (filtered (liftNulls n)))
      (withNulls_value (hfiltered _ (liftNulls_value h)) _)

theorem windowed_value (h : IsValue n) : GivesValue (windowed R n) c := by
  have hchain {p : Node × Bool} {d : Cursor} (hp : IsValue p.1) :
      (chain (fun p : Node × Bool => peekKey >>= fun next =>
        if (p.2 && (next == "OVER" || R.grammar.hasKeep && next == "KEEP")) = true then
          windowedOnce R p.1 >>= fun q => pure (some q)
        else pure none) p).Ensures d fun q _ => IsValue q.1 := by
    refine Ensures.chain (fun p : Node × Bool => IsValue p.1) (fun p e hp => ?_) hp
    refine Ensures.bind fun key _ _ => ?_
    dsimp only
    split
    · refine Ensures.bind ((windowedOnce_value hp).mono fun q _ hq => Ensures.pure fun r hr => ?_)
      exact Option.some.inj hr ▸ hq
    · exact Ensures.pure (by simp)
  refine Ensures.bind ((windowedOnce_value h).mono fun p d hp => ?_)
  exact Ensures.bind ((hchain hp).mono fun _ _ hq => Ensures.pure hq)

/-! ## Plain words -/

/-- Keys with a meaning of their own at the beginning of an operand. -/
def operandKeys : List String :=
  ["(", "\x7b", "+", "-", "NOT", "|/", "||/", "~", "INTERVAL", "MAP", "NULL", "TRUE", "FALSE"]

/-- A word that is a name and nothing else: no keyword, no type and no function of the grammar. -/
structure PlainWord (g : Grammar) (t : Token) : Prop where
  word : t.kind = .word
  isName : g.isName t.key = true
  key : t.key ∉ operandKeys
  noType : g.typeName? t.key = none
  noOperand : ∀ R hierarchy, keywordOperand R hierarchy t.key = none
  noStatement : ∀ R, statementBody? R t.key = none
  noBody : ∀ R, ownBody? R (Text.upper t.text) = none
  unknown : isKnownFunction g (Text.upper t.text) = false

/-- A plain word stands at the cursor. -/
def AtPlainWord (g : Grammar) (c : Cursor) : Prop := ∃ t ts, c.rest = t :: ts ∧ PlainWord g t

namespace AtPlainWord

theorem of_same (h : AtPlainWord g c) (hd : SamePlace c d) : AtPlainWord g d := by
  obtain ⟨t, ts, hr, ht⟩ := h
  exact ⟨t, ts, hd.rest.trans hr, ht⟩

theorem key_ne (h : AtPlainWord g c) {k : String} (hk : k ∈ operandKeys) : c.key ≠ k := by
  obtain ⟨t, ts, hr, ht⟩ := h
  rw [Ensures.key_of_rest hr]
  exact fun he => ht.key (he ▸ hk)

end AtPlainWord

theorem literal_plainWord (h : AtPlainWord R.grammar c) : (literal R).FindsNothing c := by
  obtain ⟨t, ts, hr, ht⟩ := h
  have hplain : (plainLiteral R).FindsNothing c := by
    refine Ensures.bind (Ensures.peek ?_)
    rw [hr, List.head?_cons]
    dsimp only
    rw [ht.word]
    dsimp only
    have hkeys {k : String} (hk : k ∈ operandKeys) : t.key ≠ k := fun he => ht.key (he ▸ hk)
    split
    · next hkey => exact absurd hkey (hkeys (by decide))
    · next hkey => exact absurd hkey (hkeys (by decide))
    · next hkey => exact absurd hkey (hkeys (by decide))
    · exact FindsNothing.pure
  have hset : namesCharacterSet R.grammar t = false := by
    rw [namesCharacterSet, ht.isName, Bool.not_true, Bool.and_false]
  refine Ensures.bind (Ensures.peek ?_)
  rw [hr, List.head?_cons]
  dsimp only
  rw [if_neg (by simp [hset])]
  exact hplain

theorem callBody_plainWord {t : Token} (ht : PlainWord R.grammar t) :
    GivesValue (callBody R ⟨t.text, false⟩ false) c := by
  unfold callBody
  simp only [ht.noBody, ht.unknown, Bool.false_eq_true, if_false, Bool.and_false]
  refine within_gives fun d => Ensures.bind fun _ _ _ => ?_
  exact givesValue_node ⟨rfl, rfl⟩

theorem quantifier?_value {key : String} {head : Head} (h : quantifier? key = some head) :
    IsValue (.of head []) := by
  unfold quantifier? at h
  split at h
  · exact Option.some.inj h ▸ ⟨rfl, rfl⟩
  · exact Option.some.inj h ▸ ⟨rfl, rfl⟩
  · exact Option.some.inj h ▸ ⟨rfl, rfl⟩
  · exact Option.some.inj h ▸ ⟨rfl, rfl⟩
  · cases h

theorem callAt_plainWord {t : Token} (ht : PlainWord R.grammar t) :
    FindsValue (callAt R {} t) c := by
  refine Ensures.bind fun _ _ _ => Ensures.bind fun _ _ _ => Ensures.bind fun second _ _ => ?_
  dsimp only
  split
  · next head hhead =>
    have hvalue : IsValue (.of head []) := by
      split at hhead
      · exact quantifier?_value hhead
      · cases hhead
    split
    · refine Ensures.bind fun q _ _ => ?_
      cases q with
      | none => exact Ensures.reject
      | some q => exact FindsValue.of_gives (givesValue_nodeWith hvalue)
    · refine Ensures.bind fun _ _ _ => Ensures.bind fun _ _ _ => ?_
      exact FindsValue.of_gives (givesValue_nodeWith hvalue)
  · have hcalled : (⟨t.text, t.kind == .quotedName⟩ : Ident) = ⟨t.text, false⟩ := by
      rw [ht.word]
      rfl
    rw [hcalled]
    refine Ensures.bind ((callBody_plainWord ht).mono fun called _ hcalled => ?_)
    refine Ensures.bind ((takePending_value (hcalled.addComments _)).mono fun n _ hn => ?_)
    exact FindsValue.of_gives (windowed_value hn)

theorem call_plainWord (h : AtPlainWord R.grammar c) :
    (call R {}).Ensures c fun x d => (x = none ∧ SamePlace c d) ∨ ∃ n, x = some n ∧ IsValue n := by
  obtain ⟨t, ts, hr, ht⟩ := id h
  have hplain : (plainCall R {}).Ensures c fun x d =>
      (x = none ∧ SamePlace c d) ∨ ∃ n, x = some n ∧ IsValue n := by
    refine Ensures.bind (Ensures.peek ?_)
    rw [hr]
    refine Ensures.bind (Ensures.here ?_)
    have hkey (b : Bool) : (if b then keywordOperand R c.hierarchy t.key else none) = none := by
      rw [ht.noOperand, ite_self]
    simp only [hkey]
    refine Ensures.bind (Ensures.peekSecondKey ?_)
    split
    · rw [if_neg Bool.false_ne_true]
      split
      · exact (callAt_plainWord ht).mono fun _ _ h => .inr h
      · exact Ensures.pure (.inl ⟨rfl, .refl c⟩)
    · split
      · refine Ensures.bind fun _ _ _ => ?_
        exact (FindsValue.of_gives (givesValue_node ⟨rfl, rfl⟩)).mono fun _ _ h => .inr h
      · exact Ensures.pure (.inl ⟨rfl, .refl c⟩)
  refine Ensures.bind (Ensures.here (Ensures.bind (Ensures.peekKey ?_)))
  have hbrace := h.key_ne (k := "\x7b") (by decide)
  rw [if_neg (by simp [hbrace])]
  exact hplain

theorem name_plainWord (h : AtPlainWord g c) (anything : Bool) :
    (name anything g.isName : Rule s (Option Node)).Ensures c fun x _ => ∃ n, x = some n := by
  obtain ⟨t, ts, hr, ht⟩ := h
  refine Ensures.bind (Ensures.peek ?_)
  rw [hr, List.head?_cons]
  dsimp only
  rw [if_neg (by simp [ht.word]), if_pos (by simp [Token.isWord, ht.word, ht.isName])]
  exact Ensures.bind fun _ _ _ => Ensures.bind fun n _ _ => Ensures.pure ⟨n, rfl⟩

/-- A plain word is a column or a call. -/
theorem field_plainWord (h : AtPlainWord R.grammar c) : FindsValue (field R) c := by
  refine FindsNothing.bind (literal_plainWord h) fun d hd => ?_
  replace h := h.of_same hd
  have hparens : (parenthesized R).FindsNothing d := by
    refine Ensures.bind (Ensures.peekKey ?_)
    rw [if_pos (by simpa using h.key_ne (by decide))]
    exact FindsNothing.pure
  refine FindsNothing.bind hparens fun e he => ?_
  replace h := h.of_same he
  have hmap : (callOrMap R).Ensures e fun x d =>
      (x = none ∧ SamePlace e d) ∨ ∃ n, x = some n ∧ IsValue n := by
    refine Ensures.bind (Ensures.peekKey ?_)
    have hkey := h.key_ne (k := "MAP") (by decide)
    rw [if_neg (by simp [hkey])]
    exact call_plainWord h
  refine Ensures.bind (hmap.mono ?_)
  rintro _ f (⟨rfl, hf⟩ | ⟨n, rfl, hn⟩)
  · refine Ensures.bind (Ensures.peekKey (Ensures.bind (Ensures.peekSecondKey ?_)))
    refine Ensures.bind ((name_plainWord (h.of_same hf) _).mono ?_)
    rintro _ _ ⟨n, rfl⟩
    exact findsValue_pure ⟨rfl, rfl⟩
  · exact findsValue_pure hn

theorem outerMarked_value (h : IsValue n) : GivesValue (outerMarked R n) c := by
  refine Ensures.bind fun marked _ _ => ?_
  cases marked with
  | false => exact Ensures.pure h
  | true =>
    rw [if_pos rfl]
    split
    · exact givesValue_node ⟨rfl, rfl⟩
    · exact Ensures.pure h

theorem operand_plainWord (h : AtPlainWord R.grammar c) : FindsValue (operand R) c := by
  have hinterval : (interval R true).FindsNothing c := by
    refine FindsNothing.orBack ?_
    refine Ensures.bind (Ensures.accept_of_ne (h.key_ne (by decide)) ?_)
    exact Ensures.pure rfl
  refine FindsNothing.bind hinterval fun d hd => ?_
  replace h := h.of_same hd
  have htyped : (typedLiteral R).FindsNothing d := by
    refine FindsNothing.orBack (Ensures.bind (Ensures.here ?_))
    have htype : (dataType R true false).FindsNothing d := by
      obtain ⟨t, ts, hr, ht⟩ := h
      refine FindsNothing.orBack (Ensures.bind (Ensures.peek ?_))
      rw [hr]
      simp only [List.head?_cons, Token.isWord, ht.word, beq_self_eq_true, if_true, ht.noType]
      exact Ensures.pure rfl
    exact htype.bind fun _ _ => Ensures.pure rfl
  refine FindsNothing.bind htyped fun e he => ?_
  refine Ensures.bind ((field_plainWord (h.of_same he)).mono ?_)
  rintro _ _ ⟨n, rfl, hn⟩
  refine Ensures.bind ((columnOps_value hn).mono fun n' _ hn' => ?_)
  exact FindsValue.of_gives (outerMarked_value hn')

theorem unary_plainWord (h : AtPlainWord R.grammar c) : FindsValue (unary R) c := by
  refine Ensures.bind (Ensures.peekKey ?_)
  split
  iterate 6 next hkey => exact absurd hkey (h.key_ne (by decide))
  exact Ensures.bind ((operand_plainWord h).mono fun _ _ hx => zoned_value hx)

theorem assignment_plainWord (h : AtPlainWord R.grammar c) : FindsValue (assignment R) c := by
  have hbitwise : FindsValue (bitwise R) c :=
    bitwise_value (term_value (factor_value (power_value (unary_plainWord h))))
  exact level_value (level_value (level_value (level_value (level_value (range_value hbitwise)))))

theorem named_value {marked : Bool} (h : IsValue n) :
    FindsValue (named R marked (some n) : Rule s (Option Node)) c := by
  refine Ensures.bind fun comments _ _ => Ensures.bind fun key _ _ => ?_
  dsimp only
  split
  · refine FindsValue.of_gives (closed_value fun d => Ensures.bind fun names _ _ => ?_)
    dsimp only
    split
    · exact Ensures.bind Ensures.reject
    · exact Ensures.bind fun _ _ _ => givesValue_nodeWith ⟨rfl, rfl⟩
  refine Ensures.bind fun found _ _ => ?_
  obtain _ | found := found
  · dsimp only
    split
    all_goals
      refine Ensures.bind fun chosen _ _ => ?_
      dsimp only
      split
      · exact findsValue_pure h
      refine Ensures.bind fun this _ _ => Ensures.bind (Ensures.nodeWith fun _ _ _ => ?_)
      split
      · exact findsValue_pure ⟨rfl, rfl⟩
      · exact findsValue_pure ⟨rfl, rfl⟩
  · refine Ensures.bind fun chosen _ _ => ?_
    dsimp only
    split
    · exact findsValue_pure h
    refine Ensures.bind fun this _ _ => Ensures.bind (Ensures.nodeWith fun _ _ _ => ?_)
    split
    · exact findsValue_pure ⟨rfl, rfl⟩
    · exact findsValue_pure ⟨rfl, rfl⟩

theorem labelled_value (label : Node) : FindsValue (labelled R label) c := by
  refine Ensures.bind fun _ _ _ => Ensures.bind fun _ _ _ => Ensures.bind fun _ _ _ => ?_
  refine Ensures.bind fun _ _ _ => ?_
  dsimp only
  split
  · exact FindsValue.of_gives (givesValue_nodeWith ⟨rfl, rfl⟩)
  · exact Ensures.reject

/-- An expression that begins with a plain word is a value. -/
theorem expression_plainWord (h : AtPlainWord R.grammar c) : FindsValue (expression R) c := by
  have hlabel : (label R).Ensures c fun x d => x = none → SamePlace c d := by
    refine Ensures.bind (Ensures.peekSecondKey ?_)
    split
    · refine (name_plainWord h false).mono ?_
      rintro _ _ ⟨n, rfl⟩ hx
      cases hx
    · exact Ensures.pure fun _ => .refl c
  refine Ensures.bind (hlabel.mono fun x d hx => ?_)
  cases x with
  | some label => exact labelled_value label
  | none =>
    refine Ensures.bind ((assignment_plainWord (h.of_same (hx rfl))).mono ?_)
    rintro _ e ⟨n, rfl, hn⟩
    refine Ensures.bind fun limits _ _ => ?_
    cases limits with
    | true => exact findsValue_pure hn
    | false =>
      refine Ensures.bind fun marked f _ => ?_
      cases marked with
      | true => exact named_value hn
      | false =>
        have hbare : FindsValue (bareAlias R (some n)) f := named_value hn
        exact hbare.toClause

end SemanticLayer.Sql.Parser
