import SemanticLayer.Proofs.Expressions
import SemanticLayer.Proofs.Runs

/-!
# Reading arithmetic

How the rules of Oracle's grammar run on products and quotients of numbers, columns, remainders and
parts of dates, with signs and parentheses. `Spells` says which tokens spell which tree. What
follows an operand is a closing parenthesis, a comma or a mark of a product, so every rule above the
operand stops there at once; the first sections say so rule by rule. `Spells.isPhrase` puts them
together: from wherever the parser stands, it reads exactly the tokens of the expression and leaves
its tree.

Operands of other kinds can be added: `Spells` takes them as a parameter, and the results ask of
them only that they are read.
-/

namespace SemanticLayer.Sql.Parser

open Rule (Leaves)

variable {s : Scope} {α β : Type} {c d e : Cursor} {R : Rules} {m : Nat} {n : Node} {t : Token}
  {ts us k : List Token}

/-- The marks at which an operand of a product ends. -/
def operandEnds : List String := [")", ",", "*", "/"]

/-- The marks at which an expression ends. -/
def expressionEnds : List String := [")", ","]

/-! ## What follows an operand -/

theorem bracket_ends (h : c.EndsBy operandEnds) :
    (bracket R (some n)).Leaves c none c := by
  refine Leaves.bind .peekKey ?_
  rw [if_neg (by simpa using h.key_ne (by decide))]
  refine Leaves.bind .peekKey ?_
  rw [if_neg (by simpa using h.key_ne (by decide))]
  exact .pure

theorem columnOps_ends (h : c.EndsBy operandEnds) : (columnOps R n).Leaves c n c := by
  refine Leaves.chain_of_none (Leaves.bind .peekKey ?_)
  rw [h.lookup_key (by decide), h.lookup_key (by decide)]
  refine Leaves.bind (.accept_of_ne (h.key_ne (by decide))) ?_
  refine Leaves.bind (.accept_of_ne (h.key_ne (by decide))) ?_
  exact bracket_ends h

theorem outerMarked_ends (h : c.EndsBy operandEnds) : (outerMarked R n).Leaves c n c :=
  Leaves.bind (.acceptIf_of_ne (h.key_ne (by decide))) .pure

theorem zoned_ends (h : c.EndsBy operandEnds) : (zoned R (some n)).Leaves c (some n) c :=
  Leaves.chain_of_none (Leaves.bind (.acceptAll_of_ne (h.key_ne (by decide))) .pure)

theorem nullTreatment_ends (h : c.EndsBy operandEnds) : nullTreatment.Leaves c none c :=
  Leaves.bind (.acceptAll_of_ne (h.key_ne (by decide)))
    (Leaves.bind (.acceptAll_of_ne (h.key_ne (by decide))) .pure)

theorem windowed_ends (h : c.EndsBy operandEnds) : (windowed R n).Leaves c (liftNulls n) c := by
  refine Leaves.bind (a := (liftNulls n, false)) (e := c) ?_ ?_
  · refine Leaves.bind (.acceptAll_of_ne (h.key_ne (by decide))) (Leaves.bind .pure ?_)
    refine Leaves.bind .peekKey (Leaves.bind .peekSecondKey ?_)
    have hfilter := h.key_ne (k := "FILTER") (by decide)
    rw [if_neg (by simp [hfilter])]
    refine Leaves.bind .pure (Leaves.bind (nullTreatment_ends h) ?_)
    refine Leaves.bind (.accept_of_ne (h.key_ne (by decide))) ?_
    exact Leaves.bind (.acceptIf_of_ne (h.key_ne (by decide))) .pure
  · exact Leaves.bind (.chain_of_none (Leaves.bind .peekKey .pure)) .pure

/-! ## Levels of operators -/

theorem power_leaves {x : Option Node} (hR : R.grammar = .oracle) (h : (unary R).Leaves c x d) :
    (power R).Leaves c x d := by
  refine Leaves.bind h ?_
  rw [hR]
  exact .pure

theorem term_leaves (h : (factor R).Leaves c (some n) d) (hd : d.EndsBy expressionEnds) :
    (term R).Leaves c (some n) d := by
  refine Leaves.bind h (Leaves.chain_of_none (Leaves.bind .peekKey ?_))
  rw [hd.lookup_key (by decide)]
  exact .pure

theorem bitwise_leaves (hR : R.grammar = .oracle) (h : (factor R).Leaves c (some n) d)
    (hd : d.EndsBy expressionEnds) : (bitwise R).Leaves c (some n) d := by
  refine Leaves.bind (term_leaves h hd) (Leaves.chain_of_none (Leaves.bind .peekKey ?_))
  rw [hR, hd.lookup_key (by decide)]
  refine Leaves.bind (.acceptAll_of_ne (hd.key_ne (by decide))) ?_
  refine Leaves.bind (.acceptAll_of_ne (hd.key_ne (by decide))) ?_
  refine Leaves.bind .pure ?_
  exact Leaves.bind (.accept_of_ne (hd.key_ne (by decide))) .pure

theorem level_leaves {operand : Rule .operand (Option Node)} {operators : List (String × BinaryOp)}
    (h : operand.Leaves c (some n) d) (hd : d.EndsBy expressionEnds)
    (ho : ∀ p ∈ operators, p.1 ∉ "" :: expressionEnds) :
    (level operand operators).Leaves c (some n) d := by
  refine Leaves.bind h (Leaves.chain_of_none (Leaves.bind .peekKey ?_))
  rw [hd.lookup_key ho]
  exact .pure

theorem isPredicate_ends (h : c.EndsBy expressionEnds) {x : Option Node} :
    (isPredicate R x).Leaves c none c :=
  Leaves.orBack_here (Leaves.bind (.accept_of_ne (h.key_ne (by decide))) .pure)

theorem predicate_ends (hR : R.grammar = .oracle) (h : c.EndsBy expressionEnds) {x : Option Node} :
    (predicate R x).Leaves c none c := by
  refine Leaves.bind .peekKey ?_
  have hpattern : (patternOperators .oracle).lookup c.key = none := h.lookup_key (by decide)
  have hcall : (callOperators .oracle).lookup c.key = none := h.lookup_key (by decide)
  have hk := h.key_mem
  rw [hR]
  generalize c.key = key at hk hpattern hcall
  dsimp only
  split
  -- The words and marks that begin a predicate
  iterate 8 exact absurd hk (by decide)
  rw [hpattern, hcall]
  exact .pure

theorem range_leaves (hR : R.grammar = .oracle) (h : (bitwise R).Leaves c (some n) d)
    (hd : d.EndsBy expressionEnds) : (range R).Leaves c (some n) d := by
  refine Leaves.bind h ?_
  refine Leaves.bind (.accept_of_ne (hd.key_ne (by decide))) ?_
  refine Leaves.bind .peekKey ?_
  have his := hd.key_ne (k := "IS") (by decide)
  rw [if_neg (by simp [his])]
  refine Leaves.bind (predicate_ends hR hd) ?_
  refine Leaves.bind (.accept_of_ne (hd.key_ne (by decide))) ?_
  refine Leaves.bind .peekKey ?_
  refine Leaves.bind .pure ?_
  refine Leaves.bind (.accept_of_ne (hd.key_ne (by decide))) ?_
  refine Leaves.bind .pure ?_
  refine Leaves.bind .pure ?_
  exact Leaves.bind (isPredicate_ends hd) .pure

theorem assignment_leaves (hR : R.grammar = .oracle) (h : (factor R).Leaves c (some n) d)
    (hd : d.EndsBy expressionEnds) : (assignment R).Leaves c (some n) d := by
  have hrange := range_leaves hR (bitwise_leaves hR h hd) hd
  have hcomparison : (comparison R).Leaves c (some n) d := level_leaves hrange hd (by decide)
  have hequality : (equality R).Leaves c (some n) d := level_leaves hcomparison hd (by decide)
  have hconjunction : (conjunction R).Leaves c (some n) d := by
    unfold conjunction
    rw [hR]
    exact level_leaves hequality hd (by decide)
  have hdisjunction : (disjunction R).Leaves c (some n) d := by
    unfold disjunction
    rw [hR]
    exact level_leaves hconjunction hd (by decide)
  exact level_leaves hdisjunction hd (by decide)

/-- No alias follows. -/
theorem aliased_ends (hR : R.grammar = .oracle) (h : c.EndsBy expressionEnds) {explicit : Bool} :
    (aliased R explicit (some n)).Leaves c (some n) c := by
  have hlimit : (limitFollows R : Rule .clause Bool).Leaves c false c := by
    refine Leaves.bind .peekKey ?_
    have hl := h.key_ne (k := "LIMIT") (by decide)
    have ho := h.key_ne (k := "OFFSET") (by decide)
    rw [if_neg (by simp [hl, ho])]
    exact .pure
  refine Leaves.bind hlimit ?_
  refine Leaves.bind (.accept_of_ne (h.key_ne (by decide))) ?_
  cases explicit with
  | true => exact .pure
  | false =>
    change (named R false (some n) : Rule .operand (Option Node)).Leaves c (some n) c
    refine Leaves.bind .pending (Leaves.bind .peekKey ?_)
    rw [if_neg (by simpa using h.key_ne (by decide))]
    refine Leaves.bind h.name ?_
    rw [hR]
    exact Leaves.bind .pure .pure

theorem expression_leaves (hR : R.grammar = .oracle) (h : (factor R).Leaves c (some n) d)
    (hd : d.EndsBy expressionEnds) : (expression R).Leaves c (some n) d := by
  have hlabel : (label R).Leaves c none c := by
    refine Leaves.bind .peekSecondKey ?_
    rw [hR]
    exact .pure
  refine Leaves.bind hlabel ?_
  exact Leaves.bind (assignment_leaves hR h hd) (aliased_ends hR hd)

/-! ## What is no query -/

/-- The node is an operation, a call or an operand, and neither a query nor a table. -/
structure IsScalar (n : Node) : Prop where
  clauses : n.head.takesClauses = false
  query : n.head.isBareQuery = false
  subquery : ∀ label, n.head ≠ .subquery label
  values : ∀ label, n.head ≠ .values label
  known : ∀ kind name, n.head ≠ .call (.known kind name)

/-- The heads of operands, operations and cuts of dates. -/
def isScalarHead : Head → Bool
  | .number _ | .string _ | .column _ | .paren | .unary _ | .binary _ | .extract
  | .call (.dateTrunc _) => true
  | _ => false

theorem IsScalar.of_head (h : isScalarHead n.head = true) : IsScalar n := by
  generalize hhead : n.head = head at h
  unfold isScalarHead at h
  split at h
  case h_9 => cases h
  all_goals exact ⟨by rw [hhead]; rfl, by rw [hhead]; rfl, by simp [hhead], by simp [hhead],
    by simp [hhead]⟩

theorem setOperations_ends (h : c.EndsBy expressionEnds) (hn : IsScalar n) :
    (setOperations R n).Leaves c n c := by
  refine Leaves.bind (.chain_of_none (Leaves.bind (.acceptOne_of_not_mem ?_) .pure)) ?_
  · intro hk
    simp only [List.mem_cons, List.not_mem_nil, or_false] at hk
    obtain hk | hk | hk := hk <;> exact h.key_ne (by decide) hk
  · have hq := hn.query
    split
    · next hs => rw [hs] at hq; cases hq
    · exact .pure

theorem clauses_leaves (hn : IsScalar n) : (clauses R n).Leaves c n c := by
  unfold clauses
  rw [hn.clauses]
  exact .pure

/-- No query begins at the cursor. -/
theorem query_none (hk : c.key ∉ ["WITH", "FROM", "SELECT", "VALUES"]) :
    (steppedQuery R {}).Leaves c none c := by
  simp only [List.mem_cons, List.not_mem_nil, or_false, not_or] at hk
  obtain ⟨hwith, hfrom, hselect, hvalues⟩ := hk
  refine Leaves.bind (a := none) (e := c) ?_ .pure
  refine Leaves.bind (Leaves.bind (.accept_of_ne hwith) .pure) ?_
  refine Leaves.bind (Leaves.bind (.accept_of_ne hfrom) .pure) ?_
  refine Leaves.bind (.accept_of_ne hselect) ?_
  refine Leaves.bind .peekKey ?_
  refine Leaves.bind .peekKey ?_
  rw [if_neg (by simpa using hvalues)]
  exact Leaves.bind .pure .pure

/-! ## Arguments -/

/-- The rule passes some of the tokens at the cursor and leaves something. -/
def Runs (r : Rule s α) (c : Cursor) : Prop :=
  ∃ a used k, c.rest = used ++ k ∧ r.Leaves c a (c.after used)

theorem Runs.here {r : Rule s α} {a : α} (h : r.Leaves c a c) : Runs r c := ⟨a, [], c.rest, rfl, h⟩

theorem Runs.bind {r : Rule s α} {f : α → Rule s β} {a : α} (hr : c.rest = us ++ k)
    (h : r.Leaves c a (c.after us)) (hf : Runs (f a) (c.after us)) : Runs (r >>= f) c := by
  obtain ⟨b, vs, k', hrest, hb⟩ := hf
  rw [Cursor.rest_after hr] at hrest
  rw [← Cursor.after_append] at hb
  exact ⟨b, us ++ vs, k', by rw [hr, hrest, List.append_assoc], h.bind hb⟩

theorem Runs.after {r : Rule s α} {f : α → Rule s β} {a : α} (h : r.Leaves c a c)
    (hf : Runs (f a) c) : Runs (r >>= f) c := by
  obtain ⟨b, us, k, hus, hb⟩ := hf
  exact ⟨b, us, k, hus, h.bind hb⟩

theorem passes_clause {last : Option Token} (ho : t.opens = false) (hc : t.closes = false) :
    Scope.clause.passes last t = true := by
  simp [Scope.passes, ho, hc]

theorem name_runs (allowed : String → Bool) (hc : c.Quiet) :
    Runs (name false allowed : Rule .clause (Option Node)) c := by
  cases hr : c.rest with
  | nil =>
    refine .here (a := none) (Leaves.bind .peek ?_)
    rw [hr]
    exact .pure
  | cons t ts =>
    have hclean := hc.rest t (by simp [hr])
    -- A name is no mark, so it may be passed.
    have hadvance (hkind : t.kind ≠ .symbol) (id : Ident) : (advance >>= fun _ =>
        (node (.name id) [] : Rule .clause Node) >>= fun n => pure (some n)).Leaves c
          (some (.of (.name id) [])) (c.after [t]) := by
      rw [Cursor.after_one hr]
      refine Leaves.bind (.advance hr ?_) (Leaves.bind (.node (hc.past hr).pending) .pure)
      exact passes_clause (hclean.bracket hkind).1 (hclean.bracket hkind).2
    by_cases hq : t.kind = .quotedName
    · refine ⟨some (.of (.name ⟨t.text, true⟩) []), [t], ts, hr, Leaves.bind .peek ?_⟩
      rw [hr]
      dsimp only [List.head?_cons]
      rw [if_pos (by simp [hq])]
      exact hadvance (by simp [hq]) _
    · by_cases hw : (t.isWord && allowed t.key) = true
      · have hkind : t.kind = .word := by
          simpa [Token.isWord] using (Bool.and_eq_true_iff.mp hw).1
        refine ⟨some (.of (.name ⟨t.text, t.kind == .string⟩) []), [t], ts, hr,
          Leaves.bind .peek ?_⟩
        rw [hr]
        dsimp only [List.head?_cons]
        rw [if_neg (by simp [hq]), if_pos (by simp only [Bool.false_and, Bool.false_or, hw])]
        exact hadvance (by simp [hkind]) _
      · refine .here (a := none) (Leaves.bind .peek ?_)
        rw [hr]
        dsimp only [List.head?_cons]
        rw [if_neg (by simp [hq]), if_neg (by simpa using hw)]
        exact .pure

theorem listAfter_runs (allowed : String → Bool) (l : Nat) (x : Option Node) (hc : c.Quiet) :
    Runs (listAfter (name false allowed) l x : Rule .clause (List Node)) c := by
  induction l generalizing c x with
  | zero => exact .here .pure
  | succ l ih =>
    by_cases hk : c.key = ","
    · obtain ⟨t, ts, hr, ht⟩ : ∃ t ts, c.rest = t :: ts ∧ t.key = "," := by
        cases hr : c.rest with
        | nil => simp [Cursor.key, hr] at hk
        | cons t ts => exact ⟨t, ts, rfl, by rwa [Rule.Ensures.key_of_rest hr] at hk⟩
      have hcomma : (accept "," : Rule .clause Bool).Leaves c true (c.after [t]) := by
        rw [Cursor.after_one hr]
        exact .accept_of_eq hr ht (passes_clause (by simp [Token.opens, ht])
          (by simp [Token.closes, ht]))
      refine Runs.bind (show c.rest = [t] ++ ts from hr) hcomma ?_
      rw [Cursor.after_one hr]
      have hq := hc.past hr
      refine Runs.after (a := x) ?_ ?_
      · cases x with
        | none => exact .pure
        | some n => exact Leaves.bind (.takePending hq.pending) .pure
      obtain ⟨y, us, k, hus, hy⟩ := name_runs allowed hq
      refine Runs.bind hus hy ?_
      obtain ⟨ns, vs, k', hvs, hns⟩ := ih y (hq.after hus)
      exact Runs.bind hvs hns (.here .pure)
    · exact .here (Leaves.bind (.accept_of_ne hk) .pure)

/-- Names divided by commas are read up to some place. -/
theorem names_run (allowed : String → Bool) (hc : c.Quiet) :
    Runs (list (name false allowed) : Rule .clause (List Node)) c := by
  obtain ⟨x, us, k, hus, hx⟩ := name_runs allowed hc
  refine Runs.bind hus hx (Runs.after .left ?_)
  exact listAfter_runs allowed _ x (hc.after hus)

/-- Brackets that may stay open are passed as far as what stands in them. -/
theorem opened_runs {b : Bracket} {r : Rule .clause α} (hr : c.rest = t :: ts)
    (ht : t.key = b.opening) (h : Runs r (c.past t ts)) :
    Runs (opened b r : Rule .clause (α × Bool)) c := by
  obtain ⟨a, us, k, hus, ha⟩ := h
  have hopen : c.past? b.opening = some (c.past t ts) := by simp [Cursor.past?, hr, ht]
  have hafter : (c.past t ts).after us = c.after (t :: us) := (Cursor.after_cons hr).symm
  have hrest : c.rest = t :: us ++ k := by rw [hr, List.cons_append, ← hus]; rfl
  cases hclose : (c.after (t :: us)).past? b.closing with
  | none =>
    refine ⟨(a, false), t :: us, k, hrest, ?_⟩
    simp only [Rule.Leaves, opened, hopen]
    rw [show r.run (c.past t ts) = _ from ha, hafter]
    simp only [Rule.andThen, hclose]
  | some f =>
    obtain ⟨u, -, hu, -⟩ := Cursor.past?_eq_some hclose
    rw [Cursor.rest_after hrest] at hu
    have hf : f = c.after (t :: us ++ [u]) := by
      rw [← Cursor.past_after (k := f.rest) (by rw [hrest, hu])]
      simp only [Cursor.past?, Cursor.rest_after hrest, hu] at hclose
      split at hclose
      · exact (Option.some.inj hclose).symm
      · cases hclose
    refine ⟨(a, true), t :: us ++ [u], f.rest, by rw [hrest, hu]; simp, ?_⟩
    simp only [Rule.Leaves, opened, hopen]
    rw [show r.run (c.past t ts) = _ from ha, hafter]
    simp only [Rule.andThen, hclose]
    rw [← hf]

/-- No function of names begins before a text without arrows. -/
theorem lambda_none (hc : c.Quiet) : (lambda R).Leaves c none c := by
  have hnames : Runs (lambdaNames R) c := by
    refine Runs.after .peekKey ?_
    split
    · next hk =>
      cases hr : c.rest with
      | nil => simp [Cursor.key, hr] at hk
      | cons t ts =>
        rw [Rule.Ensures.key_of_rest hr] at hk
        have hopens : t.key = "(" := by simpa using hk
        obtain ⟨p, us, k, hus, hp⟩ := opened_runs (b := .round) hr hopens
          (names_run R.grammar.isName (hc.past hr))
        exact Runs.bind hus hp (.here .pure)
    · obtain ⟨x, us, k, hus, hx⟩ := name_runs R.grammar.isName hc
      exact Runs.bind hus hx (.here .pure)
  obtain ⟨names, us, k, hus, hrun⟩ := hnames
  obtain ⟨harrow, hnamed⟩ := (hc.after hus).key_ne_arrow
  have hnone : (lambda R).Leaves c none (c.back (c.after us)) := by
    refine Leaves.orBack_none (Leaves.bind hrun (Leaves.bind .peekKey ?_))
    generalize (c.after us).key = key at harrow hnamed
    split
    · exact absurd rfl harrow
    · exact absurd rfl hnamed
    · exact .pure
  rwa [hc.back_after] at hnone

/-- One argument of a call. -/
theorem argument_leaves (hR : R.grammar = .oracle) (hc : c.Quiet)
    (hk : c.key ∉ ["DISTINCT", "WITH", "FROM", "SELECT", "VALUES"])
    (hq : (R.query {}).Leaves c none c) (h : R.assignment.Leaves c (some n) d)
    (hs : (R.setOperations n).Leaves d n d) (hd : d.EndsBy expressionEnds) :
    (argument R false).Leaves c (some n) d := by
  have hends : d.EndsBy operandEnds := hd.mono (by decide)
  rw [argument, hR]
  refine Leaves.bind .pure (Leaves.bind (lambda_none hc) ?_)
  refine Leaves.bind (.accept_of_ne fun he => hk (by simp [he])) ?_
  refine Leaves.bind hq (Leaves.bind h (Leaves.bind .pure ?_))
  refine Leaves.bind (a := some n) (Leaves.bind hs .pure) ?_
  refine Leaves.bind (nullTreatment_ends hends) ?_
  refine Leaves.bind (Leaves.bind (.accept_of_ne (hd.key_ne (by decide))) .pure) ?_
  refine Leaves.bind .pure ?_
  exact Leaves.bind (Leaves.bind (.accept_of_ne (hd.key_ne (by decide))) .pure) .pure

/-! ## Operands -/

theorem interval_none (hk : c.key ≠ "INTERVAL") : (interval R true).Leaves c none c :=
  Leaves.orBack_here (Leaves.bind (.accept_of_ne hk) .pure)

theorem typedLiteral_none (hR : R.grammar = .oracle) (hr : c.rest = t :: ts)
    (ht : t.isWord = true → Grammar.oracle.typeName? t.key = none) :
    (typedLiteral R).Leaves c none c := by
  have htype : (if t.isWord = true then Grammar.oracle.typeName? t.key else none) = none := by
    split
    · next hw => exact ht hw
    · rfl
  have hdata : (dataType R true false).Leaves c none c := by
    refine Leaves.orBack_here (Leaves.bind .peek ?_)
    rw [hr, hR]
    dsimp only [List.head?_cons]
    rw [htype]
    exact .pure
  exact Leaves.orBack_here (Leaves.bind .here (Leaves.bind hdata .pure))

/-- What stands between operators: a literal, a call or a column, and nothing after it. -/
theorem unary_of_field (hR : R.grammar = .oracle) (hr : c.rest = t :: ts)
    (hk : t.key ∉ ["+", "-", "NOT", "|/", "||/", "~", "INTERVAL"])
    (ht : t.isWord = true → Grammar.oracle.typeName? t.key = none)
    (h : (field R).Leaves c (some n) d) (hd : d.EndsBy operandEnds) :
    (unary R).Leaves c (some n) d := by
  have hkey := Rule.Ensures.key_of_rest hr
  have hoperand : (operand R).Leaves c (some n) d := by
    refine Leaves.bind (interval_none fun he => hk (by simp [← hkey, he])) ?_
    refine Leaves.bind (typedLiteral_none hR hr ht) ?_
    refine Leaves.bind h (Leaves.bind (columnOps_ends hd) ?_)
    exact Leaves.bind (outerMarked_ends hd) .pure
  refine Leaves.bind .peekKey ?_
  rw [hkey]
  generalize t.key = key at hk
  split
  -- The signs
  iterate 6 exact absurd (by decide) hk
  exact Leaves.bind hoperand (zoned_ends hd)

theorem literal_none (hR : R.grammar = .oracle) (hr : c.rest = t :: ts)
    (hkind : t.kind = .word ∨ t.kind = .quotedName ∨ t.kind = .symbol ∧ t.key = "(")
    (hk : t.key ∉ ["NULL", "TRUE", "FALSE"])
    (hset : namesCharacterSet .oracle t = false) : (literal R).Leaves c none c := by
  have hplain : (plainLiteral R).Leaves c none c := by
    refine Leaves.bind .peek ?_
    rw [hr]
    dsimp only [List.head?_cons]
    obtain hword | hquoted | ⟨hsymbol, hopen⟩ := hkind
    · rw [hword]
      dsimp only
      generalize t.key = key at hk
      split
      iterate 3 exact absurd (by decide) hk
      exact .pure
    · rw [hquoted]
      exact .pure
    · rw [hsymbol, hopen]
      exact .pure
  refine Leaves.bind .peek ?_
  rw [hr, hR]
  dsimp only [List.head?_cons]
  rw [hset, if_neg Bool.false_ne_true]
  exact hplain

theorem parenthesized_none (hk : c.key ≠ "(") : (parenthesized R).Leaves c none c := by
  refine Leaves.bind .peekKey ?_
  rw [if_pos (by simpa using hk)]
  exact .pure

/-! ### Numbers -/

theorem unary_number (hR : R.grammar = .oracle) (hc : c.Quiet) (hr : c.rest = t :: ts)
    (hkind : t.kind = .number) (hk : t.key = "") (hd : (c.past t ts).EndsBy operandEnds) :
    (unary R).Leaves c (some (.of (.number t.text) [])) (c.past t ts) := by
  have hword : t.isWord = false := by simp [Token.isWord, hkind]
  refine unary_of_field hR hr (by simp [hk]) (by simp [hword]) ?_ hd
  have hadvance : (advance : Rule .operand Unit).Leaves c () (c.past t ts) :=
    .advance hr (by simp [Scope.passes, Token.opens, Token.closes, endsOperand, hk])
  refine Leaves.bind (a := some (.of (.number t.text) [])) (Leaves.bind .peek ?_) .pure
  rw [hr]
  dsimp only [List.head?_cons]
  rw [namesCharacterSet, hword, Bool.false_and, Bool.false_and, if_neg Bool.false_ne_true]
  refine Leaves.bind .peek ?_
  rw [hr]
  dsimp only [List.head?_cons]
  rw [hkind]
  exact Leaves.bind hadvance (Leaves.bind (.node (hc.past hr).pending) .pure)

/-! ### Columns -/

/-- Words that begin an operand without a parenthesis after them. -/
def leadingWords : List String :=
  ["ANY", "CASE", "CONNECT_BY_ROOT", "IF", "NEXT", "PRIOR", "DBMS_RANDOM", "@", "SYSDATE"]

/-- The keys of commas, semicolons, arrows and brackets. -/
def markKeys : List String := [",", ";", "->", "=>", "(", "[", "\x7b", ")", "]", "\x7d"]

/-- A token that is a column by itself: a name in quotes, or a word without another meaning. -/
structure IsColumn (t : Token) : Prop where
  kind : t.kind = .quotedName ∧ t.key = "" ∨ t.kind = .word ∧ Grammar.oracle.isName t.key = true ∧
    Grammar.oracle.typeName? t.key = none
  key : t.key ∉ operandKeys ++ leadingWords
  mark : t.key ∉ markKeys
  constant : constant? .oracle t.key = none

namespace IsColumn

theorem key_ne (ht : IsColumn t) {key : String} (h : key ∈ operandKeys) : t.key ≠ key :=
  fun he => ht.key (List.mem_append_left _ (he ▸ h))

theorem ne_of_reserved (ht : IsColumn t) {key : String} (h : Grammar.oracle.isName key = false)
    (hk : key ≠ "") : t.key ≠ key := by
  obtain ⟨-, he⟩ | ⟨-, hname, -⟩ := ht.kind
  · exact he ▸ hk.symm
  · rintro rfl
    exact absurd hname (by simp [h])

theorem noType (ht : IsColumn t) (hw : t.isWord = true) :
    Grammar.oracle.typeName? t.key = none := by
  obtain ⟨hkind, -⟩ | ⟨-, -, htype⟩ := ht.kind
  · simp [Token.isWord, hkind] at hw
  · exact htype

theorem noCharacterSet (ht : IsColumn t) : namesCharacterSet .oracle t = false := by
  obtain ⟨hkind, -⟩ | ⟨-, hname, -⟩ := ht.kind
  · simp [namesCharacterSet, Token.isWord, hkind]
  · simp [namesCharacterSet, hname]

/-- The rule of an operand may pass a column. -/
theorem passes (ht : IsColumn t) (hclean : Clean t) {last : Option Token} :
    Scope.operand.passes last t = true := by
  have hsymbol : t.kind ≠ .symbol := by
    obtain ⟨hkind, -⟩ | ⟨hkind, -⟩ := ht.kind <;> simp [hkind]
  obtain ⟨ho, hc⟩ := hclean.bracket hsymbol
  have has : t.key ≠ "AS" := ht.ne_of_reserved (by decide) (by decide)
  have hdistinct : t.key ≠ "DISTINCT" := ht.ne_of_reserved (by decide) (by decide)
  simp [Scope.passes, endsOperand, ho, hc, has, hdistinct]

end IsColumn

theorem keywordOperand_none {hierarchy : Bool} {key : String} (h : key ∉ leadingWords) :
    keywordOperand R hierarchy key = none := by
  unfold keywordOperand
  split
  iterate 9 exact absurd (by decide) h
  rfl

theorem call_none (hR : R.grammar = .oracle) (hr : c.rest = t :: ts) (ht : IsColumn t)
    (hsecond : c.secondKey ≠ "(") : (callOrMap R).Leaves c none c := by
  have hbrace : c.key ≠ "\x7b" := Rule.Ensures.key_of_rest hr ▸ ht.key_ne (by decide)
  have hleads : t.key ∉ leadingWords := fun hk => ht.key (List.mem_append_right _ hk)
  have hoperand (b : Bool) : (if b then keywordOperand R c.hierarchy t.key else none) = none := by
    rw [keywordOperand_none hleads, ite_self]
  refine Leaves.bind .peekKey ?_
  rw [hR]
  refine Leaves.bind .here (Leaves.bind .peekKey ?_)
  rw [if_neg (by simp [hbrace])]
  refine Leaves.bind .peek ?_
  rw [hr]
  refine Leaves.bind .here ?_
  simp only [hoperand]
  refine Leaves.bind .peekSecondKey ?_
  rw [if_neg (by simpa using hsecond), hR, ht.constant, ite_self]
  exact .pure

theorem name_column (hc : c.Quiet) (hr : c.rest = t :: ts) (ht : IsColumn t) :
    (name false Grammar.oracle.isName : Rule .operand (Option Node)).Leaves c
      (some (.of (.name ⟨t.text, t.kind == .quotedName⟩) [])) (c.past t ts) := by
  have hadvance : (advance : Rule .operand Unit).Leaves c () (c.past t ts) :=
    .advance hr (ht.passes (hc.rest t (by simp [hr])))
  refine Leaves.bind .peek ?_
  rw [hr]
  dsimp only [List.head?_cons]
  obtain ⟨hkind, -⟩ | ⟨hkind, hname, -⟩ := ht.kind
  · rw [if_pos (by simp [hkind]), hkind]
    exact Leaves.bind hadvance (Leaves.bind (.node (hc.past hr).pending) .pure)
  · rw [if_neg (by simp [hkind]), if_pos (by simp [Token.isWord, hkind, hname]), hkind]
    exact Leaves.bind hadvance (Leaves.bind (.node (hc.past hr).pending) .pure)

theorem secondKey_of_rest (hr : c.rest = t :: ts) : c.secondKey = (c.past t ts).key := by
  simp [Cursor.key, Cursor.secondKey, hr, Cursor.past]

theorem unary_column (hR : R.grammar = .oracle) (hc : c.Quiet) (hr : c.rest = t :: ts)
    (ht : IsColumn t) (hd : (c.past t ts).EndsBy operandEnds) :
    (unary R).Leaves c (some (.of (.column [⟨t.text, t.kind == .quotedName⟩]) []))
      (c.past t ts) := by
  have hkey := Rule.Ensures.key_of_rest hr
  have hkeys {keys : List String} (h : keys ⊆ operandKeys) : t.key ∉ keys :=
    fun hk => ht.key (List.mem_append_left _ (h hk))
  refine unary_of_field hR hr (hkeys (by decide)) ht.noType ?_ hd
  refine Leaves.bind (literal_none hR hr ?_ (hkeys (by decide)) ht.noCharacterSet) ?_
  · exact ht.kind.elim (fun h => .inr (.inl h.1)) fun h => .inl h.1
  refine Leaves.bind (parenthesized_none (hkey ▸ ht.key_ne (by decide))) ?_
  refine Leaves.bind (call_none hR hr ht ?_) ?_
  · rw [secondKey_of_rest hr]
    exact hd.key_ne (by decide)
  refine Leaves.bind .peekKey (Leaves.bind .peekSecondKey ?_)
  have hvalues : c.key ≠ "VALUES" := hkey ▸ ht.ne_of_reserved (by decide) (by decide)
  rw [show (c.key == "VALUES" && c.secondKey != "(") = false by simp [hvalues], hR]
  exact Leaves.bind (name_column hc hr ht) .pure

/-! ### Parentheses -/

theorem unary_parens (hR : R.grammar = .oracle) (hc : c.Quiet) (hr : c.rest = t :: ts)
    (ht : t.kind = .symbol ∧ t.key = "(")
    (hq : (R.query {}).Leaves (c.past t ts) none (c.past t ts))
    (h : R.expression.Leaves (c.past t ts) (some n) e) (hn : IsScalar n)
    (hclauses : (R.clauses n).Leaves e n e) (hlast : e.last.map Token.key ≠ some ",")
    (he : e.Quiet) {u : Token} (hu : e.rest = u :: us) (huk : u.key = ")")
    (hd : (e.past u us).EndsBy operandEnds) :
    (unary R).Leaves c (some (.of .paren [n])) (e.past u us) := by
  have hkey : c.key = "(" := (Rule.Ensures.key_of_rest hr).trans ht.2
  have hword : t.isWord = false := by simp [Token.isWord, ht.1]
  have hkeys {keys : List String} (h : "(" ∉ keys) : t.key ∉ keys := ht.2 ▸ h
  have hinner : (parenthesized R).Leaves c (some (.of .paren [n])) (e.past u us) := by
    refine Leaves.bind .peekKey ?_
    rw [if_neg (by simp [hkey])]
    refine Leaves.bind (Leaves.bind (Leaves.within (b := .round) hr ht.2 ?_ hu huk)
      (.takePending (he.past hu).pending)) .pure
    refine Leaves.bind .pending (Leaves.bind hq ?_)
    have hlist : (list R.expression).Leaves (c.past t ts) [n] e :=
      Leaves.list_one h (by rw [Rule.Ensures.key_of_rest hu, huk]; decide)
    refine Leaves.bind hlist (Leaves.bind (a := some n) (Leaves.bind hclauses .pure) ?_)
    refine Leaves.bind .here ?_
    dsimp only
    rw [hn.query, if_neg Bool.false_ne_true]
    split
    · next hsub => exact absurd hsub (hn.subquery _)
    · next hvalues => exact absurd hvalues (hn.values _)
    · rw [if_neg (by simpa using hlast)]
      refine Leaves.bind (.node he.pending) ?_
      rw [(hc.past hr).pending]
      exact .pure
  refine unary_of_field hR hr (hkeys (by decide)) (by simp [hword]) ?_ hd
  refine Leaves.bind (literal_none hR hr (.inr (.inr ht)) (hkeys (by decide)) ?_) ?_
  · simp [namesCharacterSet, hword]
  refine Leaves.bind hinner ?_
  dsimp only
  split
  · next hknown => exact absurd (Option.some.inj hknown) (hn.known _ _)
  · exact .pure

theorem unary_minus (hr : c.rest = t :: ts) (ht : t.key = "-")
    (h : R.unary.Leaves (c.past t ts) (some n) d) (hd : d.pending = []) :
    (unary R).Leaves c (some (.of (.unary .minus) [n])) d := by
  refine Leaves.bind .peekKey ?_
  rw [Rule.Ensures.key_of_rest hr, ht]
  refine Leaves.bind (.advance hr ?_) (Leaves.bind h (Leaves.bind .need ?_))
  · simp [Scope.passes, Token.opens, Token.closes, endsOperand, ht]
  · exact Leaves.bind (.node hd) .pure

/-! ### Calls -/

/-- The functions of arithmetic. -/
def arithmeticCalls : List String := ["MOD", "EXTRACT", "TRUNC"]

/-- The word is spelled in some letter case. -/
structure SpellsWord (t : Token) (word : String) : Prop where
  kind : t.kind = .word
  key : t.key = word
  text : Text.upper t.text = word

/-- The functions of arithmetic are called as any function is. -/
theorem arithmeticCalls_plain {word : String} (h : word ∈ arithmeticCalls) :
    (quantifier? word = none ∧ word ∉ leadingWords ∧ word ∉ operandKeys) ∧
      Grammar.oracle.isName word = true ∧ Grammar.oracle.isCallable word = true ∧
      Grammar.oracle.typeName? word = none := by
  revert word
  decide

/-- The functions of arithmetic whose arguments are divided by commas. -/
def listCalls : List String := ["MOD", "TRUNC"]

theorem listCalls_plain {word : String} (hw : word ∈ listCalls) : word ∈ arithmeticCalls ∧
    word ∉ ["DISTINCT", "WITH", "FROM", "SELECT", "VALUES"] ∧ word ∉ markKeys := by
  revert word
  decide

/-- A node that is no call of a known function has nothing to say about nulls. -/
theorem liftNulls_of_ne (h : ∀ kind name, n.head ≠ .call (.known kind name)) :
    liftNulls n = n := by
  unfold liftNulls
  split
  · exact absurd rfl (h _ _)
  · rfl

theorem addComments_nil : n.addComments [] = n := by
  cases n
  simp [Node.addComments]

theorem unary_call (hR : R.grammar = .oracle) (hc : c.Quiet) (hr : c.rest = t :: u :: ts)
    {word : String} (hw : word ∈ arithmeticCalls) (ht : SpellsWord t word) (hu : u.key = "(")
    (hbody : (callBody R ⟨t.text, false⟩ false).Leaves (c.past t (u :: ts)) n d)
    (hn : ∀ kind name, n.head ≠ .call (.known kind name)) (hp : d.pending = [])
    (hd : d.EndsBy operandEnds) : (unary R).Leaves c (some n) d := by
  obtain ⟨⟨hquantifier, hleads, hkeys⟩, hname, hcallable, htype⟩ := arithmeticCalls_plain hw
  have hkey : c.key = word := (Rule.Ensures.key_of_rest hr).trans ht.key
  have hclean := hc.rest t (by simp [hr])
  have hne {keys : List String} (h : keys ⊆ operandKeys) : t.key ∉ keys :=
    fun hk => hkeys (h (ht.key ▸ hk))
  have hcall : (callAt R {} t).Leaves c (some n) d := by
    have hwindow : (windowed R (n.addComments t.comments)).Leaves d n d := by
      have h := windowed_ends (R := R) (n := n.addComments t.comments) hd
      rw [hclean.comments, addComments_nil] at h ⊢
      rwa [liftNulls_of_ne hn] at h
    have hplain (b : Bool) : (if b then quantifier? t.key else none) = none := by
      rw [ht.key, hquantifier, ite_self]
    refine Leaves.bind .here (Leaves.bind (.advance hr ?_) (Leaves.bind .peekSecondKey ?_))
    · obtain ⟨ho, hcl⟩ := hclean.bracket (by simp [ht.kind])
      have has : word ≠ "AS" := by rintro rfl; exact absurd hname (by decide)
      have hdistinct : word ≠ "DISTINCT" := by rintro rfl; exact absurd hname (by decide)
      simp [Scope.passes, endsOperand, ho, hcl, ht.key, has, hdistinct]
    · simp only [hplain]
      rw [ht.kind]
      exact Leaves.bind hbody (Leaves.bind (.takePending hp) (Leaves.bind hwindow .pure))
  have hplain : (callOrMap R).Leaves c (some n) d := by
    refine Leaves.bind .peekKey ?_
    rw [hR]
    have hbrace : c.key ≠ "\x7b" := by
      rw [hkey]
      exact fun he => hkeys (by simp [he, operandKeys])
    refine Leaves.bind .here (Leaves.bind .peekKey ?_)
    rw [if_neg (by simp [hbrace])]
    refine Leaves.bind .peek ?_
    rw [hr]
    refine Leaves.bind .here ?_
    have hoperand (b : Bool) : (if b then keywordOperand R c.hierarchy t.key else none) = none := by
      rw [ht.key, keywordOperand_none hleads, ite_self]
    simp only [hoperand]
    refine Leaves.bind .peekSecondKey ?_
    have hsecond : c.secondKey = "(" := by simp [Cursor.secondKey, hr, hu]
    have hcallable : (t.kind == .quotedName || t.isWord && R.grammar.isCallable t.key) = true := by
      simp [Token.isWord, ht.kind, hR, ht.key, hcallable]
    simp only [hsecond, beq_self_eq_true, if_true, Bool.false_eq_true, if_false, hcallable]
    exact hcall
  have hset : namesCharacterSet .oracle t = false := by simp [namesCharacterSet, ht.key, hname]
  refine unary_of_field hR hr (hne (by decide)) (fun _ => ht.key ▸ htype) ?_ hd
  refine Leaves.bind (literal_none hR hr (.inl ht.kind) (hne (by decide)) hset) ?_
  refine Leaves.bind (parenthesized_none ?_) (Leaves.bind hplain .pure)
  rw [hkey]
  exact fun he => hkeys (by simp [he, operandKeys])

theorem callBody_known (hR : R.grammar = .oracle) {name word : String} {args : List Node}
    (hw : word ∈ listCalls) (hname : Text.upper name = word) (hr : c.rest = t :: ts)
    (ht : t.key = "(") (hargs : (list (argument R false)).Leaves (c.past t ts) args e)
    (hcall : callOf .oracle ⟨name, false⟩ args = some n) {u : Token} (hu : e.rest = u :: us)
    (huk : u.key = ")") : (callBody R ⟨name, false⟩ false).Leaves c n (e.past u us) := by
  have hknown : ownBody? R word = none ∧ isKnownFunction .oracle word = true := by
    simp only [listCalls, List.mem_cons, List.not_mem_nil, or_false] at hw
    obtain rfl | rfl := hw
    · exact ⟨by unfold ownBody?; rw [hR]; rfl, by decide⟩
    · exact ⟨by unfold ownBody?; rw [hR]; rfl, by decide⟩
  unfold callBody
  simp only [hname, hknown.1, hR, hknown.2, Bool.false_eq_true, if_false, Bool.not_false,
    Bool.and_true, if_true]
  refine Leaves.within (b := .round) hr ht (Leaves.bind hargs ?_) hu huk
  rw [hcall]
  exact .need

/-- The parts of a date that EXTRACT takes. -/
def dateParts : List String :=
  ["YEAR", "MONTH", "DAY", "HOUR", "MINUTE", "SECOND", "TIMEZONE_HOUR", "TIMEZONE_MINUTE",
    "TIMEZONE_REGION", "TIMEZONE_ABBR"]

theorem callBody_extract (hR : R.grammar = .oracle) {name : String}
    (hname : Text.upper name = "EXTRACT") {l p f r : Token} {part : String} (hc : c.Quiet) (hr : c.rest = l :: p :: f :: ts)
    (hl : l.key = "(") (hp : SpellsWord p part) (hpart : part ∈ dateParts) (hf : f.key = "FROM")
    (h : R.bitwise.Leaves (((c.past l (p :: f :: ts)).past p (f :: ts)).past f ts) (some n) e)
    (he : e.Quiet) (hend : e.rest = r :: us) (hrk : r.key = ")") :
    (callBody R ⟨name, false⟩ false).Leaves c (.of .extract [.of (.keyword part) [], n])
      (e.past r us) := by
  have hown : ownBody? R "EXTRACT" = some (wrapped (extractBody R)) := by
    unfold ownBody?
    rw [hR]
    rfl
  unfold callBody
  simp only [hname, hown, Bool.false_eq_true, if_false]
  refine Leaves.within (b := .round) hr hl ?_ hend hrk
  have hl' := hc.past hr
  have hp' : ((c.past l (p :: f :: ts)).past p (f :: ts)).Quiet := hl'.past rfl
  have hunit : p.key ∉ ["SELECT", "NOT", "%"] := by
    rw [hp.key]
    exact (by decide : ∀ part ∈ dateParts, part ∉ ["SELECT", "NOT", "%"]) part hpart
  have hpass : Scope.clause.passes (c.past l (p :: f :: ts)).last p = true := by
    obtain ⟨ho, hcl⟩ := (hl'.rest p (by simp [Cursor.past])).bracket (by simp [hp.kind])
    exact passes_clause ho hcl
  have hstring : stringLiteral.Leaves (c.past l (p :: f :: ts)) none
      (c.past l (p :: f :: ts)) := by
    refine Leaves.bind .peek ?_
    dsimp only [Cursor.past, List.head?_cons]
    rw [if_neg (by simp [hp.kind])]
    exact .pure
  refine Leaves.bind hstring (Leaves.bind .peek ?_)
  dsimp only [Cursor.past, List.head?_cons]
  rw [if_pos (by simpa [isAnyName, hp.kind] using hunit), hp.text]
  refine Leaves.bind (.advance rfl hpass) (Leaves.bind (.node hp'.pending) ?_)
  refine Leaves.bind (.accept_of_eq rfl hf ?_) ?_
  · exact passes_clause (by simp [Token.opens, hf]) (by simp [Token.closes, hf])
  exact Leaves.bind h (Leaves.bind .need (.node he.pending))

/-! ## Phrases -/

/-- What a rule reads: an operand with its signs, or a product of operands. -/
inductive Level where
  | operand
  | product

/-- The mark has the key. -/
structure IsMark (t : Token) (key : String) : Prop where
  kind : t.kind = .symbol
  key : t.key = key

/-- The operators of products by their marks. -/
def factors : List (String × BinaryOp) := [("*", .multiply), ("/", .divide false false)]

theorem rules_grammar {g : Grammar} : (rules g m).grammar = g := by
  cases m <;> rfl

/-- The chain of a product: it stops where an expression ends, and takes an operator with the
operand after it. -/
structure FactorSteps (R : Rules) (step : Option Node → Rule .operand (Option (Option Node))) :
    Prop where
  chain : factor R = (power R >>= fun first => chain step first)
  stops : ∀ {c : Cursor} {x : Option Node}, c.EndsBy expressionEnds → (step x).Leaves c none c
  takes : ∀ {c d : Cursor} {o : Token} {op : BinaryOp} {ts : List Token} {a b : Node}, c.Quiet →
    c.rest = o :: ts → (o.key, op) ∈ factors → (power R).Leaves (c.past o ts) (some b) d →
    d.pending = [] → (step (some a)).Leaves c (some (some (.of (.binary op) [a, b]))) d

theorem factorSteps (hR : R.grammar = .oracle) : ∃ step, FactorSteps R step := by
  refine ⟨_, rfl, ?_, ?_⟩
  · intro c x h
    refine Leaves.bind .peekKey ?_
    rw [hR, h.lookup_key (by decide)]
    exact .pure
  · intro c d o op ts a b hc hr hop hb hd
    have hlookup : (factorOperators .oracle).lookup o.key = some op := by
      simp only [factors, List.mem_cons, List.not_mem_nil, or_false, Prod.mk.injEq] at hop
      obtain ⟨hk, rfl⟩ | ⟨hk, rfl⟩ := hop <;> rw [hk] <;> rfl
    have hpass : Scope.operand.passes c.last o = true := by
      simp only [factors, List.mem_cons, List.not_mem_nil, or_false, Prod.mk.injEq] at hop
      obtain ⟨hk, -⟩ | ⟨hk, -⟩ := hop <;>
        simp [Scope.passes, Token.opens, Token.closes, endsOperand, hk]
    refine Leaves.bind .peekKey ?_
    rw [hR, Rule.Ensures.key_of_rest hr, hlookup]
    refine Leaves.orBack_some (Leaves.bind .peekKey (Leaves.bind (.advance hr hpass) ?_))
    refine Leaves.bind .pending (Leaves.bind hb (Leaves.bind .need ?_))
    exact Leaves.bind (.nodeWith (hc.past hr).pending hd) .pure

/-- The tokens are read as the node: an operand by the rule of operands, and a product from its
first operand on, one step of the chain after another. -/
structure IsRead (l : Level) (ts : List Token) (n : Node) : Prop where
  operand : l = .operand → ∀ {m : Nat} {c : Cursor} {k : List Token}, ts.length ≤ m → c.Quiet →
    c.rest = ts ++ k → (c.after ts).EndsBy operandEnds →
    (unary (rules .oracle m)).Leaves c (some n) (c.after ts)
  product : l = .product → ∀ {m : Nat} {c : Cursor} {k : List Token}, ts.length ≤ m → c.Quiet →
    c.rest = ts ++ k → (c.after ts).EndsBy operandEnds →
    ∀ {step : Option Node → Rule .operand (Option (Option Node))},
    FactorSteps (rules .oracle m) step → ∃ us vs first j, ts = us ++ vs ∧ j ≤ vs.length ∧
      (power (rules .oracle m)).Leaves c (some first) (c.after us) ∧
      ∀ {i : Nat} {x : Option Node} {d : Cursor},
        (iterate step i (some n)).Leaves (c.after ts) x d →
        (iterate step (j + i) (some first)).Leaves (c.after us) x d

/-- A mark at which an expression ends follows the cursor. -/
theorem Cursor.EndsBy.of_mark {keys : List String} {key : String} (hr : c.rest = t :: ts)
    (ht : IsMark t key) (hk : key ∈ keys) : c.EndsBy keys := by
  intro u hu
  rw [hr] at hu
  obtain rfl := Option.some.inj hu
  exact ⟨ht.kind, ht.key ▸ hk⟩

namespace IsRead

/-- A product is read up to where an expression ends. -/
theorem factor (h : IsRead .product ts n) (hm : ts.length ≤ m) (hc : c.Quiet)
    (hr : c.rest = ts ++ k) (hend : (c.after ts).EndsBy expressionEnds) :
    (factor (rules .oracle m)).Leaves c (some n) (c.after ts) := by
  obtain ⟨step, hstep⟩ := factorSteps (R := rules .oracle m) rules_grammar
  obtain ⟨us, vs, first, j, rfl, hj, hfirst, hrest⟩ :=
    h.product rfl hm hc hr (hend.mono (by decide)) hstep
  rw [hstep.chain]
  refine Leaves.bind hfirst (Leaves.bind .left ?_)
  rw [List.append_assoc] at hr
  rw [Cursor.rest_after hr]
  obtain ⟨i, hi⟩ : ∃ i, (vs ++ k).length + 1 = j + (i + 1) :=
    ⟨(vs ++ k).length - j, by simp only [List.length_append]; omega⟩
  rw [hi]
  exact hrest (Leaves.bind (hstep.stops hend) .pure)

theorem expression (h : IsRead .product ts n) (hm : ts.length ≤ m) (hc : c.Quiet)
    (hr : c.rest = ts ++ k) (hend : (c.after ts).EndsBy expressionEnds) :
    (rules .oracle (m + 1)).expression.Leaves c (some n) (c.after ts) :=
  expression_leaves rules_grammar (h.factor hm hc hr hend) hend

/-- An operand by itself is a product. -/
theorem one (h : IsRead .operand ts n) : IsRead .product ts n := by
  refine ⟨by rintro ⟨⟩, fun _ m c k hm hc hr hend step _ => ?_⟩
  refine ⟨ts, [], n, 0, by simp, Nat.le_refl _, ?_, fun h => by rwa [Nat.zero_add]⟩
  exact power_leaves rules_grammar (h.operand rfl hm hc hr hend)

end IsRead

theorem Clean.of_mark {key : String} (ht : IsMark t key) (hkey : key ∉ [";", "->", "=>"])
    (hc : t.comments = []) : Clean t := by
  simp only [← ht.key, List.mem_cons, List.not_mem_nil, or_false, not_or] at hkey
  exact ⟨hc, hkey.1, hkey.2, fun hkind => absurd ht.kind hkind⟩

theorem Clean.of_key (hkey : t.key ∉ markKeys) (hc : t.comments = []) : Clean t := by
  simp only [markKeys, List.mem_cons, List.not_mem_nil, or_false, not_or] at hkey
  exact ⟨hc, hkey.2.1, ⟨hkey.2.2.1, hkey.2.2.2.1⟩,
    fun _ => by simp [Token.opens, Token.closes, hkey]⟩

/-- The tokens are an operand or a product that is read as the node and can stand in an expression:
they begin no query, end with no comma, and have no meaning besides. -/
structure IsPhrase (l : Level) (ts : List Token) (n : Node) : Prop where
  isRead : IsRead l ts n
  scalar : IsScalar n
  first : ∃ t us, ts = t :: us ∧ t.key ∉ ["DISTINCT", "WITH", "FROM", "SELECT", "VALUES"]
  last : ∃ us t, ts = us ++ [t] ∧ t.key ≠ ","
  clean : (∀ t ∈ ts, t.comments = []) → ∀ t ∈ ts, Clean t

namespace IsPhrase

variable {l : Level}

theorem query_none (h : IsPhrase l ts n) (hr : c.rest = ts ++ k) :
    ((rules .oracle (m + 1)).query {}).Leaves c none c := by
  obtain ⟨t, us, rfl, ht⟩ := h.first
  refine Parser.query_none ?_
  rw [Rule.Ensures.key_of_rest hr]
  exact fun hk => ht (List.mem_cons_of_mem _ hk)

theorem last_after (h : IsPhrase l ts n) (hr : c.rest = ts ++ k) :
    (c.after ts).last.map Token.key ≠ some "," := by
  obtain ⟨us, t, rfl, ht⟩ := h.last
  rw [List.append_assoc] at hr
  rw [← Cursor.past_after hr]
  simpa [Cursor.past] using ht

/-- A product is read as an argument of a call. -/
theorem argument (h : IsPhrase .product ts n) (hm : ts.length ≤ m) (hc : c.Quiet)
    (hr : c.rest = ts ++ k) (hend : (c.after ts).EndsBy expressionEnds) :
    (argument (rules .oracle (m + 1)) false).Leaves c (some n) (c.after ts) := by
  have hquery := h.query_none (m := m) hr
  obtain ⟨t, us, rfl, ht⟩ := h.first
  refine argument_leaves rules_grammar hc (Rule.Ensures.key_of_rest hr ▸ ht) hquery ?_ ?_ hend
  · exact assignment_leaves rules_grammar (h.isRead.factor hm hc hr hend) hend
  · exact setOperations_ends hend h.scalar

/-- A phrase of one token that begins nothing else. -/
theorem of_token (hn : IsScalar n) (hkey : t.key ∉ ["DISTINCT", "WITH", "FROM", "SELECT", "VALUES"])
    (hmark : t.key ∉ markKeys) (hread : ∀ {m : Nat} {c : Cursor} {k : List Token}, c.Quiet →
      c.rest = t :: k → (c.past t k).EndsBy operandEnds →
      (unary (rules .oracle m)).Leaves c (some n) (c.past t k)) : IsPhrase .operand [t] n where
  isRead := by
    refine ⟨fun _ m c k hm hc hr hend => ?_, by rintro ⟨⟩⟩
    rw [Cursor.after_one hr] at hend ⊢
    exact hread hc hr hend
  scalar := hn
  first := ⟨t, [], rfl, hkey⟩
  last := ⟨[], t, rfl, fun he => hmark (by simp [he, markKeys])⟩
  clean hc := by
    simp only [List.forall_mem_singleton] at hc ⊢
    exact .of_key hmark hc

theorem number (hkind : t.kind = .number) (hkey : t.key = "") :
    IsPhrase .operand [t] (.of (.number t.text) []) :=
  .of_token (.of_head rfl) (by rw [hkey]; decide) (by rw [hkey]; decide)
    fun hc hr hend => unary_number rules_grammar hc hr hkind hkey hend

theorem column (ht : IsColumn t) :
    IsPhrase .operand [t] (.of (.column [⟨t.text, t.kind == .quotedName⟩]) []) := by
  refine .of_token (.of_head rfl) ?_ ht.mark
    fun hc hr hend => unary_column rules_grammar hc hr ht hend
  simp only [List.mem_cons, List.not_mem_nil, or_false, not_or]
  refine ⟨?_, ?_, ?_, ?_, ?_⟩ <;> exact ht.ne_of_reserved (by decide) (by decide)

end IsPhrase

namespace IsRead

theorem minus (ht : IsMark t "-") (h : IsRead .operand ts n) :
    IsRead .operand (t :: ts) (.of (.unary .minus) [n]) := by
  refine ⟨fun _ m c k hm hc hr hend => ?_, by rintro ⟨⟩⟩
  rw [List.cons_append] at hr
  obtain ⟨m, rfl⟩ := Nat.exists_eq_add_of_lt (Nat.lt_of_lt_of_le (Nat.succ_pos _) hm)
  rw [Nat.zero_add] at hm ⊢
  rw [Cursor.after_cons hr] at hend ⊢
  refine unary_minus hr ht.key (h.operand rfl (by simpa using hm) (hc.past hr) rfl hend) ?_
  exact ((hc.past hr).after rfl).pending

theorem paren {l r : Token} (hl : IsMark l "(") (hr : IsMark r ")")
    (h : IsPhrase .product ts n) : IsRead .operand (l :: (ts ++ [r])) (.of .paren [n]) := by
  refine ⟨fun _ m c k hm hc hrest hend => ?_, by rintro ⟨⟩⟩
  obtain ⟨m, rfl⟩ := Nat.exists_eq_add_of_lt (Nat.lt_of_lt_of_le (Nat.succ_pos _) hm)
  rw [Nat.zero_add] at hm ⊢
  have hlen : ts.length ≤ m := by
    simp only [List.length_cons, List.length_append, List.length_nil] at hm
    omega
  have hrest : c.rest = l :: (ts ++ r :: k) := by simpa using hrest
  have hinner : (c.past l (ts ++ r :: k)).rest = ts ++ r :: k := rfl
  have hclose := Cursor.rest_after hinner
  have hexpression := h.isRead.expression hlen (hc.past hrest) hinner
    (.of_mark hclose hr (by decide))
  have hclauses : ((rules .oracle (m + 1)).clauses n).Leaves ((c.past l (ts ++ r :: k)).after ts) n
      ((c.past l (ts ++ r :: k)).after ts) := clauses_leaves h.scalar
  rw [Cursor.after_cons hrest, ← Cursor.past_after hinner] at hend ⊢
  exact unary_parens rules_grammar hc hrest ⟨hl.kind, hl.key⟩ (h.query_none hinner) hexpression
    h.scalar hclauses (h.last_after hinner) ((hc.past hrest).after hinner) hclose hr.key hend

/-- A call of a function of arithmetic with one argument. -/
theorem call_one {f l r : Token} {word : String} {a : Node} (hw : word ∈ listCalls)
    (hf : SpellsWord f word) (hl : IsMark l "(") (ha : IsPhrase .product ts a) (hr : IsMark r ")")
    (hcall : callOf .oracle ⟨f.text, false⟩ [a] = some n)
    (hn : IsScalar n) :
    IsRead .operand (f :: l :: (ts ++ [r])) n := by
  refine ⟨fun _ m c k hm hc hrest hend => ?_, by rintro ⟨⟩⟩
  obtain ⟨m, rfl⟩ := Nat.exists_eq_add_of_lt (Nat.lt_of_lt_of_le (Nat.succ_pos _) hm)
  rw [Nat.zero_add] at hm ⊢
  simp only [List.length_cons, List.length_append, List.length_nil] at hm
  have hrest : c.rest = f :: l :: (ts ++ r :: k) := by simpa using hrest
  -- The cursor before the argument
  obtain ⟨c₁, hc₁⟩ : ∃ c₁, (c.past f (l :: (ts ++ r :: k))).past l (ts ++ r :: k) = c₁ := ⟨_, rfl⟩
  have hr₁ : c₁.rest = ts ++ r :: k := hc₁ ▸ rfl
  have hq₁ : c₁.Quiet := hc₁ ▸ (hc.past hrest).past rfl
  have hclose := Cursor.rest_after hr₁
  have hafter : c.after (f :: l :: (ts ++ [r])) = (c₁.after ts).past r k := by
    rw [Cursor.after_cons hrest, Cursor.after_cons rfl, hc₁, Cursor.past_after hr₁]
  have hargs : (list (Parser.argument (rules .oracle (m + 1)) false)).Leaves c₁ [a]
      (c₁.after ts) := by
    refine Leaves.list_one (ha.argument (by omega) hq₁ hr₁ (.of_mark hclose hr (by decide))) ?_
    rw [Rule.Ensures.key_of_rest hclose, hr.key]
    decide
  rw [hafter] at hend ⊢
  refine unary_call rules_grammar hc hrest (listCalls_plain hw).1 hf hl.key ?_ hn.known
    ((hq₁.after hr₁).past hclose).pending hend
  exact callBody_known rules_grammar hw hf.text rfl hl.key (hc₁ ▸ hargs) hcall hclose hr.key

/-- A call of a function of arithmetic with two arguments. -/
theorem call_two {f l o r : Token} {word : String} {a b : Node} (hw : word ∈ listCalls)
    (hf : SpellsWord f word) (hl : IsMark l "(") (ha : IsPhrase .product ts a) (ho : IsMark o ",")
    (hb : IsPhrase .product us b) (hr : IsMark r ")")
    (hcall : callOf .oracle ⟨f.text, false⟩ [a, b] = some n)
    (hn : IsScalar n) :
    IsRead .operand (f :: l :: (ts ++ o :: (us ++ [r]))) n := by
  refine ⟨fun _ m c k hm hc hrest hend => ?_, by rintro ⟨⟩⟩
  obtain ⟨m, rfl⟩ := Nat.exists_eq_add_of_lt (Nat.lt_of_lt_of_le (Nat.succ_pos _) hm)
  rw [Nat.zero_add] at hm ⊢
  simp only [List.length_cons, List.length_append, List.length_nil] at hm
  have hrest : c.rest = f :: l :: (ts ++ o :: (us ++ r :: k)) := by simpa using hrest
  -- The cursors before the first and before the second argument
  obtain ⟨c₁, hc₁⟩ : ∃ c₁, (c.past f (l :: (ts ++ o :: (us ++ r :: k)))).past l
    (ts ++ o :: (us ++ r :: k)) = c₁ := ⟨_, rfl⟩
  have hr₁ : c₁.rest = ts ++ o :: (us ++ r :: k) := hc₁ ▸ rfl
  have hq₁ : c₁.Quiet := hc₁ ▸ (hc.past hrest).past rfl
  have hcomma := Cursor.rest_after hr₁
  obtain ⟨c₂, hc₂⟩ : ∃ c₂, (c₁.after ts).past o (us ++ r :: k) = c₂ := ⟨_, rfl⟩
  have hr₂ : c₂.rest = us ++ r :: k := hc₂ ▸ rfl
  have hq₂ : c₂.Quiet := hc₂ ▸ (hq₁.after hr₁).past hcomma
  have hclose := Cursor.rest_after hr₂
  have hafter : c.after (f :: l :: (ts ++ o :: (us ++ [r]))) = (c₂.after us).past r k := by
    rw [Cursor.after_cons hrest, Cursor.after_cons rfl, hc₁, Cursor.after_append,
      Cursor.after_cons hcomma, hc₂, Cursor.past_after hr₂]
  have hargs : (list (Parser.argument (rules .oracle (m + 1)) false)).Leaves c₁ [a, b]
      (c₂.after us) := by
    refine Leaves.list_two (ha.argument (by omega) hq₁ hr₁ (.of_mark hcomma ho (by decide)))
      hcomma ho.key ?_ ?_ ?_ ?_
    · exact passes_clause (by simp [Token.opens, ho.key]) (by simp [Token.closes, ho.key])
    · exact ((hq₁.after hr₁).rest o (by simp [hcomma])).comments
    · rw [hc₂]
      exact hb.argument (by omega) hq₂ hr₂ (.of_mark hclose hr (by decide))
    · rw [Rule.Ensures.key_of_rest hclose, hr.key]
      decide
  rw [hafter] at hend ⊢
  refine unary_call rules_grammar hc hrest (listCalls_plain hw).1 hf hl.key ?_ hn.known
    ((hq₂.after hr₂).past hclose).pending hend
  exact callBody_known rules_grammar hw hf.text rfl hl.key (hc₁ ▸ hargs) hcall hclose hr.key

theorem extract {f l p o r : Token} {part : String} (hf : SpellsWord f "EXTRACT")
    (hl : IsMark l "(") (hp : SpellsWord p part) (hpart : part ∈ dateParts)
    (ho : SpellsWord o "FROM") (h : IsRead .product ts n) (hr : IsMark r ")") :
    IsRead .operand (f :: l :: p :: o :: (ts ++ [r]))
      (.of .extract [.of (.keyword part) [], n]) := by
  refine ⟨fun _ m c k hm hc hrest hend => ?_, by rintro ⟨⟩⟩
  obtain ⟨m, rfl⟩ := Nat.exists_eq_add_of_lt (Nat.lt_of_lt_of_le (Nat.succ_pos _) hm)
  rw [Nat.zero_add] at hm ⊢
  simp only [List.length_cons, List.length_append, List.length_nil] at hm
  have hrest : c.rest = f :: l :: p :: o :: (ts ++ r :: k) := by simpa using hrest
  -- The cursor before the date
  obtain ⟨c₁, hc₁⟩ : ∃ c₁, (((c.past f (l :: p :: o :: (ts ++ r :: k))).past l
    (p :: o :: (ts ++ r :: k))).past p (o :: (ts ++ r :: k))).past o (ts ++ r :: k) = c₁ :=
      ⟨_, rfl⟩
  have hr₁ : c₁.rest = ts ++ r :: k := hc₁ ▸ rfl
  have hq₁ : c₁.Quiet := hc₁ ▸ (((hc.past hrest).past rfl).past rfl).past rfl
  have hclose := Cursor.rest_after hr₁
  have hafter : c.after (f :: l :: p :: o :: (ts ++ [r])) = (c₁.after ts).past r k := by
    rw [Cursor.after_cons hrest, Cursor.after_cons rfl, Cursor.after_cons rfl, Cursor.after_cons rfl,
      hc₁, Cursor.past_after hr₁]
  have hends : (c₁.after ts).EndsBy expressionEnds := .of_mark hclose hr (by decide)
  have hdate : (rules .oracle (m + 1)).bitwise.Leaves c₁ (some n) (c₁.after ts) :=
    bitwise_leaves rules_grammar (h.factor (by omega) hq₁ hr₁ hends) hends
  rw [hafter] at hend ⊢
  refine unary_call rules_grammar hc hrest (by decide) hf hl.key ?_ (by simp [Node.of, Node.head])
    ((hq₁.after hr₁).past hclose).pending hend
  exact callBody_extract rules_grammar hf.text (hc.past hrest) rfl hl.key hp hpart ho.key
    (hc₁ ▸ hdate) (hq₁.after hr₁) hclose hr.key

theorem step {o : Token} {op : BinaryOp} {a b : Node} (ha : IsRead .product ts a)
    (ho : o.kind = .symbol) (hop : (o.key, op) ∈ factors) (hb : IsRead .operand us b) :
    IsRead .product (ts ++ o :: us) (.of (.binary op) [a, b]) := by
  refine ⟨by rintro ⟨⟩, fun _ m c k hm hc hr hend step hstep => ?_⟩
  rw [List.length_append, List.length_cons] at hm
  have hr : c.rest = ts ++ o :: (us ++ k) := by simpa using hr
  have hmark := Cursor.rest_after hr
  have hkey : o.key ∈ operandEnds := by
    simp only [factors, List.mem_cons, List.not_mem_nil, or_false, Prod.mk.injEq] at hop
    obtain ⟨hk, -⟩ | ⟨hk, -⟩ := hop <;> rw [hk] <;> decide
  obtain ⟨vs, ws, first, j, rfl, hj, hfirst, hsteps⟩ :=
    ha.product rfl (by omega) hc hr (.of_mark hmark ⟨ho, rfl⟩ hkey) hstep
  have hc' := (hc.after hr).past hmark
  rw [Cursor.after_append, Cursor.after_cons hmark] at hend ⊢
  refine ⟨vs, ws ++ o :: us, first, j + 1, by simp, by simp; omega, hfirst, fun {i x d} hx => ?_⟩
  rw [Nat.add_assoc, Nat.add_comm 1 i]
  refine hsteps (Leaves.bind (hstep.takes (hc.after hr) hmark hop ?_ (hc'.after rfl).pending) hx)
  exact power_leaves rules_grammar (hb.operand rfl (by omega) hc' rfl hend)

end IsRead

namespace IsPhrase

theorem minus (ht : IsMark t "-") (h : IsPhrase .operand ts n) :
    IsPhrase .operand (t :: ts) (.of (.unary .minus) [n]) where
  isRead := .minus ht h.isRead
  scalar := .of_head rfl
  first := ⟨t, ts, rfl, by rw [ht.key]; decide⟩
  last := by
    obtain ⟨us, u, rfl, hu⟩ := h.last
    exact ⟨t :: us, u, rfl, hu⟩
  clean hc := by
    simp only [List.forall_mem_cons] at hc ⊢
    exact ⟨.of_mark ht (by decide) hc.1, h.clean hc.2⟩

theorem paren {l r : Token} (hl : IsMark l "(") (hr : IsMark r ")") (h : IsPhrase .product ts n) :
    IsPhrase .operand (l :: (ts ++ [r])) (.of .paren [n]) where
  isRead := .paren hl hr h
  scalar := .of_head rfl
  first := ⟨l, ts ++ [r], rfl, by rw [hl.key]; decide⟩
  last := ⟨l :: ts, r, rfl, by rw [hr.key]; decide⟩
  clean hc := by
    simp only [List.forall_mem_cons, List.forall_mem_append] at hc ⊢
    exact ⟨.of_mark hl (by decide) hc.1, h.clean hc.2.1, .of_mark hr (by decide) hc.2.2.1, by simp⟩

theorem call_one {f l r : Token} {word : String} {a : Node} (hw : word ∈ listCalls)
    (hf : SpellsWord f word) (hl : IsMark l "(") (ha : IsPhrase .product ts a) (hr : IsMark r ")")
    (hcall : callOf .oracle ⟨f.text, false⟩ [a] = some n) (hn : IsScalar n) :
    IsPhrase .operand (f :: l :: (ts ++ [r])) n where
  isRead := .call_one hw hf hl ha hr hcall hn
  scalar := hn
  first := ⟨f, _, rfl, hf.key ▸ (listCalls_plain hw).2.1⟩
  last := ⟨f :: l :: ts, r, rfl, by rw [hr.key]; decide⟩
  clean hc := by
    simp only [List.forall_mem_cons, List.forall_mem_append] at hc ⊢
    exact ⟨.of_key (hf.key ▸ (listCalls_plain hw).2.2) hc.1,
      .of_mark hl (by decide) hc.2.1, ha.clean hc.2.2.1, .of_mark hr (by decide) hc.2.2.2.1,
      by simp⟩

theorem call_two {f l o r : Token} {word : String} {a b : Node} (hw : word ∈ listCalls)
    (hf : SpellsWord f word) (hl : IsMark l "(") (ha : IsPhrase .product ts a) (ho : IsMark o ",")
    (hb : IsPhrase .product us b) (hr : IsMark r ")")
    (hcall : callOf .oracle ⟨f.text, false⟩ [a, b] = some n) (hn : IsScalar n) :
    IsPhrase .operand (f :: l :: (ts ++ o :: (us ++ [r]))) n where
  isRead := .call_two hw hf hl ha ho hb hr hcall hn
  scalar := hn
  first := ⟨f, _, rfl, hf.key ▸ (listCalls_plain hw).2.1⟩
  last := ⟨f :: l :: (ts ++ o :: us), r, by simp, by rw [hr.key]; decide⟩
  clean hc := by
    simp only [List.forall_mem_cons, List.forall_mem_append] at hc ⊢
    obtain ⟨hcf, hcl, hca, hco, hcb, hcr, -⟩ := hc
    exact ⟨.of_key (hf.key ▸ (listCalls_plain hw).2.2) hcf,
      .of_mark hl (by decide) hcl, ha.clean hca, .of_mark ho (by decide) hco, hb.clean hcb,
      .of_mark hr (by decide) hcr, by simp⟩

theorem modulo {f l o r : Token} {a b : Node} (hf : SpellsWord f "MOD") (hl : IsMark l "(")
    (ha : IsPhrase .product ts a) (ho : IsMark o ",") (hb : IsPhrase .product us b)
    (hr : IsMark r ")") : IsPhrase .operand (f :: l :: (ts ++ o :: (us ++ [r])))
      (.of (.binary .modulo) [Calls.guardOperand a, Calls.guardOperand b]) := by
  refine .call_two (by decide) hf hl ha ho hb hr ?_ (.of_head rfl)
  unfold callOf
  dsimp only
  rw [hf.text]
  rfl

theorem extract {f l p o r : Token} {part : String} (hf : SpellsWord f "EXTRACT")
    (hl : IsMark l "(") (hp : SpellsWord p part) (hpart : part ∈ dateParts)
    (ho : SpellsWord o "FROM") (h : IsPhrase .product ts n) (hr : IsMark r ")") :
    IsPhrase .operand (f :: l :: p :: o :: (ts ++ [r]))
      (.of .extract [.of (.keyword part) [], n]) where
  isRead := .extract hf hl hp hpart ho h.isRead hr
  scalar := .of_head rfl
  first := ⟨f, _, rfl, by rw [hf.key]; decide⟩
  last := ⟨f :: l :: p :: o :: ts, r, rfl, by rw [hr.key]; decide⟩
  clean hc := by
    simp only [List.forall_mem_cons, List.forall_mem_append] at hc ⊢
    obtain ⟨hcf, hcl, hcp, hco, hct, hcr, -⟩ := hc
    have hparts : ∀ part ∈ dateParts, part ∉ markKeys := by decide
    exact ⟨.of_key (by rw [hf.key]; decide) hcf, .of_mark hl (by decide) hcl,
      .of_key (hp.key ▸ hparts _ hpart) hcp, .of_key (by rw [ho.key]; decide) hco, h.clean hct,
      .of_mark hr (by decide) hcr, by simp⟩

theorem one (h : IsPhrase .operand ts n) : IsPhrase .product ts n :=
  ⟨h.isRead.one, h.scalar, h.first, h.last, h.clean⟩

theorem step {o : Token} {op : BinaryOp} {a b : Node} (ha : IsPhrase .product ts a)
    (ho : o.kind = .symbol) (hop : (o.key, op) ∈ factors) (hb : IsPhrase .operand us b) :
    IsPhrase .product (ts ++ o :: us) (.of (.binary op) [a, b]) where
  isRead := ha.isRead.step ho hop hb.isRead
  scalar := .of_head rfl
  first := by
    obtain ⟨t, vs, rfl, ht⟩ := ha.first
    exact ⟨t, _, rfl, ht⟩
  last := by
    obtain ⟨vs, t, rfl, ht⟩ := hb.last
    exact ⟨ts ++ o :: vs, t, by simp, ht⟩
  clean hc := by
    simp only [List.forall_mem_cons, List.forall_mem_append] at hc ⊢
    have hkeys : ∀ f ∈ factors, f.1 ∉ [";", "->", "=>"] := by decide
    exact ⟨ha.clean hc.1, .of_mark ⟨ho, rfl⟩ (hkeys _ hop) hc.2.1, hb.clean hc.2.2⟩

end IsPhrase

/-! ## Spellings -/

/-- The text is a numeral: digits, perhaps with a point and an exponent. -/
def isNumeral (s : String) : Bool :=
  s.toList.head?.any Text.isDigit && (Lexer.number .oracle false 0 s.toList).2.isEmpty

/-- Tokens that spell an arithmetic expression of Oracle: products and quotients of numbers,
columns, remainders, parts of dates and further operands, with signs and parentheses. -/
inductive Spells (operands : List Token → Node → Prop) : Level → List Token → Node → Prop
  | operand {ts : List Token} {n : Node} (h : operands ts n) : Spells operands .operand ts n
  | number {t : Token} (hkind : t.kind = .number) (hkey : t.key = "")
      (htext : isNumeral t.text = true) : Spells operands .operand [t] (.of (.number t.text) [])
  | column {t : Token} (h : IsColumn t) :
      Spells operands .operand [t] (.of (.column [⟨t.text, t.kind == .quotedName⟩]) [])
  | minus {t : Token} {ts : List Token} {n : Node} (ht : IsMark t "-")
      (h : Spells operands .operand ts n) :
      Spells operands .operand (t :: ts) (.of (.unary .minus) [n])
  | paren {l r : Token} {ts : List Token} {n : Node} (hl : IsMark l "(")
      (h : Spells operands .product ts n) (hr : IsMark r ")") :
      Spells operands .operand (l :: (ts ++ [r])) (.of .paren [n])
  | modulo {f l o r : Token} {ts us : List Token} {a b : Node} (hf : SpellsWord f "MOD")
      (hl : IsMark l "(") (ha : Spells operands .product ts a) (ho : IsMark o ",")
      (hb : Spells operands .product us b) (hr : IsMark r ")") :
      Spells operands .operand (f :: l :: (ts ++ o :: (us ++ [r])))
        (.of (.binary .modulo) [Calls.guardOperand a, Calls.guardOperand b])
  | extract {f l p o r : Token} {part : String} {ts : List Token} {n : Node}
      (hf : SpellsWord f "EXTRACT") (hl : IsMark l "(") (hp : SpellsWord p part)
      (hpart : part ∈ dateParts) (ho : SpellsWord o "FROM") (h : Spells operands .product ts n)
      (hr : IsMark r ")") : Spells operands .operand (f :: l :: p :: o :: (ts ++ [r]))
        (.of .extract [.of (.keyword part) [], n])
  | one {ts : List Token} {n : Node} (h : Spells operands .operand ts n) :
      Spells operands .product ts n
  | step {o : Token} {op : BinaryOp} {ts us : List Token} {a b : Node}
      (ha : Spells operands .product ts a) (ho : o.kind = .symbol) (hop : (o.key, op) ∈ factors)
      (hb : Spells operands .operand us b) :
      Spells operands .product (ts ++ o :: us) (.of (.binary op) [a, b])

/-- Every spelling of an arithmetic expression is read as the expression, if its further operands
are. -/
theorem Spells.isPhrase {operands : List Token → Node → Prop} {l : Level}
    (hoperands : ∀ {ts n}, operands ts n → IsPhrase .operand ts n) (h : Spells operands l ts n) :
    IsPhrase l ts n := by
  induction h with
  | operand h => exact hoperands h
  | number hkind hkey _ => exact .number hkind hkey
  | column ht => exact .column ht
  | minus ht _ ih => exact ih.minus ht
  | paren hl _ hr ih => exact ih.paren hl hr
  | modulo hf hl _ ho _ hr iha ihb => exact .modulo hf hl iha ho ihb hr
  | extract hf hl hp hpart ho _ hr ih => exact ih.extract hf hl hp hpart ho hr
  | one _ ih => exact ih.one
  | step _ ho hop _ iha ihb => exact iha.step ho hop ihb

end SemanticLayer.Sql.Parser
