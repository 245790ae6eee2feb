import SemanticLayer.Proofs.Outcome
import SemanticLayer.Proofs.SelectList

/-!
# Columns from a query in parentheses

The statement `SELECT … AS name, … FROM (query) AS name`.
-/

namespace SemanticLayer.Sql.Parser

open Rule (Ensures FindsNothing)
open Lowering (aliasName?)

variable {s : Scope} {c d : Cursor} {R : Rules} {g : Grammar} {m : Nat}

/-! ## Clauses keep what a node is -/

/-- Clauses after a node do not change the property: not those that are added, and not an offset
that takes the place of another. -/
structure KeptByClauses (inv : Node → Prop) : Prop where
  parts : ∀ n ps, inv n → inv (n.setParts (n.parts ++ ps))
  offset : ∀ o n, inv n → inv (setOffset o n)

/-- Clauses keep what a node is. -/
theorem KeptByClauses.head (h : Head) : KeptByClauses fun n => n.head = h where
  parts n _ hn := by cases n; exact hn
  offset _ n hn := by cases n; exact hn

variable {inv : Node → Prop}

theorem KeptByClauses.addPart (hinv : KeptByClauses inv) {this : Node} (h : inv this) (p : Node) :
    inv (this.addPart p) := by
  cases this
  exact hinv.parts _ [p] h

theorem addClause_keeps (hinv : KeptByClauses inv) (same : Head → Bool) (clause : Node) {this : Node}
    (h : inv this) : (addClause same clause this).Ensures c fun n _ => inv n := by
  unfold addClause
  split
  · exact Ensures.reject
  · exact Ensures.pure (hinv.addPart h clause)

/-- A node with a further clause is what it was. -/
theorem clause_keeps (hinv : KeptByClauses inv) {this : Node} (h : inv this) :
    (clause R this).Ensures c fun x _ => ∀ n, x = some n → inv n := by
  have hadd : ∀ {d : Cursor} (same : Head → Bool) (added : Node),
      ((addClause same added this) >>= fun n => pure (some n)).Ensures d
        fun x _ => ∀ n, x = some n → inv n := fun same added =>
    Ensures.bind ((addClause_keeps hinv same added h).mono fun _ _ hn =>
      Ensures.pure fun _ hx => Option.some.inj hx ▸ hn)
  have hnone : ∀ {d : Cursor}, (pure none : Rule .clause (Option Node)).Ensures d
      fun x _ => ∀ n, x = some n → inv n := Ensures.pure (by simp)
  have hparts : ∀ {d : Cursor} (ps : List Node),
      (pure (some (this.setParts (this.parts ++ ps))) : Rule .clause (Option Node)).Ensures d
        fun x _ => ∀ n, x = some n → inv n := fun ps =>
    Ensures.pure fun _ hx => Option.some.inj hx ▸ hinv.parts this ps h
  refine Ensures.bind (Ensures.peekKey ?_)
  split
  -- WHERE, GROUP BY, HAVING, QUALIFY and WINDOW
  iterate 5 exact Ensures.bind fun _ _ _ => Ensures.bind fun _ _ _ => hadd _ _
  -- ORDER BY
  · refine Ensures.bind fun found _ _ => ?_
    cases found with
    | none => exact hnone
    | some n => exact hadd _ n
  -- CLUSTER BY, DISTRIBUTE BY, SORT BY and ORDER SIBLINGS BY
  iterate 4 exact Ensures.bind fun _ _ _ => Ensures.bind fun _ _ _ => hadd _ _
  -- LIMIT
  · refine Ensures.bind fun found _ _ => ?_
    cases found with
    | none => exact hnone
    | some limit =>
      obtain ⟨n, start⟩ := limit
      refine Ensures.bind ((addClause_keeps hinv Head.isLimit n h).mono fun n' _ hn => ?_)
      refine Ensures.pure fun x hx => ?_
      obtain rfl := Option.some.inj hx
      cases start with
      | none => exact hn
      | some s => exact hinv.offset _ _ hn
  -- FETCH and OFFSET
  iterate 2
    refine Ensures.bind fun found _ _ => ?_
    cases found with
    | none => exact hnone
    | some n => exact hadd _ n
  -- FOR and LOCK, TABLESAMPLE and USING, START WITH and CONNECT BY
  iterate 2
    refine Ensures.bind fun locks _ _ => ?_
    cases locks with
    | nil => exact hnone
    | cons l ls => exact hparts _
  iterate 2
    refine Ensures.bind fun found _ _ => ?_
    cases found with
    | none => exact hnone
    | some n => exact hadd _ n
  iterate 2 exact Ensures.bind fun _ _ _ => hparts _
  exact hnone

/-- A node with the clauses after it is what it was. -/
theorem clauses_keeps (hinv : KeptByClauses inv) {this : Node} (h : inv this) :
    ((rules g m).clauses this).Ensures c fun n _ => inv n := by
  cases m with
  | zero => exact Ensures.exhaust
  | succ m =>
    change (clauses (rules g m) this).Ensures c _
    unfold clauses
    split
    · exact Ensures.pure h
    refine Ensures.bind fun joined _ _ => Ensures.bind fun laterals _ _ => ?_
    refine Ensures.chain inv (fun n _ hn => clause_keeps hinv hn) ?_
    rw [List.append_assoc]
    exact hinv.parts _ _ h

theorem clauses_head (this : Node) :
    ((rules g m).clauses this).Ensures c fun n _ => n.head = this.head :=
  clauses_keeps (.head this.head) rfl

theorem liftClauses_head (n : Node) : (liftClauses n).head = n.head := by
  unfold liftClauses
  split
  · dsimp only
    split <;> rfl
  · rfl

/-- A query with set operations after it is a query. -/
theorem setOperations_query {this : Node} (h : takesWith this.head = true) :
    ((rules g m).setOperations this).Ensures c fun n _ => takesWith n.head = true := by
  cases m with
  | zero => exact Ensures.exhaust
  | succ m =>
    refine Ensures.bind ((Ensures.chain (fun n : Node => takesWith n.head = true) ?_ h).mono ?_)
    · intro n d hn
      refine Ensures.bind fun found _ _ => ?_
      cases found with
      | none => exact Ensures.pure fun _ hx => nomatch hx
      | some t =>
        refine Ensures.bind fun _ _ _ => Ensures.bind fun _ _ _ => Ensures.bind fun _ _ _ => ?_
        refine Ensures.bind fun _ _ _ => Ensures.bind (Ensures.nodeWith fun _ _ _ => ?_)
        refine Ensures.pure fun _ hx => ?_
        obtain rfl := Option.some.inj hx
        rfl
    · intro whole d hwhole
      split
      · exact Ensures.pure (liftClauses_head whole ▸ hwhole)
      · exact Ensures.pure hwhole

/-! ## Queries -/

theorem selectBody_head (source : Option Node) :
    (selectBody (rules g m) source).Ensures c fun n _ => n.head = .select := by
  refine Ensures.bind fun _ _ _ => Ensures.bind fun _ _ _ => Ensures.bind fun _ _ _ => ?_
  refine Ensures.bind fun _ _ _ => Ensures.bind fun _ _ _ => Ensures.bind fun _ _ _ => ?_
  refine Ensures.bind fun _ _ _ => Ensures.bind fun _ _ _ => Ensures.bind fun _ _ _ => ?_
  exact clauses_head _

/-- A query begins at the cursor. -/
def AtQuery (c : Cursor) : Prop :=
  ∃ t ts, c.rest = t :: ts ∧ t.kind = .word ∧ t.key ∈ ["SELECT", "WITH"]

namespace AtQuery

theorem key (h : AtQuery c) : c.key = "SELECT" ∨ c.key = "WITH" := by
  obtain ⟨t, ts, hr, -, hk⟩ := h
  rw [Ensures.key_of_rest hr]
  simpa using hk

theorem key_ne (h : AtQuery c) {k : String} (hk : k ∉ ["SELECT", "WITH"]) : c.key ≠ k := by
  rintro rfl
  exact hk (by simpa using h.key)

theorem of_same (h : AtQuery c) (hd : SamePlace c d) : AtQuery d := by
  obtain ⟨t, ts, hr, h⟩ := h
  exact ⟨t, ts, hd.rest.trans hr, h⟩

end AtQuery

theorem withClause_of_ne (h : c.key ≠ "WITH") : (withClause R).FindsNothing c := by
  refine Ensures.bind (Ensures.accept_of_ne h ?_)
  exact FindsNothing.pure

theorem withClause_found (h : c.key = "WITH") :
    (withClause R).Ensures c fun x _ => ∃ w, x = some w := by
  refine Ensures.bind (Ensures.accept (by decide) (fun hne => absurd h hne) fun _ _ _ _ => ?_)
  refine Ensures.bind fun _ _ _ => Ensures.bind fun _ _ _ => Ensures.bind fun _ _ _ => ?_
  refine Ensures.bind fun items _ _ => ?_
  dsimp only
  split
  · exact Ensures.bind Ensures.reject
  · exact Ensures.bind fun w _ _ => Ensures.pure ⟨w, rfl⟩

theorem fromClause_of_ne (h : c.key ≠ "FROM") (joined : Bool) :
    (fromClause R joined).FindsNothing c := by
  refine Ensures.bind (Ensures.accept_of_ne h ?_)
  exact FindsNothing.pure

/-- Where a query begins, one is found. -/
theorem query_found (h : AtQuery c) {place : QueryPlace} :
    (query (rules g m) place).Ensures c fun x _ => ∃ n, x = some n ∧ takesWith n.head = true := by
  by_cases hw : c.key = "WITH"
  · refine Ensures.bind ((withClause_found hw).mono ?_)
    rintro _ d ⟨w, rfl⟩
    refine Ensures.bind fun found _ _ => Ensures.bind (Ensures.need fun n _ => ?_)
    split
    · next hn => exact Ensures.pure ⟨_, rfl, hn⟩
    · exact Ensures.reject
  · have hs := h.key.resolve_right hw
    refine FindsNothing.bind (withClause_of_ne hw) fun d hd => ?_
    refine FindsNothing.bind (fromClause_of_ne (by simp [hd.key, hs]) true) fun e he => ?_
    replace he := hd.trans he
    refine Ensures.bind (Ensures.accept (by decide) (fun hne => ?_) fun t ts _ _ => ?_)
    · exact absurd (he.key.trans hs) hne
    refine Ensures.bind ((selectBody_head none).mono fun n _ hn => ?_)
    have hquery : takesWith n.head = true := by rw [hn]; rfl
    split
    · refine Ensures.bind ((setOperations_query hquery).mono fun n' _ hn' => ?_)
      exact Ensures.pure ⟨n', rfl, hn'⟩
    · exact Ensures.pure ⟨n, rfl, hquery⟩

/-! ## Tables -/

theorem aliasColumns_of_ne (h : c.key ≠ "(") : (aliasColumns R).FindsNothing c := by
  refine FindsNothing.orBack (Ensures.bind (Ensures.peekKey ?_))
  rw [if_pos (by simpa using h)]
  exact Ensures.pure rfl

/-- The words that begin a query are no alias. -/
theorem tableAlias_atQuery (h : AtQuery c) :
    (tableAlias R R.grammar.isTableAlias).FindsNothing c := by
  refine Ensures.bind (limitFollows_of_ne (h.key_ne (by decide)) (h.key_ne (by decide)) ?_)
  refine Ensures.bind (Ensures.accept_of_ne (h.key_ne (by decide)) ?_)
  obtain ⟨t, ts, hr, hw, hk⟩ := id h
  have hreserved : R.grammar.isTableAlias t.key = false := by
    obtain hk | hk : t.key = "SELECT" ∨ t.key = "WITH" := by simpa using hk
    · simp [Grammar.isTableAlias, Grammar.isName, Vocabulary.reserved, hk]
    · simp [Grammar.isTableAlias, Grammar.isName, Vocabulary.reserved, hk]
  refine FindsNothing.bind (name_word hr hw rfl hreserved) fun d hd => ?_
  refine FindsNothing.bind (stringName_word (hd.rest.trans hr) hw) fun d' hd' => ?_
  replace hd := hd.trans hd'
  have hkey : d'.key ≠ "(" := (h.of_same hd).key_ne (by decide)
  refine FindsNothing.bind (aliasColumns_of_ne hkey) fun e he => ?_
  exact Ensures.pure ⟨rfl, hd.trans he⟩

theorem values_of_ne (hv : c.key ≠ "VALUES") (hp : c.key = "(" → c.secondKey ≠ "VALUES") :
    (values R).FindsNothing c := by
  refine Ensures.bind (Ensures.peekKey (Ensures.bind (Ensures.peekSecondKey ?_)))
  have hparens : (c.key == "(" && c.secondKey == "VALUES") = false := by
    simpa using hp
  have hplain : (plainValues R).FindsNothing c :=
    Ensures.bind (Ensures.accept_of_ne hv FindsNothing.pure)
  rw [hparens]
  exact FindsNothing.bind hplain fun d hd => Ensures.pure ⟨rfl, hd⟩

/-- At the words that begin a query and at parentheses around it, a table is a query. -/
theorem plainTable_query (hkey : c.key ∈ ["SELECT", "WITH", "("])
    (hvalues : c.key = "(" → c.secondKey ≠ "VALUES")
    {post : Option Node → Cursor → Prop}
    (h : ∀ d, SamePlace c d → (R.query { table := true }).Ensures d fun x e =>
      ∃ n, x = some n ∧ (pivoted R n).Ensures e fun n f => post (some n) f) :
    (plainTable R).Ensures c post := by
  have hne : ∀ {d : Cursor} {k : String}, SamePlace c d → k ∉ ["SELECT", "WITH", "("] → d.key ≠ k :=
    fun hd hk he => hk (he ▸ hd.key ▸ hkey)
  have hlateral : (lateral R).FindsNothing c := by
    refine Ensures.bind (Ensures.bind (Ensures.acceptAll_of_ne (hne (.refl c) (by decide)) ?_))
    refine Ensures.bind (Ensures.acceptAll_of_ne (hne (.refl c) (by decide)) ?_)
    refine Ensures.pure (Ensures.bind (Ensures.accept_of_ne (hne (.refl c) (by decide)) ?_))
    exact FindsNothing.pure
  have hunnest : ∀ {d : Cursor}, SamePlace c d → (unnest R).FindsNothing d := by
    intro d hd
    refine Ensures.bind (Ensures.peekKey (Ensures.bind (Ensures.peekSecondKey ?_)))
    rw [if_neg (by simp [hne hd])]
    exact FindsNothing.pure
  refine FindsNothing.bind hlateral fun d hd => ?_
  refine FindsNothing.bind (hunnest hd) fun d' hd' => ?_
  replace hd := hd.trans hd'
  have hsecond : d'.key = "(" → d'.secondKey ≠ "VALUES" := by
    rwa [hd.key, hd.secondKey]
  refine FindsNothing.bind (values_of_ne (hne hd (by decide)) hsecond) fun d'' hd'' => ?_
  replace hd := hd.trans hd''
  refine Ensures.bind ((h d'' hd).mono ?_)
  rintro _ e ⟨n, rfl, hn⟩
  exact Ensures.bind (hn.mono fun _ _ hp => Ensures.pure hp)

theorem steppedQuery_found (h : AtQuery c) :
    ((rules g m).query { table := true }).Ensures c fun x _ =>
      ∃ n, x = some n ∧ takesWith n.head = true := by
  cases m with
  | zero => exact Ensures.exhaust
  | succ m =>
    refine Ensures.bind ((query_found h).mono ?_)
    rintro _ d ⟨n, rfl, hn⟩
    exact Ensures.pure ⟨n, rfl, hn⟩

theorem pivoted_head (n : Node) : (pivoted R n).Ensures c fun n' _ => n'.head = n.head := by
  unfold pivoted
  split
  · exact Ensures.pure rfl
  · refine Ensures.bind fun _ _ _ => Ensures.pure ?_
    cases n
    rfl

/-- Where a query begins, a table is a query. -/
theorem table_found (h : AtQuery c) :
    ((rules g m).table).Ensures c fun x _ => ∃ n, x = some n ∧ takesWith n.head = true := by
  cases m with
  | zero => exact Ensures.exhaust
  | succ m =>
  have hplain : ∀ {d : Cursor}, SamePlace c d → ((plainTable (rules g m)) >>= fun found =>
      pure (if (none : Option TableAlias).isSome then found.map (setAlias none) else found)).Ensures
        d fun x _ => ∃ n, x = some n ∧ takesWith n.head = true := by
    intro d hd
    replace h := h.of_same hd
    refine Ensures.bind (plainTable_query (by obtain hk | hk := h.key <;> simp [hk]) ?_ ?_)
    · exact fun hk => absurd hk (h.key_ne (by decide))
    · refine fun e he => (steppedQuery_found (h.of_same he)).mono ?_
      rintro _ f ⟨n, rfl, hn⟩
      refine ⟨n, rfl, (pivoted_head n).mono fun n' _ hn' => ?_⟩
      exact Ensures.pure ⟨n', rfl, hn' ▸ hn⟩
  refine Ensures.bind (Ensures.peekSecondKey ?_)
  split
  · refine FindsNothing.bind (tableAlias_atQuery h) fun d hd => ?_
    refine Ensures.bind (Ensures.accept_of_ne ((h.of_same hd).key_ne (by decide)) ?_)
    exact Ensures.bind (Ensures.pure (hplain hd))
  · exact Ensures.bind (Ensures.pure (hplain (.refl c)))

/-- Where a query begins in parentheses, one is found. -/
theorem nestedQuery_found (h : AtQuery c) :
    (nestedQuery (rules g m) { table := true }).Ensures c fun x _ =>
      ∃ n, x = some n ∧ takesWith n.head = true := by
  refine Ensures.bind (Ensures.accept_of_ne (h.key_ne (by decide)) ?_)
  refine Ensures.bind (Ensures.accept_of_ne (h.key_ne (by decide)) ?_)
  refine Ensures.bind (Ensures.accept_of_ne (h.key_ne (by decide)) ?_)
  refine Ensures.bind ((table_found h).mono ?_)
  rintro _ d ⟨n, rfl, hn⟩
  have hvalues : tableOfValues { table := true } n = n := by
    unfold tableOfValues
    split
    · exact absurd hn (by simp [takesWith, Head.isQuery])
    · rfl
  dsimp only
  rw [hvalues]
  refine Ensures.bind ((setOperations_query hn).mono fun n' _ hn' => ?_)
  refine Ensures.bind ((clauses_head n').mono fun n'' _ hn'' => ?_)
  exact Ensures.pure ⟨n'', rfl, hn'' ▸ hn'⟩

theorem commentedQuery_found (h : AtQuery c) :
    (commentedQuery (rules g m) { table := true }).Ensures c fun x _ =>
      ∃ n, x = some n ∧ takesWith n.head = true := by
  refine Ensures.bind (Ensures.pending (Ensures.bind ((nestedQuery_found h).mono ?_)))
  rintro _ d ⟨n, rfl, hn⟩
  exact Ensures.pure ⟨_, rfl, by cases n; exact hn⟩

/-! ## A query in parentheses -/

variable {a q t u r : Token} {us vs is ts k : List Token}

/-- The bracket after tokens that stay inside brackets is the one that closes them, or brackets that
the tokens opened are still open. -/
theorem closing_bracket (hus : Enclosed us) (hi : depthAfter 0 is = some 0)
    (hr : r.closes = true) (hu : u.closes = true) (hk : depthAfter 0 k = some 0)
    (he : us ++ u :: vs = is ++ r :: k) : vs = k ∨ ∃ j, depthAfter (j + 1) vs = some 0 := by
  obtain ⟨m, hm⟩ := hus
  cases m with
  | zero =>
    left
    have hclosed : ∀ {t : Token} {xs ys : List Token}, depthAfter 0 xs = some 0 →
        t.closes = true → depthAfter 0 (xs ++ t :: ys) = none := by
      intro t xs ys hxs ht
      rw [depthAfter_append, hxs, Option.bind_some, depthAfter, if_neg (by simp [opens_of_closes ht]),
        if_pos ht, if_pos rfl]
    obtain ⟨cs, rfl, hcs⟩ | ⟨cs, rfl, hcs⟩ := List.append_eq_append_iff.mp he
    · cases cs with
      | nil => exact (List.cons.inj hcs).2
      | cons x cs =>
        obtain ⟨rfl, -⟩ := List.cons.inj hcs
        exact absurd (hi.symm.trans (hclosed hm hu)) (by simp)
    · cases cs with
      | nil => exact (List.cons.inj hcs).2.symm
      | cons x cs =>
        obtain ⟨rfl, -⟩ := List.cons.inj hcs
        exact absurd (hm.symm.trans (hclosed hi hr)) (by simp)
  | succ j =>
    right
    have hwhole : depthAfter 1 (is ++ r :: k) = some 0 := by
      rw [depthAfter_append, depthAfter_add hi 1, Option.bind_some, depthAfter_of_closes hr, hk]
    rw [← he, depthAfter_append, depthAfter_add hm 1, Option.bind_some,
      depthAfter_of_closes hu] at hwhole
    exact ⟨j, hwhole⟩

/-- The node is a query in parentheses that has an alias and nothing else. -/
def IsSubquery (label : String) (n : Node) : Prop :=
  ∃ id comments own body,
    n = .mk (.subquery (some { name := some id, columns := [], comments })) own [body] ∧
      id.name = label ∧ takesWith body.head = true

theorem pivot_of_not_mem (h : c.key ∉ ["PIVOT", "UNPIVOT"]) : (pivot R).FindsNothing c :=
  FindsNothing.orBack (Ensures.bind (Ensures.acceptOne_of_not_mem h (Ensures.pure rfl)))

/-- A query in parentheses with the alias at the end of the text. -/
theorem aliasedSubquery_end (hr : c.rest = [a, q]) (ha : a.key = "AS") (hq : isAlias q = true)
    {n : Node} (hn : takesWith n.head = true) :
    (aliasedSubquery R n).Ensures c fun n' d => d.rest = [] ∧ IsSubquery q.text n' := by
  have hkey : c.key = "AS" := (Ensures.key_of_rest hr).trans ha
  refine Ensures.bind (Ensures.many_of_none ?_)
  refine (pivot_of_not_mem (by simp [hkey])).mono fun _ d hd => ⟨hd.1, ?_⟩
  have hrd := hd.2.rest.trans hr
  have hkd := hd.2.key.trans hkey
  refine Ensures.bind (Ensures.bind (limitFollows_of_ne (by simp [hkd]) (by simp [hkd]) ?_))
  refine Ensures.bind (Ensures.accept_of_eq hrd ha ?_)
  refine Ensures.bind (name_alias rfl hq fun b cs e he => ?_)
  refine Ensures.bind (Ensures.pure ?_)
  have hke : e.key = "" := by simp [Cursor.key, he]
  refine FindsNothing.bind (aliasColumns_of_ne (by simp [hke])) fun f hf => ?_
  refine Ensures.pure (Ensures.bind ?_)
  have hkf := hf.key.trans hke
  have hsample : (sample R false).FindsNothing f := by
    refine Ensures.bind (Ensures.accept_of_ne (by simp [hkf]) ?_)
    exact Ensures.bind (Ensures.pure FindsNothing.pure)
  refine hsample.mono ?_
  rintro _ f' ⟨rfl, hf'⟩
  refine Ensures.node fun own f'' hf'' => ⟨?_, ?_⟩
  · exact hf''.rest.trans (hf'.rest.trans (hf.rest.trans he))
  · exact ⟨⟨q.text, b⟩, cs, own, n, rfl, rfl, hn⟩

/-- The tokens of a query in parentheses and of its alias, at the end of a text. -/
inductive SubqueryTokens : String → List Token → Prop where
  | mk {t r a q : Token} {is : List Token} (ht : t.key = "(") (hr : r.key = ")")
      (ha : a.key = "AS") (hq : isAlias q = true) (hi : depthAfter 0 is = some 0)
      (hfirst : is.head?.any (fun u => u.kind == .word && ["SELECT", "WITH"].contains u.key)) :
      SubqueryTokens q.text (t :: (is ++ [r, a, q]))

namespace SubqueryTokens

variable {label : String}

theorem key (h : SubqueryTokens label c.rest) : c.key = "(" := by
  generalize hr : c.rest = rest at h
  obtain ⟨ht⟩ := h
  rw [Ensures.key_of_rest hr, ht]

/-- A query begins after the parenthesis. -/
theorem atQuery (h : SubqueryTokens label (t :: ts)) (c : Cursor) : AtQuery (c.past t ts) := by
  obtain @⟨_, r, a, q, is, -, -, -, -, -, hfirst⟩ := h
  cases is with
  | nil => simp at hfirst
  | cons u us => exact ⟨u, us ++ [r, a, q], rfl, by simpa using hfirst⟩

theorem secondKey (h : SubqueryTokens label c.rest) : c.secondKey ∈ ["SELECT", "WITH"] := by
  generalize hr : c.rest = rest at h
  cases rest with
  | nil => nomatch h
  | cons t ts =>
    obtain ⟨u, us, hu, -, hk⟩ := h.atQuery c
    have hts : ts = u :: us := hu
    simpa [Cursor.secondKey, hr, hts] using hk

theorem depthAfter (h : SubqueryTokens label ts) : depthAfter 0 ts = some 0 := by
  obtain ⟨ht, hr, ha, hq, hi, -⟩ := h
  obtain ⟨-, hqo, hqc⟩ := isAlias_iff.mp hq
  rw [depthAfter_of_opens (by simp [Token.opens, ht]), depthAfter_append, depthAfter_add hi 1,
    Option.bind_some, depthAfter_of_closes (by simp [Token.closes, hr]),
    depthAfter_of_plain (by simp [Token.opens, ha]) (by simp [Token.closes, ha]),
    depthAfter_of_plain hqo hqc, Parser.depthAfter]

end SubqueryTokens

/-- The query in parentheses at the end of a FROM clause, or the parser is stuck in it. -/
theorem steppedQuery_parens {label : String} (h : SubqueryTokens label c.rest) :
    ((rules g m).query { table := true }).Ensures c fun x d =>
      ∃ n, x = some n ∧ (d.rest = [] ∧ IsSubquery label n ∨ Unclosed d) := by
  have hkey := h.key
  generalize hr : c.rest = rest at h
  obtain @⟨t, r, a, q, is, ht, hrk, ha, hq, hi, hfirst⟩ := h
  have hatQuery := (SubqueryTokens.mk ht hrk ha hq hi hfirst).atQuery
  have hend : depthAfter 0 [a, q] = some 0 := by
    have hnil : completes 0 none [] = true := rfl
    exact depthAfter_column hnil ha hq
  cases m with
  | zero => exact Ensures.exhaust
  | succ m =>
  refine Ensures.bind (FindsNothing.bind (withClause_of_ne (by simp [hkey])) fun d hd => ?_)
  refine FindsNothing.bind (fromClause_of_ne (by simp [hd.key, hkey]) true) fun e he => ?_
  replace hd := hd.trans he
  have hke := hd.key.trans hkey
  refine Ensures.bind (Ensures.accept_of_ne (by simp [hke]) ?_)
  refine Ensures.bind (Ensures.peekKey ?_)
  rw [if_pos (by simp [hke])]
  refine Ensures.bind (Ensures.within (hd.rest.trans hr) ?_)
  refine ((Ensures.reaches _ _).and (commentedQuery_found (hatQuery e))).mono ?_
  rintro _ f ⟨⟨us, hus, hrest, -⟩, n, rfl, hn⟩ u vs hf hu
  rw [hf] at hrest
  have hclosing := closing_bracket hus hi (by simp [Token.closes, hrk])
    (Bracket.closes_closing hu) hend hrest.symm
  have hlabelled : (aliasedSubquery (rules g m) n).Ensures (f.past u vs) fun n' d =>
      d.rest = [] ∧ IsSubquery q.text n' ∨ Unclosed d := by
    obtain rfl | hopen := hclosing
    · exact (aliasedSubquery_end rfl ha hq hn).mono fun _ _ h => .inl h
    · have hopen : Unclosed (f.past u vs) := hopen
      exact hopen.ensures.mono fun _ _ h => .inr h
  exact Ensures.bind (hlabelled.mono fun n' _ h => Ensures.pure (Ensures.pure ⟨n', rfl, h⟩))

/-- A table at the end of a text has no pivots. -/
theorem pivoted_end (hr : c.rest = []) (n : Node) :
    (pivoted R n).Ensures c fun n' d => n' = n ∧ d.rest = [] := by
  unfold pivoted
  split
  · exact Ensures.pure ⟨rfl, hr⟩
  · refine Ensures.bind (Ensures.many_of_none ?_)
    refine (pivot_of_not_mem (by simp [Cursor.key, hr])).mono fun _ d hd => ⟨hd.1, ?_⟩
    refine Ensures.pure ⟨?_, hd.2.rest.trans hr⟩
    cases n
    simp [Node.setParts, Node.parts]

/-- A query in parentheses is the table of a FROM clause, or the parser is stuck in it. -/
theorem table_parens {label : String} (h : SubqueryTokens label c.rest) :
    ((rules g m).table).Ensures c fun x d =>
      ∃ n, x = some n ∧ (d.rest = [] ∧ IsSubquery label n ∨ Unclosed d) := by
  have hkey := h.key
  have hsecond := h.secondKey
  cases m with
  | zero => exact Ensures.exhaust
  | succ m =>
  refine Ensures.bind (Ensures.peekSecondKey ?_)
  have hcolon : c.secondKey ≠ ":" := fun hk => absurd (hk ▸ hsecond) (by decide)
  rw [if_neg (by simp [hcolon])]
  refine Ensures.bind (Ensures.pure (Ensures.bind (plainTable_query (by simp [hkey]) ?_ ?_)))
  · exact fun _ hk => absurd (hk ▸ hsecond) (by decide)
  · refine fun d hd => (steppedQuery_parens (hd.rest ▸ h)).mono ?_
    rintro _ e ⟨n, rfl, hn⟩
    refine ⟨n, rfl, ?_⟩
    obtain ⟨he, hn⟩ | hopen := hn
    · refine (pivoted_end he n).mono ?_
      rintro _ f ⟨rfl, hf⟩
      exact Ensures.pure ⟨_, rfl, .inl ⟨hf, hn⟩⟩
    · exact hopen.ensures.mono fun _ _ hf => Ensures.pure ⟨_, rfl, .inr hf⟩

/-! ## The statement -/

/-- Whether the tokens after SELECT begin with a word about the query as a whole. Before a point ALL
and DISTINCT are names. -/
def beginsWithOption (g : Grammar) : List Token → Bool
  | [] => false
  | t :: ts =>
    t.key == "/*+" || g.runOptions.contains t.key || g.hasTop && t.key == "TOP" ||
      ("ALL" :: "DISTINCT" :: g.distinctWords).contains t.key && ts.head?.all fun u => u.key != "."

/-- The node selects columns with the names from a query in parentheses, and does nothing else. -/
def SelectsFrom (names : List String) (label : String) (n : Node) : Prop :=
  ∃ own items comments source,
    n = .mk .select own [.of .projections items, .mk .fromClause comments [source]] ∧
      items.map aliasName? = names.map some ∧ IsSubquery label source

/-- The aliases of the columns that a node selects. -/
def exposedNames : Node → List (Option String)
  | .mk .select _ (.mk .projections _ items :: _) => items.map aliasName?
  | _ => []

theorem SelectsFrom.exposedNames {names : List String} {label : String} {n : Node}
    (h : SelectsFrom names label n) : exposedNames n = names.map some := by
  obtain ⟨own, items, comments, source, rfl, hitems, -⟩ := h
  exact hitems

/-- The view was read to the end of the text, or the parser is stuck in it. -/
def ReadsView (names : List String) (label : String) (n : Node) (c : Cursor) : Prop :=
  c.rest = [] ∧ SelectsFrom names label n ∨ Stuck c

/-- What does nothing where the query does not go on leaves a view as it is. -/
theorem ReadsView.ensures {names : List String} {label : String} {n : Node} {r : Rule .clause Node}
    (h : ReadsView names label n c)
    (hr : Idle c.rest → r.Ensures c fun n' d => (n.head = .select → n' = n) ∧ SamePlace c d) :
    r.Ensures c fun n' d => ReadsView names label n' d := by
  obtain ⟨hrest, hview⟩ | hstuck := h
  · refine (hr (hrest ▸ trivial)).mono ?_
    rintro n' d ⟨hn, hd⟩
    obtain rfl : n' = n := by
      obtain ⟨_, _, _, _, rfl, -⟩ := id hview
      exact hn rfl
    exact .inl ⟨hd.rest.trans hrest, hview⟩
  · exact (hstuck.ensures fun hidle => (hr hidle).mono fun _ _ h => h.2).mono fun _ _ h => .inr h

theorem fromClause_parens {label : String} {f : Token} (hr : c.rest = f :: ts)
    (hf : f.key = "FROM") (h : SubqueryTokens label ts) :
    (fromClause (rules g m) false).Ensures c fun x d =>
      d.rest = [] ∧ (∃ comments source, x = some (.mk .fromClause comments [source]) ∧
        IsSubquery label source) ∨ Unclosed d := by
  refine Ensures.bind (Ensures.accept_of_eq hr hf (Ensures.bind (Ensures.bind ?_)))
  refine Ensures.pending (Ensures.bind ((table_parens h).mono ?_))
  rintro _ d ⟨source, rfl, hd⟩
  refine Ensures.bind (Ensures.need fun _ hs => ?_)
  obtain rfl := Option.some.inj hs
  refine Ensures.bind (Ensures.pure (Ensures.nodeWith fun comments e he => Ensures.pure ?_))
  obtain ⟨hd, hsource⟩ | ⟨j, hopen⟩ := hd
  · exact .inl ⟨he.rest.trans hd, comments, source, rfl, hsource⟩
  · exact .inr ⟨j, he.rest ▸ hopen⟩

section Options

variable {post : List Node → Cursor → Prop}

theorem hint_of_ne (h : c.key ≠ "/*+") (hp : post [] c) : (hint R).Ensures c post :=
  Ensures.bind (Ensures.acceptOne_of_not_mem (by simpa using h) (Ensures.pure hp))

theorem uniqueness_of_not_mem
    (h : (c.rest.drop 1).head?.any (fun t => t.key != ".") = true →
      c.key ∉ "ALL" :: "DISTINCT" :: R.grammar.distinctWords) (hp : post [] c) :
    (uniqueness R).Ensures c post := by
  refine Ensures.bind (Ensures.here ?_)
  dsimp only
  split
  · next hsecond =>
    have hword := h hsecond
    refine Ensures.bind (Ensures.accept_of_ne (List.ne_of_not_mem_cons hword) ?_)
    have hdistinct := List.not_mem_of_not_mem_cons hword
    refine Ensures.bind (Ensures.bind (Ensures.acceptOne_of_not_mem hdistinct ?_))
    exact Ensures.pure (Ensures.pure hp)
  · exact Ensures.pure hp

theorem rowKind_of_ne (h : c.key ≠ "AS") (hp : post [] c) : rowKind.Ensures c post :=
  Ensures.bind (Ensures.accept_of_ne h (Ensures.pure hp))

theorem runOptions_of_not_mem (h : c.key ∉ R.grammar.runOptions) (hp : post [] c) :
    (runOptions R).Ensures c post :=
  Ensures.many_of_none (Ensures.bind (Ensures.acceptOne_of_not_mem h (Ensures.pure ⟨rfl, hp⟩)))

theorem top_of_ne (h : R.grammar.hasTop = true → c.key ≠ "TOP") (hp : post [] c) :
    (top R).Ensures c post := by
  refine Ensures.bind ?_
  unfold acceptIf
  split
  · next htop => exact Ensures.accept_of_ne (h htop) (Ensures.pure hp)
  · exact Ensures.pure (Ensures.pure hp)

end Options

theorem rules_clauses_idle (h : Idle c.rest) (this : Node) :
    ((rules g m).clauses this).Ensures c fun n d => n = this ∧ SamePlace c d := by
  cases m with
  | zero => exact Ensures.exhaust
  | succ m => exact clauses_idle h this

theorem rules_setOperations_idle (h : Idle c.rest) (this : Node) :
    ((rules g m).setOperations this).Ensures c fun n d =>
      (this.head = .select → n = this) ∧ SamePlace c d := by
  cases m with
  | zero => exact Ensures.exhaust
  | succ m => exact setOperations_idle h this

/-- The tokens after SELECT: columns with the names, FROM and a query in parentheses. -/
inductive ViewTokens (g : Grammar) (last : Option Token) : List String → String → List Token → Prop
    where
  | mk {names : List String} {label : String} {t u a f : Token} {ts rest source : List Token}
      (hoption : beginsWithOption g (u :: ts) = false) (hc : completes 0 last (u :: ts) = true)
      (ha : a.key = "AS") (ht : isAlias t = true) (h : FurtherColumns names rest (f :: source))
      (hf : f.key = "FROM") (hs : SubqueryTokens label source) :
      ViewTokens g last (t.text :: names) label (u :: (ts ++ a :: t :: rest))

/-- What follows SELECT is read as it stands, or the parser gets stuck in it. -/
theorem selectBody_view {names : List String} {label : String}
    (h : ViewTokens g c.last names label c.rest) :
    (selectBody (rules g m) none).Ensures c fun n d => ReadsView names label n d := by
  generalize hrest : c.rest = whole at h
  obtain @⟨names, label, t, u, a, f, ts, rest, source, hoption, hc, ha, ht, h, hf, hs⟩ := h
  have hkey : c.key = u.key := Ensures.key_of_rest hrest
  have hgrammar : (rules g m).grammar = g := by cases m <;> rfl
  simp only [beginsWithOption, Bool.or_eq_false_iff, beq_eq_false_iff_ne] at hoption
  obtain ⟨⟨⟨hhint, hrun⟩, htop⟩, hunique⟩ := hoption
  -- No word about the query as a whole stands before the columns.
  refine Ensures.bind (Ensures.pending (Ensures.bind (hint_of_ne (hkey ▸ hhint) ?_)))
  refine Ensures.bind (uniqueness_of_not_mem (fun hsecond hmem => ?_) ?_)
  · rw [hgrammar, hkey] at hmem
    rw [List.contains_eq_mem, decide_eq_true hmem, Bool.true_and] at hunique
    cases ts with
    | nil => simp at hunique
    | cons v vs =>
      have hpoint : v.key = "." := by simpa using hunique
      simp [hrest, hpoint] at hsecond
  refine Ensures.bind (rowKind_of_ne (hkey ▸ key_ne_as_of_completes hc) ?_)
  refine Ensures.bind (runOptions_of_not_mem (by simpa [hgrammar, hkey] using hrun) ?_)
  refine Ensures.bind (top_of_ne (fun hhas => ?_) ?_)
  · rw [hgrammar] at hhas
    simpa [hhas, hkey] using htop
  -- The columns, and FROM with the query.
  have hdepth : depthAfter 0 (f :: source) = some 0 := by
    rw [depthAfter_of_plain (by simp [Token.opens, hf]) (by simp [Token.closes, hf]), hs.depthAfter]
  have hcolumns := list_columns (g := g) (m := m) hrest hc ha ht h hdepth (by simp [hf])
  refine Ensures.bind (hcolumns.mono fun items d hd => ?_)
  obtain ⟨hd, hitems⟩ | hstuck := hd
  · have hkd : d.key = "FROM" := (Ensures.key_of_rest hd).trans hf
    refine Ensures.bind (Ensures.bind (Ensures.accept_of_ne (by simp [hkd]) (Ensures.pure ?_)))
    refine Ensures.bind ((fromClause_parens hd hf hs).mono fun x e he => ?_)
    obtain ⟨he, comments, source, rfl, hsource⟩ | hopen := he
    · refine (rules_clauses_idle (he ▸ trivial) _).mono ?_
      rintro _ e' ⟨rfl, he'⟩
      exact .inl ⟨he'.rest.trans he, c.pending, items, comments, source, rfl, hitems, hsource⟩
    · exact hopen.ensures.mono fun _ _ h => .inr (.inl h)
  · refine Ensures.bind ((hstuck.ensures fun hidle => ?_).mono fun _ e he => ?_)
    · exact Ensures.bind (accept_idle hidle (by decide) (Ensures.pure (.refl _)))
    refine Ensures.bind ((he.ensures fun hidle => ?_).mono fun _ e' he' => ?_)
    · exact (fromClause_of_ne (hidle.key_ne (by decide)) false).mono fun _ _ h => h.2
    refine (he'.ensures fun hidle => ?_).mono fun _ _ h => .inr h
    exact (rules_clauses_idle hidle _).mono fun _ _ h => h.2

/-- Set operations and steps after the view: there are none, or the parser stays stuck. -/
theorem steppedQuery_view {names : List String} {label : String} {select : Token}
    (hr : c.rest = select :: ts) (hselect : select.key = "SELECT")
    (h : ViewTokens g (some select) names label ts) :
    ((rules g m).query {}).Ensures c fun x d => ∃ n, x = some n ∧ ReadsView names label n d := by
  have hkey : c.key = "SELECT" := (Ensures.key_of_rest hr).trans hselect
  cases m with
  | zero => exact Ensures.exhaust
  | succ m =>
  refine Ensures.bind (FindsNothing.bind (withClause_of_ne (by simp [hkey])) fun d hd => ?_)
  refine FindsNothing.bind (fromClause_of_ne (by simp [hd.key, hkey]) true) fun e he => ?_
  replace hd := hd.trans he
  refine Ensures.bind (Ensures.accept_of_eq (hd.rest.trans hr) hselect ?_)
  refine Ensures.bind ((selectBody_view h).mono fun n e he => ?_)
  have hset := he.ensures fun hidle => rules_setOperations_idle (g := g) (m := m) hidle n
  refine Ensures.bind (hset.mono fun n' e' he' => Ensures.pure ?_)
  dsimp only
  split
  · refine Ensures.bind ((he'.ensures fun hidle => ?_).mono fun n'' _ h => Ensures.pure ⟨n'', rfl, h⟩)
    refine Ensures.chain_of_none (Ensures.bind (accept_idle hidle (by decide) ?_))
    exact Ensures.pure ⟨rfl, fun _ => rfl, .refl _⟩
  · exact Ensures.pure ⟨n', rfl, he'⟩

/-- A statement that begins with SELECT is a query with the clauses after it. -/
theorem statement_of_select {post : Option Node → Cursor → Prop} (hg : PlainSelect g)
    (h : AtSelect c)
    (hquery : ∀ m d, SamePlace c d → ((rules g m).query {}).Ensures d fun x e => ∃ n, x = some n ∧
      ((rules g m).clauses n).Ensures e fun n' f => post (some n') f) :
    ((rules g m).statement).Ensures c post := by
  obtain ⟨select, ts, hr, -, hselect⟩ := id h
  cases m with
  | zero => exact Ensures.exhaust
  | succ m =>
  refine Ensures.bind (Ensures.peek ?_)
  rw [hr]
  refine Ensures.bind (Ensures.bind (Ensures.peekSecondKey (Ensures.pure ?_)))
  have hbody : ∀ b : Bool, (if b then statementBody? (rules g m) select.key else none) = none := by
    intro b
    rw [hselect]
    cases b <;> rfl
  rw [hbody]
  have hexpression : ((rules g m).expression).FindsNothing c := by
    cases m with
    | zero => exact Ensures.exhaust
    | succ m =>
      refine expression_select ?_ h
      cases m <;> exact hg
  refine FindsNothing.bind hexpression fun d hd => ?_
  refine Ensures.bind ((hquery m d hd).mono ?_)
  rintro _ e ⟨n, rfl, hn⟩
  exact Ensures.bind (hn.mono fun _ _ hpost => Ensures.pure hpost)

/-- The statement is read as it stands. -/
theorem statement_view {names : List String} {label : String} {select : Token}
    (hg : PlainSelect g) (hr : c.rest = select :: ts) (hw : select.kind = .word)
    (hselect : select.key = "SELECT") (h : ViewTokens g (some select) names label ts) :
    ((rules g m).statement).Ensures c fun x d =>
      d.rest = [] → ∃ n, x = some n ∧ SelectsFrom names label n := by
  refine statement_of_select hg ⟨select, ts, hr, hw, hselect⟩ fun m d hd => ?_
  refine (steppedQuery_view (hd.rest.trans hr) hselect h).mono ?_
  rintro _ e ⟨n, rfl, he⟩
  refine ⟨n, rfl, (he.ensures fun hidle => ?_).mono fun n' f hf hend => ?_⟩
  · exact (rules_clauses_idle hidle n).mono fun _ _ h => ⟨fun _ => h.1, h.2⟩
  · obtain ⟨-, hview⟩ | hstuck := hf
    · exact ⟨n', rfl, hview⟩
    · exact absurd hend hstuck.rest_ne_nil

/-- The tokens of a statement are read to their end. -/
theorem parseTokens_ensures {x : Option Node} {p : Option Node → Prop} (ht : t.key ≠ ";")
    (h : ∀ m, ((rules g m).statement).Ensures { rest := t :: ts } fun x d => d.rest = [] → p x)
    (hx : parseTokens g (t :: ts) = .ok x) : p x := by
  have hrun : parseTokens.run g (t :: ts) = .ok x := by
    unfold parseTokens at hx
    split at hx
    · next heq =>
      obtain ⟨rfl, -⟩ := List.cons.inj heq
      rwa [if_neg (by simpa using ht)] at hx
    · exact hx
  unfold parseTokens.run at hrun
  obtain ⟨⟨found, d⟩, hd, hfound⟩ := Outcome.bind_eq_ok_iff.mp hrun
  dsimp only at hfound
  split at hfound
  · next hend =>
    obtain rfl := Except.ok.inj hfound
    exact h _ _ _ hd (by simpa using hend)
  · cases hfound

theorem parseTokens_view {names : List String} {label : String} {select : Token} {x : Option Node}
    (hg : PlainSelect g) (hw : select.kind = .word) (hselect : select.key = "SELECT")
    (h : ViewTokens g (some select) names label ts)
    (hx : parseTokens g (select :: ts) = .ok x) : ∃ n, x = some n ∧ SelectsFrom names label n :=
  parseTokens_ensures (by simp [hselect]) (fun _ => statement_view hg rfl hw hselect h) hx

/-- Tokens without a semicolon are one statement. -/
theorem split_of_forall {tokens : List Token} (hne : tokens ≠ [])
    (h : ∀ t ∈ tokens, t.key ≠ ";") : split tokens = [tokens] := by
  unfold split
  extract_lets step
  have hfold : tokens.foldr step ([], []) = (tokens, []) := by
    clear hne
    induction tokens with
    | nil => rfl
    | cons t ts ih =>
      rw [List.foldr_cons, ih fun u hu => h u (List.mem_cons_of_mem t hu)]
      simp only [step]
      rw [if_neg (by simpa using h t List.mem_cons_self)]
  rw [hfold]
  simp [hne]

/-- A text whose tokens are those of a view is read as the view. -/
theorem parseOne_view {names : List String} {label text : String} {select : Token} {n : Node}
    (hg : PlainSelect g) (hw : select.kind = .word) (hselect : select.key = "SELECT")
    (h : ViewTokens g (some select) names label ts)
    (hsemicolon : ∀ t ∈ select :: ts, t.key ≠ ";")
    (htokens : Lexer.tokenize g text = some (select :: ts)) (hn : parseOne g text = .ok n) :
    SelectsFrom names label n := by
  have hparse : parse g text = (parseTokens g (select :: ts)).toOption.map Option.toList := by
    unfold parse
    rw [htokens, Option.bind_eq_bind, Option.bind_some, split_of_forall (by simp) hsemicolon,
      List.mapM_cons, List.mapM_nil]
    cases parseTokens g (select :: ts) with
    | error e => rfl
    | ok x => cases x <;> rfl
  unfold parseOne at hn
  rw [hparse] at hn
  cases hx : parseTokens g (select :: ts) with
  | error e => simp [hx, Except.toOption] at hn
  | ok x =>
    obtain ⟨n', rfl, hview⟩ := parseTokens_view hg hw hselect h hx
    rw [hx] at hn
    exact Except.ok.inj hn ▸ hview

end SemanticLayer.Sql.Parser
