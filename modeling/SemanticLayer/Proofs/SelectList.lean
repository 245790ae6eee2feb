import SemanticLayer.Proofs.Completion
import SemanticLayer.Sql.Lowering.Query

/-!
# Lists of columns with aliases

A list of columns `… AS name, … AS name` whose expressions are complete operands is read column by
column, or the parser gets stuck inside it.
-/

namespace SemanticLayer.Sql.Parser

open Rule (Ensures FindsNothing)
open Lowering (aliasName?)

variable {s : Scope} {c d : Cursor} {R : Rules} {last : Option Token} {a t : Token}
  {ts rest k : List Token} {names : List String}

/-! ## One column -/

/-- Whether the token is a name after AS. -/
def isAlias (t : Token) : Bool :=
  (t.kind == .quotedName || isAnyName t) && !t.opens && !t.closes

theorem isAlias_iff : isAlias t = true ↔
    (t.kind = .quotedName ∨ isAnyName t = true) ∧ t.opens = false ∧ t.closes = false := by
  simp [isAlias, and_assoc]

/-- A name after AS is read as it is written. -/
theorem name_alias {allowed : String → Bool} {post : Option Node → Cursor → Prop}
    (hr : c.rest = t :: k) (ht : isAlias t = true)
    (h : ∀ b cs d, d.rest = k → post (some (.mk (.name ⟨t.text, b⟩) cs [])) d) :
    (name true allowed : Rule s (Option Node)).Ensures c post := by
  refine Ensures.bind (Ensures.peek ?_)
  rw [hr]
  dsimp only [List.head?_cons]
  split
  · refine Ensures.bind (Ensures.advance hr (Ensures.bind (Ensures.node ?_)))
    exact fun cs d hd => Ensures.pure (h true cs d hd.rest)
  · next hq =>
    have hany : isAnyName t = true := (isAlias_iff.mp ht).1.resolve_left (by simpa using hq)
    rw [if_pos (by simp [hany])]
    refine Ensures.bind (Ensures.advance hr (Ensures.bind (Ensures.node ?_)))
    exact fun cs d hd => Ensures.pure (h _ cs d hd.rest)

/-- An expression and the name after its AS are a column of that name. -/
theorem named_alias (hr : c.rest = t :: k) (ht : isAlias t = true) (found : Option Node) :
    (named R true found : Rule s (Option Node)).Ensures c fun item d =>
      d.rest = k ∧ item.bind aliasName? = some t.text := by
  refine Ensures.bind (Ensures.pending (Ensures.bind (Ensures.peekKey ?_)))
  have hkey : c.key ≠ "(" := by
    rw [Ensures.key_of_rest hr]
    intro hk
    simpa [Token.opens, hk] using (isAlias_iff.mp ht).2.1
  rw [if_neg (by simpa using hkey)]
  refine Ensures.bind (name_alias hr ht fun b cs d hd => ?_)
  refine Ensures.bind (Ensures.pure ?_)
  refine Ensures.bind (Ensures.need fun this _ => Ensures.bind (Ensures.nodeWith ?_))
  intro cs d' hd'
  split
  · exact Ensures.pure ⟨hd'.rest.trans hd, rfl⟩
  · exact Ensures.pure ⟨hd'.rest.trans hd, rfl⟩

/-- A rule of an operand leaves tokens that complete it. -/
theorem completes_of_reaches {i : Nat} (hd : Reaches .operand c d) (hr : c.rest = ts ++ a :: k)
    (hc : completes i c.last ts = true) (ha : a.key = "AS") :
    ∃ zs j, d.rest = zs ++ a :: k ∧ completes j d.last zs = true := by
  obtain ⟨us, hus, hrest, hlast, -⟩ := hd
  obtain ⟨zs, j, rfl, -, hz⟩ := OperandPath.completes hus hc ha (hrest.symm.trans hr)
  refine ⟨zs, j, ?_, hlast ▸ hz⟩
  rw [hr, List.append_assoc, List.append_cancel_left_eq] at hrest
  exact hrest.symm

/-- A limit that is looked for is not passed. -/
theorem limitFollows_same : (limitFollows R : Rule s Bool).Ensures c fun _ d => SamePlace c d := by
  refine Ensures.bind (Ensures.peekKey ?_)
  split
  · exact Ensures.finds fun _ _ hd => hd
  · exact Ensures.pure (.refl c)

/-- An operand whose last tokens and whose alias are left becomes a column of that name, or the
parser gets stuck. -/
theorem aliased_column {i : Nat} (hr : c.rest = ts ++ a :: t :: k)
    (hc : completes i c.last ts = true) (ha : a.key = "AS") (ht : isAlias t = true)
    (hk : depthAfter 0 (t :: k) = some 0) (found : Option Node) :
    (aliased R false found).Ensures c fun item d =>
      d.rest = k ∧ item.bind aliasName? = some t.text ∨ Stuck d := by
  cases i with
  | succ j =>
    have hopen : Unclosed c := ⟨j, hr ▸ depthAfter_of_completes_append hc ha hk⟩
    exact hopen.ensures.mono fun _ _ hd => .inr (.inl hd)
  | zero =>
  refine Ensures.bind (limitFollows_same.mono fun limited d hd => ?_)
  have hr' := hd.rest.trans hr
  have hc' := hd.last ▸ hc
  split
  · exact Ensures.pure (.inr (.of_completes hc' ha hk hr'))
  refine Ensures.bind (Ensures.accept (by decide) (fun _ => ?_) fun u us hu hkey => ?_)
  · refine (Ensures.reaches (bareAlias R found) d).mono fun _ e he => .inr ?_
    obtain ⟨zs, j, hre, hz⟩ := completes_of_reaches he hr' hc' ha
    exact .of_completes hz ha hk hre
  · cases ts with
    | nil =>
      obtain ⟨rfl, rfl⟩ := List.cons.inj (hu.symm.trans hr')
      exact (named_alias rfl ht found).mono fun _ _ h => .inl h
    | cons v vs =>
      obtain ⟨rfl, -⟩ := List.cons.inj (hu.symm.trans hr')
      exact absurd hkey (key_ne_as_of_completes hc)

/-- A complete operand with its alias is a column of that name, or the parser gets stuck in it. -/
theorem expression_column (hr : c.rest = ts ++ a :: t :: k) (hc : completes 0 c.last ts = true)
    (ha : a.key = "AS") (ht : isAlias t = true) (hk : depthAfter 0 k = some 0) :
    (expression R).Ensures c fun item d =>
      d.rest = k ∧ item.bind aliasName? = some t.text ∨ Stuck d := by
  have hk' : depthAfter 0 (t :: k) = some 0 := by
    rw [depthAfter_of_plain (isAlias_iff.mp ht).2.1 (isAlias_iff.mp ht).2.2, hk]
  refine Ensures.bind ((Ensures.reaches (label R) c).mono fun found d hd => ?_)
  obtain ⟨us, i, hrd, hus⟩ := completes_of_reaches hd hr hc ha
  cases found with
  | some n =>
    refine (Ensures.reaches (labelled R n) d).mono fun _ e he => .inr ?_
    obtain ⟨zs, j, hre, hz⟩ := completes_of_reaches he hrd hus ha
    exact .of_completes hz ha hk' hre
  | none =>
    refine Ensures.bind ((Ensures.reaches (assignment R) d).mono fun found e he => ?_)
    obtain ⟨zs, j, hre, hz⟩ := completes_of_reaches he hrd hus ha
    exact aliased_column hre hz ha ht hk' found

theorem rules_expression_column {g : Grammar} {m : Nat} (hr : c.rest = ts ++ a :: t :: k)
    (hc : completes 0 c.last ts = true) (ha : a.key = "AS") (ht : isAlias t = true)
    (hk : depthAfter 0 k = some 0) :
    ((rules g m).expression).Ensures c fun item d =>
      d.rest = k ∧ item.bind aliasName? = some t.text ∨ Stuck d := by
  cases m with
  | zero => exact Ensures.exhaust
  | succ m => exact expression_column hr hc ha ht hk

/-! ## Many columns -/

/-- Further columns of a list: their names, their tokens with what follows them, and what follows
them. -/
inductive FurtherColumns : List String → List Token → List Token → Prop where
  | done (k : List Token) : FurtherColumns [] k k
  | more {names : List String} {u a t : Token} {ts rest k : List Token} (hu : u.key = ",")
      (hc : completes 0 (some u) ts = true) (ha : a.key = "AS") (ht : isAlias t = true)
      (h : FurtherColumns names rest k) :
      FurtherColumns (t.text :: names) (u :: (ts ++ a :: t :: rest)) k

/-- A column with its alias closes the brackets that it opens. -/
theorem depthAfter_column (hc : completes 0 last ts = true) (ha : a.key = "AS")
    (ht : isAlias t = true) : depthAfter 0 (ts ++ a :: t :: k) = depthAfter 0 k := by
  rw [depthAfter_append, depthAfter_of_completes hc, Option.bind_some,
    depthAfter_of_plain (by simp [Token.opens, ha]) (by simp [Token.closes, ha]),
    depthAfter_of_plain (isAlias_iff.mp ht).2.1 (isAlias_iff.mp ht).2.2]

theorem FurtherColumns.depthAfter (h : FurtherColumns names ts k) :
    depthAfter 0 ts = depthAfter 0 k := by
  induction h with
  | done => rfl
  | more hu hc ha ht _ ih =>
    rw [depthAfter_of_plain (by simp [Token.opens, hu]) (by simp [Token.closes, hu]),
      depthAfter_column hc ha ht, ih]

/-- A parser that is stuck reads no further items. -/
theorem listAfter_stuck (h : Stuck c) (r : Rule .clause (Option Node)) (n : Nat)
    (item : Option Node) : (listAfter r n item).Ensures c fun _ d => Stuck d := by
  refine h.ensures fun hidle => ?_
  cases n with
  | zero => exact Ensures.pure (.refl c)
  | succ n => exact Ensures.bind (accept_idle hidle (by decide) (Ensures.pure (.refl c)))

/-- The columns after one that was read. -/
theorem listAfter_columns {g : Grammar} {m n : Nat} {item : Node} {name : String}
    (h : FurtherColumns names c.rest k) (hn : c.rest.length ≤ n) (hk : depthAfter 0 k = some 0)
    (hend : k.head?.any (fun u => u.key == ",") = false) (hitem : aliasName? item = some name) :
    (listAfter (rules g m).expression n (some item)).Ensures c fun items d =>
      d.rest = k ∧ items.map aliasName? = (name :: names).map some ∨ Stuck d := by
  generalize hrest : c.rest = rest at h
  induction h generalizing c n item name with
  | done k =>
    cases n with
    | zero => exact Ensures.pure (.inl ⟨hrest, by simp [hitem]⟩)
    | succ n =>
      have hkey : c.key ≠ "," := by
        cases k with
        | nil => simp [Cursor.key, hrest]
        | cons u us => simpa [Cursor.key, hrest] using hend
      exact Ensures.bind (Ensures.accept_of_ne hkey (Ensures.pure (.inl ⟨hrest, by simp [hitem]⟩)))
  | @more names u a t ts rest k hu hc ha ht hrec ih =>
    cases n with
    | zero => simp [hrest] at hn
    | succ n =>
    refine Ensures.bind (Ensures.accept_of_eq hrest hu ?_)
    refine Ensures.bind (Ensures.bind (Ensures.takePending fun cs d hd => Ensures.pure ?_))
    have hbefore : aliasName? (item.setComments cs) = some name := by
      cases item
      exact hitem
    have hdepth : depthAfter 0 rest = some 0 := hrec.depthAfter.trans hk
    have hcolumn := rules_expression_column (g := g) (m := m) hd.rest (hd.last ▸ hc) ha ht hdepth
    refine Ensures.bind (hcolumn.mono fun found e he => Ensures.bind ?_)
    obtain ⟨he, hfound⟩ | hstuck := he
    · obtain ⟨next, rfl, hnext⟩ := Option.bind_eq_some_iff.mp hfound
      have hlength : e.rest.length ≤ n := by
        rw [hrest] at hn
        rw [he]
        simp at hn
        omega
      refine (ih hlength hk hend hnext he).mono fun items f hf => Ensures.pure ?_
      refine hf.imp (fun hf => ⟨hf.1, ?_⟩) id
      simp [hbefore, hf.2]
    · exact (listAfter_stuck hstuck _ n found).mono fun _ _ hf => Ensures.pure (.inr hf)

/-- A list of columns is read column by column, or the parser gets stuck in it. -/
theorem list_columns {g : Grammar} {m : Nat} (hr : c.rest = ts ++ a :: t :: rest)
    (hc : completes 0 c.last ts = true) (ha : a.key = "AS") (ht : isAlias t = true)
    (h : FurtherColumns names rest k) (hk : depthAfter 0 k = some 0)
    (hend : k.head?.any (fun u => u.key == ",") = false) :
    (list (rules g m).expression).Ensures c fun items d =>
      d.rest = k ∧ items.map aliasName? = (t.text :: names).map some ∨ Stuck d := by
  have hcolumn := rules_expression_column (g := g) (m := m) hr hc ha ht (h.depthAfter.trans hk)
  refine Ensures.bind (hcolumn.mono fun found d hd => Ensures.bind (Ensures.left ?_))
  obtain ⟨hd, hfound⟩ | hstuck := hd
  · obtain ⟨first, rfl, hfirst⟩ := Option.bind_eq_some_iff.mp hfound
    exact listAfter_columns (hd ▸ h) (Nat.le_refl _) hk hend hfirst
  · exact (listAfter_stuck hstuck _ _ found).mono fun _ _ he => .inr he

end SemanticLayer.Sql.Parser
