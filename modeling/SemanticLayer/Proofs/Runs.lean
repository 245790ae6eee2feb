import SemanticLayer.Proofs.Reading

/-!
# Runs of the parser's rules

`Rule.Leaves r c a d` says that the rule `r` runs to its end from the cursor `c` and leaves the
value `a` and the cursor `d`. The lemmas of this module give the runs of the primitive rules, and
how the run of a rule made with `do` follows from those of its parts. A cursor is *quiet* if no
comments are around it and no arrow follows, so that going back restores it and no rule for named
arguments finds anything.
-/

namespace SemanticLayer.Sql.Parser

variable {s : Scope} {α β : Type} {c d e : Cursor} {t u : Token} {ts us : List Token} {n : Node}

/-- The rule runs to its end from `c` and leaves `a` and `d`. -/
def Rule.Leaves (r : Rule s α) (c : Cursor) (a : α) (d : Cursor) : Prop := r.run c = .ok (a, d)

namespace Rule.Leaves

theorem pure {a : α} : (Pure.pure a : Rule s α).Leaves c a c := rfl

theorem bind {r : Rule s α} {f : α → Rule s β} {a : α} {b : β} (h : r.Leaves c a e)
    (h' : (f a).Leaves e b d) : (r >>= f).Leaves c b d := by
  change Rule.andThen (r.run c) _ = _
  rw [show r.run c = _ from h]
  exact h'

/-- The rule of a clause in a statement. -/
theorem toStatement {r : Rule .clause α} {a : α} (h : r.Leaves c a d) :
    (liftM r : Rule .statement α).Leaves c a d := h

/-! ## Tokens -/

theorem here : (Parser.here : Rule s Cursor).Leaves c c c := rfl
theorem peek : (Parser.peek : Rule s (Option Token)).Leaves c c.rest.head? c := rfl
theorem peekKey : (Parser.peekKey : Rule s String).Leaves c c.key c := rfl
theorem peekSecondKey : (Parser.peekSecondKey : Rule s String).Leaves c c.secondKey c := rfl
theorem pending : (Parser.pending : Rule s (List String)).Leaves c c.pending c := rfl
theorem left : (Parser.left : Rule s Nat).Leaves c c.rest.length c := rfl

theorem advance (hr : c.rest = t :: ts) (hp : s.passes c.last t = true) :
    (Parser.advance : Rule s Unit).Leaves c () (c.past t ts) := by
  simp only [Rule.Leaves, Parser.advance, hr, hp, if_true]

theorem accept_of_ne {k : String} (hk : c.key ≠ k) :
    (Parser.accept k : Rule s Bool).Leaves c false c := by
  refine bind peekKey ?_
  rw [if_neg (by simpa using hk)]
  exact pure

theorem accept_of_eq {k : String} (hr : c.rest = t :: ts) (hk : t.key = k)
    (hp : s.passes c.last t = true) :
    (Parser.accept k : Rule s Bool).Leaves c true (c.past t ts) := by
  refine bind peekKey ?_
  rw [Ensures.key_of_rest hr, if_pos (by simpa using hk)]
  exact bind (advance hr hp) pure

theorem acceptIf_of_ne {allowed : Bool} {k : String} (hk : c.key ≠ k) :
    (Parser.acceptIf allowed k : Rule s Bool).Leaves c false c := by
  unfold Parser.acceptIf
  split
  · exact accept_of_ne hk
  · exact pure

theorem acceptOne_of_not_mem {ks : List String} (hk : c.key ∉ ks) :
    (Parser.acceptOne ks : Rule s (Option Token)).Leaves c none c := by
  refine bind peek ?_
  cases hr : c.rest with
  | nil => exact pure
  | cons t ts =>
    rw [Ensures.key_of_rest hr] at hk
    simp only [List.head?_cons, List.contains_eq_mem, hk, decide_false, Bool.false_eq_true,
      if_false]
    exact pure

theorem acceptAll_of_ne {k : String} {ks : List String} (hk : c.key ≠ k) :
    (Parser.acceptAll (k :: ks) : Rule s Bool).Leaves c false c := by
  refine bind here ?_
  have hne : ((c.rest.take (k :: ks).length).map Token.key == k :: ks) = false := by
    cases hr : c.rest with
    | nil => rfl
    | cons t ts =>
      rw [Ensures.key_of_rest hr] at hk
      simp [hk]
  rw [hne]
  exact pure

/-! ## Rules that may go back -/

theorem orBack_some {r : Rule s (Option α)} {a : α} (h : r.Leaves c (some a) d) :
    (Parser.orBack r).Leaves c (some a) d := by
  change Rule.andThen (r.run c) _ = _
  rw [show r.run c = _ from h]
  rfl

theorem orBack_none {r : Rule s (Option α)} (h : r.Leaves c none d) :
    (Parser.orBack r).Leaves c none (c.back d) := by
  change Rule.andThen (r.run c) _ = _
  rw [show r.run c = _ from h]
  rfl

/-- A rule that moves nowhere has nowhere to go back to. -/
theorem orBack_here {r : Rule s (Option α)} (h : r.Leaves c none c) :
    (Parser.orBack r).Leaves c none c := by
  have hback : c.back c = c := by simp [Cursor.back]
  have hrun := orBack_none h
  rwa [hback] at hrun

/-! ## Nodes -/

theorem takePending (hp : c.pending = []) : (Parser.takePending n : Rule s Node).Leaves c n c := by
  refine bind pending ?_
  rw [hp]
  exact pure

theorem node {head : Head} {parts : List Node} (hp : c.pending = []) :
    (Parser.node head parts : Rule s Node).Leaves c (.of head parts) c := takePending hp

/-- Comments that were taken from a cursor without any. -/
theorem nodeWith {comments : List String} {head : Head} {parts : List Node} (hc : comments = [])
    (hp : c.pending = []) :
    (Parser.nodeWith comments head parts : Rule s Node).Leaves c (.of head parts) c := by
  subst hc
  exact node hp

theorem need : (Parser.need (some n) : Rule s Node).Leaves c n c := rfl

/-! ## Repetition -/

/-- A chain whose first step finds nothing. -/
theorem chain_of_none {step : α → Rule s (Option α)} {a : α} (h : (step a).Leaves c none d) :
    (Parser.chain step a).Leaves c a d :=
  bind left (bind h pure)

/-- A list that ends after its first item. -/
theorem list_one {item : Rule s (Option Node)} {x : Option Node} (h : item.Leaves c x d)
    (hd : d.key ≠ ",") : (Parser.list item).Leaves c x.toList d := by
  refine bind h (bind left ?_)
  cases d.rest.length with
  | zero => exact pure
  | succ l => exact bind (accept_of_ne hd) pure

/-- A list of two items. -/
theorem list_two {item : Rule s (Option Node)} {n n' : Node} (h : item.Leaves c (some n) d)
    (hr : d.rest = t :: ts) (ht : t.key = ",") (hp : s.passes d.last t = true)
    (hpending : t.comments = []) (h' : item.Leaves (d.past t ts) (some n') e) (he : e.key ≠ ",") :
    (Parser.list item).Leaves c [n, n'] e := by
  have hafter (l : Nat) : (Parser.listAfter item l (some n')).Leaves e [n'] e := by
    cases l with
    | zero => exact pure
    | succ l => exact bind (accept_of_ne he) pure
  refine bind h (bind left ?_)
  rw [hr, List.length_cons]
  refine bind (accept_of_eq hr ht hp) ?_
  refine bind (a := some n) ?_ (bind h' (bind (hafter _) pure))
  exact bind (takePending hpending) pure

/-! ## Brackets -/

theorem within {b : Bracket} {r : Rule .clause α} {a : α} (hr : c.rest = t :: ts)
    (ht : t.key = b.opening) (h : r.Leaves (c.past t ts) a e) (he : e.rest = u :: us)
    (hu : u.key = b.closing) : (Parser.within b r : Rule s α).Leaves c a (e.past u us) := by
  have hopen : c.past? b.opening = some (c.past t ts) := by simp [Cursor.past?, hr, ht]
  have hclose : e.past? b.closing = some (e.past u us) := by simp [Cursor.past?, he, hu]
  simp only [Rule.Leaves, Parser.within, hopen]
  rw [show r.run (c.past t ts) = _ from h]
  simp only [Rule.andThen, hclose]

end Rule.Leaves

/-! ## Quiet cursors -/

/-- The token has no comments, is no arrow and ends no statement, and it is no bracket unless it is
a mark. -/
structure Clean (t : Token) : Prop where
  comments : t.comments = []
  semicolon : t.key ≠ ";"
  arrow : t.key ≠ "->" ∧ t.key ≠ "=>"
  bracket : t.kind ≠ .symbol → t.opens = false ∧ t.closes = false

/-- No comments are around the cursor and no arrows follow it. -/
structure Cursor.Quiet (c : Cursor) : Prop where
  pending : c.pending = []
  last : ∀ t ∈ c.last, t.comments = []
  rest : ∀ t ∈ c.rest, Clean t

namespace Cursor

/-- The cursor after some of the tokens that follow it. -/
def after (c : Cursor) : List Token → Cursor
  | [] => c
  | t :: ts => (c.past t c.rest.tail).after ts

theorem after_cons (hr : c.rest = t :: us) : c.after (t :: ts) = (c.past t us).after ts := by
  rw [after, hr, List.tail_cons]

theorem after_one (hr : c.rest = t :: ts) : c.after [t] = c.past t ts := after_cons hr

theorem after_append : c.after (ts ++ us) = (c.after ts).after us := by
  induction ts generalizing c with
  | nil => rfl
  | cons t ts ih => exact ih

theorem rest_after {k : List Token} (hr : c.rest = ts ++ k) : (c.after ts).rest = k := by
  induction ts generalizing c with
  | nil => exact hr
  | cons t ts ih =>
    rw [List.cons_append] at hr
    rw [after_cons hr]
    exact ih rfl

theorem position_after : (c.after ts).position = c.position + ts.length := by
  induction ts generalizing c with
  | nil => rfl
  | cons t ts ih =>
    rw [after, ih, List.length_cons]
    change c.position + 1 + ts.length = _
    omega

/-- One more token. -/
theorem past_after {k : List Token} (hr : c.rest = ts ++ t :: k) :
    (c.after ts).past t k = c.after (ts ++ [t]) := by
  rw [after_append, after_one (rest_after hr)]

namespace Quiet

theorem past (h : c.Quiet) (hr : c.rest = t :: ts) : (c.past t ts).Quiet where
  pending := (h.rest t (by simp [hr])).comments
  last := by
    rintro _ ⟨⟩
    exact (h.rest t (by simp [hr])).comments
  rest u hu := h.rest u (by simp only [hr, List.mem_cons]; exact .inr hu)

theorem after {k : List Token} (h : c.Quiet) (hr : c.rest = ts ++ k) : (c.after ts).Quiet := by
  induction ts generalizing c with
  | nil => exact h
  | cons t ts ih =>
    rw [List.cons_append] at hr
    rw [after_cons hr]
    exact ih (h.past hr) rfl

/-- Going back restores a quiet cursor. -/
theorem back_after (h : c.Quiet) : c.back (c.after ts) = c := by
  unfold Cursor.back
  split
  · next hp =>
    have hlength : ts.length = 0 := by simpa [position_after] using hp
    rw [List.length_eq_zero_iff.mp hlength, Cursor.after]
  · have hlast : (c.last.map Token.comments).getD [] = c.pending := by
      rw [h.pending]
      cases hl : c.last with
      | none => rfl
      | some t => exact h.last t hl
    rw [hlast]

/-- No arrow follows a quiet cursor. -/
theorem key_ne_arrow (h : c.Quiet) : c.key ≠ "->" ∧ c.key ≠ "=>" := by
  cases hr : c.rest with
  | nil => simp [key, hr]
  | cons t ts =>
    rw [Rule.Ensures.key_of_rest hr]
    exact (h.rest t (by simp [hr])).arrow

end Quiet

/-- The tokens end, or go on with one of some marks. -/
def EndsBy (c : Cursor) (keys : List String) : Prop :=
  ∀ t ∈ c.rest.head?, t.kind = .symbol ∧ t.key ∈ keys

namespace EndsBy

variable {keys : List String}

theorem mono {keys' : List String} (h : c.EndsBy keys) (hk : keys ⊆ keys') : c.EndsBy keys' :=
  fun t ht => ⟨(h t ht).1, hk (h t ht).2⟩

theorem key_mem (h : c.EndsBy keys) : c.key ∈ "" :: keys := by
  unfold key
  cases hr : c.rest with
  | nil => simp
  | cons t ts =>
    have := (h t (by simp [hr])).2
    simp [this]

theorem key_ne (h : c.EndsBy keys) {k : String} (hk : k ∉ "" :: keys) : c.key ≠ k :=
  fun he => hk (he ▸ h.key_mem)

/-- No operator of a table follows. -/
theorem lookup_key (h : c.EndsBy keys) {table : List (String × β)}
    (ht : ∀ p ∈ table, p.1 ∉ "" :: keys) : table.lookup c.key = none := by
  rw [List.lookup_eq_none_iff]
  intro p hp
  simpa using h.key_ne (ht p hp)

/-- No name follows. -/
theorem name (h : c.EndsBy keys) {allowed : String → Bool} :
    (Parser.name false allowed : Rule s (Option Node)).Leaves c none c := by
  refine Rule.Leaves.bind .peek ?_
  cases hr : c.rest with
  | nil => exact .pure
  | cons t ts =>
    obtain ⟨hkind, -⟩ := h t (by simp [hr])
    dsimp only [List.head?_cons]
    rw [if_neg (by simp [hkind]), if_neg (by simp [Token.isWord, hkind])]
    exact .pure

end EndsBy

end Cursor

end SemanticLayer.Sql.Parser
