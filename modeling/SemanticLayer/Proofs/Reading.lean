import SemanticLayer.Sql.Parser

/-!
# What rules of the parser ensure

A rule that runs to its end leaves a value and a cursor. `Rule.Ensures r c post` says that whatever
the rule `r` leaves from the cursor `c` satisfies `post`; a rule that rejects the text ensures
everything. The lemmas of this module give what the primitive rules ensure, and how what a rule made
with `do` ensures follows from its parts. A rule *finds nothing* at a cursor if it answers `none`
and leaves the cursor where it is.
-/

namespace SemanticLayer.Sql.Parser

variable {s : Scope} {α β : Type} {c d e : Cursor}

/-- Whatever the rule leaves from the cursor satisfies `post`. -/
def Rule.Ensures (r : Rule s α) (c : Cursor) (post : α → Cursor → Prop) : Prop :=
  ∀ a d, r.run c = .ok (a, d) → post a d

/-- Two cursors stand between the same tokens. -/
structure SamePlace (c d : Cursor) : Prop where
  rest : d.rest = c.rest
  last : d.last = c.last
  position : d.position = c.position

namespace SamePlace

theorem refl (c : Cursor) : SamePlace c c := ⟨rfl, rfl, rfl⟩

theorem trans (h : SamePlace c d) (h' : SamePlace d e) : SamePlace c e :=
  ⟨h'.rest.trans h.rest, h'.last.trans h.last, h'.position.trans h.position⟩

theorem key (h : SamePlace c d) : d.key = c.key := by
  unfold Cursor.key
  rw [h.rest]

theorem secondKey (h : SamePlace c d) : d.secondKey = c.secondKey := by
  unfold Cursor.secondKey
  rw [h.rest]

/-- Going back after a rule leads to the same place. -/
theorem back (h : Reaches s c d) : SamePlace c (c.back d) := by
  unfold Cursor.back
  split
  · next hp =>
    obtain ⟨hrest, hlast⟩ := h.eq_of_position (by simpa using hp)
    exact ⟨hrest, hlast, by simpa using hp⟩
  · exact ⟨rfl, rfl, rfl⟩

end SamePlace

/-- The rule answers `none` at the cursor and leaves it where it is. -/
abbrev Rule.FindsNothing (r : Rule s (Option α)) (c : Cursor) : Prop :=
  r.Ensures c fun a d => a = none ∧ SamePlace c d

namespace Rule.Ensures

variable {post : α → Cursor → Prop}

theorem pure {a : α} (h : post a c) : (Pure.pure a : Rule s α).Ensures c post := by
  intro b d hr
  obtain ⟨rfl, rfl⟩ := Prod.mk.inj (Except.ok.inj hr)
  exact h

theorem bind {r : Rule s α} {f : α → Rule s β} {post : β → Cursor → Prop}
    (h : r.Ensures c fun a d => (f a).Ensures d post) : (r >>= f).Ensures c post := by
  intro b d hr
  obtain ⟨a, e, ha, hb⟩ := Rule.andThen_eq_ok hr
  exact h a e ha b d hb

theorem mono {r : Rule s α} {post' : α → Cursor → Prop} (h : r.Ensures c post)
    (hp : ∀ a d, post a d → post' a d) : r.Ensures c post' :=
  fun a d hr => hp a d (h a d hr)

/-- A rule that ensures two things. -/
theorem and {r : Rule s α} {post' : α → Cursor → Prop} (h : r.Ensures c post)
    (h' : r.Ensures c post') : r.Ensures c fun a d => post a d ∧ post' a d :=
  fun a d hr => ⟨h a d hr, h' a d hr⟩

/-- A rule moves within its scope. -/
theorem reaches (r : Rule s α) (c : Cursor) : r.Ensures c fun _ d => Reaches s c d :=
  fun _ _ hr => r.reaches hr

/-- The rule of an operand in a clause. -/
theorem toClause {r : Rule .operand α} (h : r.Ensures c post) :
    (liftM r : Rule .clause α).Ensures c post := h

theorem reject : (Parser.reject : Rule s α).Ensures c post :=
  fun _ _ hr => nomatch hr

theorem exhaust : (Parser.exhaust : Rule s α).Ensures c post :=
  fun _ _ hr => nomatch hr

/-! ## Primitive rules -/

theorem here {post : Cursor → Cursor → Prop} (h : post c c) :
    (Parser.here : Rule s Cursor).Ensures c post := by
  intro a d hr
  obtain ⟨rfl, rfl⟩ := Prod.mk.inj (Except.ok.inj hr)
  exact h

theorem note {f : Cursor → Cursor} {hr hl hp} {post : Unit → Cursor → Prop} (h : post () (f c)) :
    (Parser.note f hr hl hp : Rule s Unit).Ensures c post := by
  intro a d hr
  obtain ⟨-, rfl⟩ := Prod.mk.inj (Except.ok.inj hr)
  exact h

theorem advance {t : Token} {ts : List Token} {post : Unit → Cursor → Prop}
    (hr : c.rest = t :: ts) (h : post () (c.past t ts)) :
    (Parser.advance : Rule s Unit).Ensures c post := by
  intro a d ha
  simp only [Parser.advance, hr] at ha
  split at ha
  · obtain ⟨-, rfl⟩ := Prod.mk.inj (Except.ok.inj ha)
    exact h
  · cases ha

theorem peek {post : Option Token → Cursor → Prop} (h : post c.rest.head? c) :
    (Parser.peek : Rule s (Option Token)).Ensures c post :=
  bind (here (pure h))

theorem peekKey {post : String → Cursor → Prop} (h : post c.key c) :
    (Parser.peekKey : Rule s String).Ensures c post :=
  bind (here (pure h))

theorem peekSecondKey {post : String → Cursor → Prop} (h : post c.secondKey c) :
    (Parser.peekSecondKey : Rule s String).Ensures c post :=
  bind (here (pure h))

theorem pending {post : List String → Cursor → Prop} (h : post c.pending c) :
    (Parser.pending : Rule s (List String)).Ensures c post :=
  bind (here (pure h))

theorem left {post : Nat → Cursor → Prop} (h : post c.rest.length c) :
    (Parser.left : Rule s Nat).Ensures c post :=
  bind (here (pure h))

/-! ## Tokens with a key -/

theorem key_of_rest {t : Token} {ts : List Token} (hr : c.rest = t :: ts) : c.key = t.key := by
  simp [Cursor.key, hr]

/-- A token with another key stays where it is. -/
theorem accept_of_ne {k : String} {post : Bool → Cursor → Prop} (hk : c.key ≠ k)
    (h : post false c) : (Parser.accept k : Rule s Bool).Ensures c post := by
  refine bind (peekKey ?_)
  rw [if_neg (by simpa using hk)]
  exact pure h

/-- The token with the key is passed. -/
theorem accept_of_eq {k : String} {t : Token} {ts : List Token} {post : Bool → Cursor → Prop}
    (hr : c.rest = t :: ts) (hk : t.key = k) (h : post true (c.past t ts)) :
    (Parser.accept k : Rule s Bool).Ensures c post := by
  refine bind (peekKey ?_)
  rw [key_of_rest hr, if_pos (by simpa using hk)]
  exact bind (advance hr (pure h))

/-- The token is passed or not. -/
theorem accept {k : String} {post : Bool → Cursor → Prop} (hk : k ≠ "")
    (hf : c.key ≠ k → post false c)
    (ht : ∀ t ts, c.rest = t :: ts → t.key = k → post true (c.past t ts)) :
    (Parser.accept k : Rule s Bool).Ensures c post := by
  by_cases h : c.key = k
  · cases hr : c.rest with
    | nil => exact absurd h (by simpa [Cursor.key, hr] using hk.symm)
    | cons t ts =>
      rw [key_of_rest hr] at h
      exact accept_of_eq hr h (ht t ts hr h)
  · exact accept_of_ne h (hf h)

theorem acceptOne_of_not_mem {ks : List String} {post : Option Token → Cursor → Prop}
    (hk : c.key ∉ ks) (h : post none c) :
    (Parser.acceptOne ks : Rule s (Option Token)).Ensures c post := by
  refine bind (peek ?_)
  cases hr : c.rest with
  | nil => exact pure h
  | cons t ts =>
    rw [key_of_rest hr] at hk
    simp only [List.head?_cons, List.contains_eq_mem, hk, decide_false, Bool.false_eq_true,
      if_false]
    exact pure h

/-- One of the tokens is passed or none is. -/
theorem acceptOne {ks : List String} {post : Option Token → Cursor → Prop}
    (hn : c.key ∉ ks → post none c)
    (hs : ∀ t ts, c.rest = t :: ts → t.key ∈ ks → post (some t) (c.past t ts)) (hk : "" ∉ ks) :
    (Parser.acceptOne ks : Rule s (Option Token)).Ensures c post := by
  by_cases h : c.key ∈ ks
  · cases hr : c.rest with
    | nil => exact absurd h (by simpa [Cursor.key, hr] using hk)
    | cons t ts =>
      rw [key_of_rest hr] at h
      refine bind (peek ?_)
      simp only [hr, List.head?_cons, List.contains_eq_mem, h, decide_true, if_true]
      exact bind (advance hr (pure (hs t ts hr h)))
  · exact acceptOne_of_not_mem h (hn h)

theorem acceptAll_of_ne {k : String} {ks : List String} {post : Bool → Cursor → Prop}
    (hk : c.key ≠ k) (h : post false c) :
    (Parser.acceptAll (k :: ks) : Rule s Bool).Ensures c post := by
  refine bind (here ?_)
  have hne : ((c.rest.take (k :: ks).length).map Token.key == k :: ks) = false := by
    cases hr : c.rest with
    | nil => rfl
    | cons t ts =>
      rw [key_of_rest hr] at hk
      simp [hk]
  rw [hne]
  exact pure h

/-! ## Rules that may go back -/

theorem orBack {r : Rule s (Option α)} {post : Option α → Cursor → Prop}
    (h : r.Ensures c fun a d => a.isSome = true → post a d)
    (hn : ∀ d, SamePlace c d → post none d) : (Parser.orBack r).Ensures c post := by
  intro a d hr
  obtain ⟨found, e, he, hd⟩ := Rule.andThen_eq_ok hr
  obtain ⟨rfl, rfl⟩ := Prod.mk.inj (Except.ok.inj hd)
  cases found with
  | none => exact hn _ (.back (r.reaches he))
  | some x => exact h _ _ he rfl

/-- Looking ahead leads nowhere. -/
theorem finds {s' : Scope} {r : Rule s' (Option α)} {post : Bool → Cursor → Prop}
    (h : ∀ b d, SamePlace c d → post b d) : (Parser.finds r : Rule s Bool).Ensures c post := by
  intro b d hr
  obtain ⟨found, e, he, hd⟩ := Rule.andThen_eq_ok hr
  obtain ⟨-, rfl⟩ := Prod.mk.inj (Except.ok.inj hd)
  exact h b _ (.back ((Parser.attempt r).reaches he))

/-! ## Nodes -/

/-- Comments that wait do not change what a node is. -/
theorem takePending {n : Node} {post : Node → Cursor → Prop}
    (h : ∀ cs d, SamePlace c d → post (n.setComments cs) d) :
    (Parser.takePending n : Rule s Node).Ensures c post := by
  refine bind (pending ?_)
  split
  · have hn : n.setComments n.comments = n := by cases n; rfl
    exact pure (hn ▸ h n.comments c (.refl c))
  · have hn : n.setComments (n.comments ++ c.pending) = n.addComments c.pending := by
      cases n; rfl
    exact bind (note (pure (hn ▸ h _ _ ⟨rfl, rfl, rfl⟩)))

theorem node {head : Head} {parts : List Node} {post : Node → Cursor → Prop}
    (h : ∀ cs d, SamePlace c d → post (.mk head cs parts) d) :
    (Parser.node head parts : Rule s Node).Ensures c post :=
  takePending h

theorem nodeWith {cs : List String} {head : Head} {parts : List Node} {post : Node → Cursor → Prop}
    (h : ∀ cs d, SamePlace c d → post (.mk head cs parts) d) :
    (Parser.nodeWith cs head parts : Rule s Node).Ensures c post := by
  unfold Parser.nodeWith
  split
  · exact node h
  · exact pure (h cs c (.refl c))

theorem need {found : Option Node} {post : Node → Cursor → Prop}
    (h : ∀ n, found = some n → post n c) : (Parser.need found : Rule s Node).Ensures c post := by
  cases found with
  | none => exact reject
  | some n => exact pure (h n rfl)

/-! ## Repetition -/

/-- A chain whose first step finds nothing ends where it begins. -/
theorem chain_of_none {step : α → Rule s (Option α)} {a : α} {post : α → Cursor → Prop}
    (h : (step a).Ensures c fun b d => b = none ∧ post a d) : (Parser.chain step a).Ensures c post := by
  refine bind (left ?_)
  refine bind (h.mono ?_)
  rintro _ d ⟨rfl, hd⟩
  exact pure hd

theorem many_of_none {item : Rule s (Option Node)} {post : List Node → Cursor → Prop}
    (h : item.Ensures c fun b d => b = none ∧ post [] d) : (Parser.many item).Ensures c post := by
  refine chain_of_none (bind (h.mono ?_))
  rintro _ d ⟨rfl, hd⟩
  exact pure ⟨rfl, hd⟩

/-- A chain keeps what each of its steps keeps of the value. -/
theorem chain {step : α → Rule s (Option α)} (inv : α → Prop)
    (h : ∀ a c, inv a → (step a).Ensures c fun b _ => ∀ x, b = some x → inv x) {a : α}
    (ha : inv a) : (Parser.chain step a).Ensures c fun b _ => inv b := by
  have hiterate : ∀ (n : Nat) (a : α) (c : Cursor), inv a →
      (Parser.iterate step n a).Ensures c fun b _ => inv b := by
    intro n
    induction n with
    | zero => exact fun a c ha => pure ha
    | succ n ih =>
      refine fun a c ha => bind ((h a c ha).mono fun b d hb => ?_)
      cases b with
      | none => exact pure ha
      | some x => exact ih x d (hb x rfl)
  exact bind (left (hiterate _ a c ha))

/-! ## Brackets -/

/-- What stands in brackets and after them, if what stands in them is read up to their end. -/
theorem within {b : Bracket} {r : Rule .clause α} {t : Token} {ts : List Token}
    (hr : c.rest = t :: ts)
    (h : r.Ensures (c.past t ts) fun a e =>
      ∀ u us, e.rest = u :: us → u.key = b.closing → post a (e.past u us)) :
    (Parser.within b r : Rule s α).Ensures c post := by
  intro a f hf
  simp only [Parser.within] at hf
  split at hf
  · cases hf
  next d hd =>
  obtain rfl : c.past t ts = d := by
    simp only [Cursor.past?, hr] at hd
    split at hd
    · exact Option.some.inj hd
    · cases hd
  obtain ⟨x, e, he, hf⟩ := Rule.andThen_eq_ok hf
  split at hf
  · cases hf
  next g hg =>
  obtain ⟨rfl, rfl⟩ := Prod.mk.inj (Except.ok.inj hf)
  unfold Cursor.past? at hg
  split at hg
  · cases hg
  next u us hu =>
  split at hg
  · next hk =>
    obtain rfl := Option.some.inj hg
    exact h x e he u us hu (by simpa using hk)
  · cases hg

end Rule.Ensures

namespace Rule.FindsNothing

/-- After a rule that finds nothing, the rest runs from the same place. -/
theorem bind {r : Rule s (Option α)} {f : Option α → Rule s β} {post : β → Cursor → Prop}
    (h : r.FindsNothing c) (hf : ∀ d, SamePlace c d → (f none).Ensures d post) :
    (r >>= f).Ensures c post := by
  refine Ensures.bind (h.mono ?_)
  rintro _ d ⟨rfl, hd⟩
  exact hf d hd

theorem pure : (Pure.pure none : Rule s (Option α)).FindsNothing c := Ensures.pure ⟨rfl, .refl c⟩

/-- A rule that goes back finds nothing if it answers `none`. -/
theorem orBack {r : Rule s (Option α)} (h : r.Ensures c fun a _ => a = none) :
    (Parser.orBack r).FindsNothing c := by
  refine Ensures.orBack (h.mono ?_) fun d hd => ⟨rfl, hd⟩
  rintro a d rfl ha
  exact nomatch ha

theorem of_same {r : Rule s (Option α)} (h : SamePlace c d) (hr : r.FindsNothing d) :
    r.Ensures d fun a e => a = none ∧ SamePlace c e :=
  hr.mono fun _ _ ha => ⟨ha.1, h.trans ha.2⟩

end Rule.FindsNothing

end SemanticLayer.Sql.Parser
