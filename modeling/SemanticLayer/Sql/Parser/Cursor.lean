import SemanticLayer.Sql.Parser.Passage
import SemanticLayer.Sql.Tree
import SemanticLayer.Text.LetterCase

/-!
# Reading tokens

The parser moves a *cursor* over the tokens of a statement. Besides the tokens that are left, the
cursor holds the comments of the last token until a node takes them. A rule that finds nothing at
the cursor answers `none`; a rule that finds the beginning of something and not its end rejects the
text. A rule carries the proof that it keeps to its scope. The rules of this module give theirs;
rules made of them with `do` have one by construction.
-/

namespace SemanticLayer.Sql.Parser

/-! ## Cursors -/

/-- Why a text is not read. -/
inductive Fault where
  /-- The text is no statement of the grammar. -/
  | rejected
  /-- The bound on nested rules was too small. -/
  | exhausted
  deriving DecidableEq, Repr

/-- A place between two tokens. -/
structure Cursor where
  rest : List Token
  /-- The number of tokens before the cursor. -/
  position : Nat := 0
  last : Option Token := none
  /-- Comments of the last token that no node has taken. -/
  pending : List String := []
  /-- The number of names made up so far. -/
  made : Nat := 0
  /-- Whether PRIOR may stand before an operand. -/
  hierarchy : Bool := false

namespace Cursor

/-- The key of the token at the cursor; empty at the end. -/
def key (c : Cursor) : String := (c.rest.head?.map Token.key).getD ""

/-- The key of the token after the one at the cursor. -/
def secondKey (c : Cursor) : String := ((c.rest.drop 1).head?.map Token.key).getD ""

/-- The cursor after the token `t`, with `ts` left. -/
def past (c : Cursor) (t : Token) (ts : List Token) : Cursor :=
  { c with rest := ts, position := c.position + 1, last := some t, pending := t.comments }

/-- The cursor after the token at it, if the token's key is `key`. -/
def past? (c : Cursor) (key : String) : Option Cursor :=
  match c.rest with
  | [] => none
  | t :: ts => if t.key == key then some (c.past t ts) else none

/-- Back from `c'` to the earlier place `c`. The comments of the token before it wait again. -/
def back (c c' : Cursor) : Cursor :=
  if c'.position == c.position then c'
  else { c with pending := (c.last.map Token.comments).getD [] }

theorem past?_eq_some {c d : Cursor} {key : String} (h : c.past? key = some d) :
    ∃ t, t.key = key ∧ c.rest = t :: d.rest ∧ d.last = some t ∧ d.position = c.position + 1 := by
  unfold past? at h
  split at h
  · exact absurd h (by simp)
  · next t ts hr =>
    split at h
    · next hk =>
      obtain rfl := Option.some.inj h
      exact ⟨t, by simpa using hk, hr, rfl, rfl⟩
    · exact absurd h (by simp)

end Cursor

/-- A rule of the scope may move the cursor from `c` to `c'`. -/
def Reaches (s : Scope) (c c' : Cursor) : Prop :=
  ∃ used, Path s c.last used ∧ c.rest = used ++ c'.rest ∧ c'.last = lastAfter c.last used ∧
    c'.position = c.position + used.length

namespace Reaches

variable {s : Scope} {c d e : Cursor}

/-- A cursor at the same place. -/
theorem of_eq (hr : d.rest = c.rest) (hl : d.last = c.last) (hp : d.position = c.position) :
    Reaches s c d :=
  ⟨[], .nil s _, hr.symm, hl, hp⟩

theorem refl (c : Cursor) : Reaches s c c := of_eq rfl rfl rfl

theorem trans (h : Reaches s c d) (h' : Reaches s d e) : Reaches s c e := by
  obtain ⟨us, hu, hr, hl, hp⟩ := h
  obtain ⟨vs, hv, hr', hl', hp'⟩ := h'
  refine ⟨us ++ vs, hu.append (hl ▸ hv), ?_, ?_, ?_⟩
  · rw [hr, hr', List.append_assoc]
  · rw [hl', hl, lastAfter_append]
  · rw [hp', hp, List.length_append, Nat.add_assoc]

/-- A token that the scope lets pass. -/
theorem past {t : Token} {ts : List Token} (hr : c.rest = t :: ts)
    (h : s.passes c.last t = true) : Reaches s c (c.past t ts) :=
  ⟨[t], .single h, hr, rfl, rfl⟩

/-- A clause may move as an operand does. -/
theorem toClause (h : Reaches .operand c d) : Reaches .clause c d := by
  obtain ⟨us, hu, h⟩ := h
  exact ⟨us, hu.enclosed, h⟩

/-- A statement may move as a clause does. -/
theorem toStatement (h : Reaches .clause c d) : Reaches .statement c d := by
  obtain ⟨us, _, h⟩ := h
  exact ⟨us, trivial, h⟩

/-- All rules but those of statements stay inside the brackets around them. -/
theorem enclosed (hs : s ≠ .statement) (h : Reaches s c d) : Reaches .clause c d := by
  cases s with
  | operand => exact h.toClause
  | clause => exact h
  | statement => exact absurd rfl hs

/-- A cursor that did not pass a token is at the same place. -/
theorem eq_of_position (h : Reaches s c d) (hp : d.position = c.position) :
    d.rest = c.rest ∧ d.last = c.last := by
  obtain ⟨us, _, hr, hl, hn⟩ := h
  have hu : us = [] := List.length_eq_zero_iff.mp (by omega)
  subst hu
  exact ⟨hr.symm, hl⟩

/-- Going back to an earlier place. -/
theorem back (h : Reaches s c d) : Reaches s c (c.back d) := by
  unfold Cursor.back
  split
  · exact h
  · exact of_eq rfl rfl rfl

end Reaches

/-! ## Rules -/

/-- A rule that moves the cursor within its scope and may reject the text. -/
structure Rule (s : Scope) (α : Type) where
  run : Cursor → Except Fault (α × Cursor)
  reaches : ∀ {c : Cursor} {a : α} {c' : Cursor}, run c = .ok (a, c') → Reaches s c c'

namespace Rule

variable {s : Scope} {α β : Type}

/-- The result of a run, followed by the run of what it gives. -/
def andThen (r : Except Fault (α × Cursor)) (f : α → Cursor → Except Fault (β × Cursor)) :
    Except Fault (β × Cursor) :=
  match r with
  | .ok (a, c) => f a c
  | .error e => .error e

theorem andThen_eq_ok {r : Except Fault (α × Cursor)} {f : α → Cursor → Except Fault (β × Cursor)}
    {b : β} {c' : Cursor} (h : andThen r f = .ok (b, c')) :
    ∃ a c, r = .ok (a, c) ∧ f a c = .ok (b, c') := by
  match r, h with
  | .ok (a, c), h => exact ⟨a, c, rfl, h⟩

instance : Monad (Rule s) where
  pure a := {
    run c := .ok (a, c)
    reaches h := by
      obtain ⟨rfl, rfl⟩ := Prod.mk.inj (Except.ok.inj h)
      exact .refl _ }
  bind r f := {
    run c := andThen (r.run c) fun a d => (f a).run d
    reaches h := by
      obtain ⟨a, d, hr, hf⟩ := andThen_eq_ok h
      exact (r.reaches hr).trans ((f a).reaches hf) }

instance : MonadLift (Rule .operand) (Rule .clause) where
  monadLift r := { run := r.run, reaches h := (r.reaches h).toClause }

instance : MonadLift (Rule .clause) (Rule .statement) where
  monadLift r := { run := r.run, reaches h := (r.reaches h).toStatement }

end Rule

variable {s : Scope} {α β : Type}

def reject : Rule s α where
  run _ := .error .rejected
  reaches h := by exact absurd h (by simp)

/-- Gives up where the bound on nested rules is too small. -/
def exhaust : Rule s α where
  run _ := .error .exhausted
  reaches h := by exact absurd h (by simp)

def here : Rule s Cursor where
  run c := .ok (c, c)
  reaches h := by
    obtain ⟨rfl, rfl⟩ := Prod.mk.inj (Except.ok.inj h)
    exact .refl _

/-- Changes what the cursor holds besides its place. -/
def note (f : Cursor → Cursor) (hr : ∀ c, (f c).rest = c.rest) (hl : ∀ c, (f c).last = c.last)
    (hp : ∀ c, (f c).position = c.position) : Rule s Unit where
  run c := .ok ((), f c)
  reaches h := by
    obtain ⟨-, rfl⟩ := Prod.mk.inj (Except.ok.inj h)
    exact .of_eq (hr _) (hl _) (hp _)

/-- Moves over one token. A token that the scope does not let pass is no part of the text. -/
def advance : Rule s Unit where
  run c :=
    match c.rest with
    | [] => .ok ((), c)
    | t :: ts => if s.passes c.last t then .ok ((), c.past t ts) else .error .rejected
  reaches h := by
    split at h
    · obtain ⟨-, rfl⟩ := Prod.mk.inj (Except.ok.inj h)
      exact .refl _
    · next hr =>
      split at h
      · next hp =>
        obtain ⟨-, rfl⟩ := Prod.mk.inj (Except.ok.inj h)
        exact .past hr hp
      · exact absurd h (by simp)

/-! ## Looking ahead -/

def peek : Rule s (Option Token) := return (← here).rest.head?

/-- The key of the token at the cursor; empty at the end. -/
def peekKey : Rule s String := return (← here).key

/-- The key of the token after the one at the cursor. -/
def peekSecondKey : Rule s String := return (← here).secondKey

/-- The number of tokens that are left. -/
def left : Rule s Nat := return (← here).rest.length

/-- Moves over the token if its key is `key`. -/
def accept (key : String) : Rule s Bool := do
  if (← peekKey) == key then advance; return true
  else return false

/-- Moves over the token if that is allowed here and its key is `key`. -/
def acceptIf (allowed : Bool) (key : String) : Rule s Bool :=
  if allowed then accept key else return false

/-- Moves over the token if its key is one of `keys`. -/
def acceptOne (keys : List String) : Rule s (Option Token) := do
  match ← peek with
  | some t => if keys.contains t.key then advance; return some t else return none
  | none => return none

/-- Moves over all of `keys` or over nothing. -/
def acceptAll (keys : List String) : Rule s Bool := do
  if ((← here).rest.take keys.length).map Token.key == keys then
    keys.forM fun _ => advance
    return true
  else return false

/-- Moves over the token if its key is `key`, and rejects the text otherwise. -/
def expect (key : String) : Rule s Unit := do
  if !(← accept key) then reject

/-- Runs a rule; if it finds nothing, goes back. -/
def orBack (r : Rule s (Option α)) : Rule s (Option α) where
  run c := Rule.andThen (r.run c) fun found d =>
    .ok (found, if found.isSome then d else c.back d)
  reaches h := by
    obtain ⟨found, d, hr, h⟩ := Rule.andThen_eq_ok h
    obtain ⟨rfl, rfl⟩ := Prod.mk.inj (Except.ok.inj h)
    split
    · exact r.reaches hr
    · exact (r.reaches hr).back

/-- Runs a rule; if it rejects the text or finds nothing, goes back. -/
def attempt (r : Rule s (Option α)) : Rule s (Option α) where
  run c :=
    match (orBack r).run c with
    | .error .rejected => .ok (none, c)
    | result => result
  reaches h := by
    split at h
    · obtain ⟨-, rfl⟩ := Prod.mk.inj (Except.ok.inj h)
      exact .refl _
    · exact (orBack r).reaches h

/-- Whether a rule finds something at the cursor, which stays where it is. -/
def finds {s' : Scope} (r : Rule s' (Option α)) : Rule s Bool where
  run c := Rule.andThen ((attempt r).run c) fun found d => .ok (found.isSome, c.back d)
  reaches {c a c'} h := by
    obtain ⟨found, d, hr, h⟩ := Rule.andThen_eq_ok h
    obtain ⟨-, rfl⟩ := Prod.mk.inj (Except.ok.inj h)
    unfold Cursor.back
    split
    · next hp =>
      obtain ⟨hrest, hlast⟩ := ((attempt r).reaches hr).eq_of_position (by simpa using hp)
      exact .of_eq hrest hlast (by simpa using hp)
    · exact .of_eq rfl rfl rfl

/-! ## Brackets -/

inductive Bracket where
  | round
  | square
  | curly
  deriving DecidableEq, Repr

namespace Bracket

def opening : Bracket → String
  | round => "("
  | square => "["
  | curly => "\x7b"

def closing : Bracket → String
  | round => ")"
  | square => "]"
  | curly => "\x7d"

theorem opens_opening {b : Bracket} {t : Token} (h : t.key = b.opening) : t.opens = true := by
  cases b <;> simp [Token.opens, h, opening]

theorem closes_closing {b : Bracket} {t : Token} (h : t.key = b.closing) : t.closes = true := by
  cases b <;> simp [Token.closes, h, closing]

end Bracket

/-- The cursor after brackets around what a clause passes. -/
theorem Reaches.group {b : Bracket} {c d e f : Cursor} (ho : c.past? b.opening = some d)
    (h : Reaches .clause d e) (hc : e.past? b.closing = some f) : Reaches s c f := by
  obtain ⟨t, ht, hr, hl, hp⟩ := Cursor.past?_eq_some ho
  obtain ⟨us, hu, hr', hl', hp'⟩ := h
  obtain ⟨u, huk, hr'', hl'', hp''⟩ := Cursor.past?_eq_some hc
  refine ⟨t :: (us ++ [u]), .group (Bracket.opens_opening ht) hu (Bracket.closes_closing huk),
    ?_, ?_, ?_⟩
  · rw [hr, hr', hr'']
    simp
  · rw [hl'', lastAfter_cons, lastAfter_append, lastAfter_cons, lastAfter_nil]
  · rw [hp'', hp', hp]
    simp
    omega

/-- The cursor after brackets that stay open. -/
theorem Reaches.opening {b : Bracket} {c d e : Cursor} (ho : c.past? b.opening = some d)
    (h : Reaches s d e) : Reaches s c e := by
  obtain ⟨t, ht, hr, hl, hp⟩ := Cursor.past?_eq_some ho
  obtain ⟨us, hu, hr', hl', hp'⟩ := h
  rw [hl] at hu hl'
  refine ⟨t :: us, .opening (Bracket.opens_opening ht) hu, ?_, ?_, ?_⟩
  · rw [hr, hr', List.cons_append]
  · rw [hl', lastAfter_cons]
  · rw [hp', hp, List.length_cons]
    omega

/-- A rule in brackets. -/
def within (b : Bracket) (r : Rule .clause α) : Rule s α where
  run c :=
    match c.past? b.opening with
    | none => .error .rejected
    | some d => Rule.andThen (r.run d) fun a e =>
      match e.past? b.closing with
      | none => .error .rejected
      | some f => .ok (a, f)
  reaches h := by
    split at h
    · exact absurd h (by simp)
    · next ho =>
      obtain ⟨a, e, hr, h⟩ := Rule.andThen_eq_ok h
      split at h
      · exact absurd h (by simp)
      · next hc =>
        obtain ⟨-, rfl⟩ := Prod.mk.inj (Except.ok.inj h)
        exact .group ho (r.reaches hr) hc

/-- A rule in parentheses. -/
def wrapped (r : Rule .clause α) : Rule s α := within .round r

/-- A rule after a bracket that may stay open. Says whether it was closed. -/
def opened (b : Bracket) (r : Rule s α)
    (hs : s ≠ .statement := by
      first | exact Scope.operand_ne_statement | exact Scope.clause_ne_statement) :
    Rule s (α × Bool) where
  run c :=
    match c.past? b.opening with
    | none => .error .rejected
    | some d => Rule.andThen (r.run d) fun a e =>
      match e.past? b.closing with
      | none => .ok ((a, false), e)
      | some f => .ok ((a, true), f)
  reaches h := by
    split at h
    · exact absurd h (by simp)
    · next ho =>
      obtain ⟨a, e, hr, h⟩ := Rule.andThen_eq_ok h
      split at h
      · obtain ⟨-, rfl⟩ := Prod.mk.inj (Except.ok.inj h)
        exact .opening ho (r.reaches hr)
      · next hc =>
        obtain ⟨-, rfl⟩ := Prod.mk.inj (Except.ok.inj h)
        exact .group ho ((r.reaches hr).enclosed hs) hc

/-- Brackets that may be closed and opened again, with `keys` between them: `r` reads what stands
before that, and `k` what stands after it. -/
def reopened (b : Bracket) (keys : List String) (r : Rule .clause α) (k : α → Rule .clause β) :
    Rule s β := do
  let first ← within b do
    let a ← r
    if ((← here).rest.take (keys.length + 2)).map Token.key == b.closing :: keys ++ [b.opening] then
      return Sum.inl a
    else return Sum.inr (← k a)
  match first with
  | .inl a =>
    let _ ← acceptAll keys
    within b (k a)
  | .inr found => return found

/-! ## Marks of operands -/

/-- Moves over DISTINCT FROM or over nothing. -/
def acceptDistinctFrom : Rule .operand Bool where
  run c :=
    match (c.past? "DISTINCT").bind (·.past? "FROM") with
    | some d => .ok (true, d)
    | none => .ok (false, c)
  reaches {c a c'} h := by
    split at h
    · next d hd =>
      obtain ⟨-, rfl⟩ := Prod.mk.inj (Except.ok.inj h)
      obtain ⟨e, he, hd⟩ := Option.bind_eq_some_iff.mp hd
      obtain ⟨t, ht, hr, hl, hp⟩ := Cursor.past?_eq_some he
      obtain ⟨u, hu, hr', hl', hp'⟩ := Cursor.past?_eq_some hd
      refine ⟨[t, u], .distinctFrom ht hu .stop, ?_, ?_, ?_⟩
      · rw [hr, hr']
        rfl
      · rw [hl']
        rfl
      · rw [hp', hp]
        rfl
    · obtain ⟨-, rfl⟩ := Prod.mk.inj (Except.ok.inj h)
      exact .refl _

/-- One of the words `keys` after a star, what `r` reads after the word, and whether AS stood after
that. Nothing if the word is not there or stands before a parenthesis. -/
def starWord (keys : List String) (r : Rule .operand α) : Rule .operand (Option (α × Bool)) where
  run c :=
    match c.rest with
    | [] => .ok (none, c)
    | t :: ts =>
      if keys.contains t.key && starWords.contains t.key && ts.head?.all (·.key != "(") then
        Rule.andThen (r.run (c.past t ts)) fun a d =>
          match d.past? "AS" with
          | some e => .ok (some (a, true), e)
          | none => .ok (some (a, false), d)
      else .ok (none, c)
  reaches {c x c'} h := by
    split at h
    · obtain ⟨-, rfl⟩ := Prod.mk.inj (Except.ok.inj h)
      exact .refl _
    next t ts hr =>
    split at h
    · next hk =>
      simp only [Bool.and_eq_true] at hk
      obtain ⟨⟨-, hstar⟩, hhead⟩ := hk
      obtain ⟨a, d, hd, h⟩ := Rule.andThen_eq_ok h
      obtain ⟨us, hus, hr', hl', hp'⟩ := r.reaches hd
      have hhead : us.head?.all (fun v => v.key != "(") = true := by
        have hts : ts = us ++ d.rest := hr'
        cases us with
        | nil => rfl
        | cons v vs => simpa [hts] using hhead
      split at h
      · next e he =>
        obtain ⟨-, rfl⟩ := Prod.mk.inj (Except.ok.inj h)
        obtain ⟨u, hu, hr'', hl'', hp''⟩ := Cursor.past?_eq_some he
        refine ⟨t :: (us ++ [u]), .renamed hstar hus hhead hu .stop, ?_, ?_, ?_⟩
        · rw [hr, show ts = us ++ d.rest from hr', hr'']
          simp
        · rw [hl'']
          simp
        · rw [hp'', hp']
          simp [Cursor.past]
          omega
      · obtain ⟨-, rfl⟩ := Prod.mk.inj (Except.ok.inj h)
        refine ⟨t :: us, .ofStarWord hstar hus, ?_, ?_, ?_⟩
        · rw [hr, show ts = us ++ d.rest from hr', List.cons_append]
        · rw [hl', lastAfter_cons]
          rfl
        · rw [hp']
          simp [Cursor.past]
          omega
    · obtain ⟨-, rfl⟩ := Prod.mk.inj (Except.ok.inj h)
      exact .refl _

/-! ## Statements in brackets -/

/-- A statement inside a clause: it stays inside the brackets around it. -/
def nested (r : Rule .statement α) : Rule .clause α where
  run c := Rule.andThen (r.run c) fun a d =>
    if Enclosed (c.rest.take (c.rest.length - d.rest.length)) then .ok (a, d)
    else .error .rejected
  reaches h := by
    obtain ⟨a, d, hr, h⟩ := Rule.andThen_eq_ok h
    obtain ⟨us, -, hrest, h'⟩ := r.reaches hr
    split at h
    · next he =>
      obtain ⟨-, rfl⟩ := Prod.mk.inj (Except.ok.inj h)
      have hus : us = (us ++ d.rest).take ((us ++ d.rest).length - d.rest.length) := by simp
      rw [hrest, ← hus] at he
      exact ⟨us, he, hrest, h'⟩
    · exact absurd h (by simp)

/-! ## Nodes -/

/-- Runs a rule where PRIOR may stand before an operand. -/
def inHierarchy (r : Rule s α) : Rule s α := do
  let outer := (← here).hierarchy
  note (fun c => { c with hierarchy := true }) (fun _ => rfl) (fun _ => rfl) (fun _ => rfl)
  let a ← r
  note (fun c => { c with hierarchy := outer }) (fun _ => rfl) (fun _ => rfl) (fun _ => rfl)
  return a

/-- The number of a new name. -/
def makeUp : Rule s Nat := do
  note (fun c => { c with made := c.made + 1 }) (fun _ => rfl) (fun _ => rfl) (fun _ => rfl)
  return (← here).made

/-- The comments that wait. -/
def pending : Rule s (List String) := return (← here).pending

/-- Gives the waiting comments to a node. -/
def takePending (n : Node) : Rule s Node := do
  let comments ← pending
  if comments.isEmpty then return n
  else
    note (fun c => { c with pending := [] }) (fun _ => rfl) (fun _ => rfl) (fun _ => rfl)
    return n.addComments comments

/-- A new node, which takes the waiting comments. -/
def node (h : Head) (parts : List Node) : Rule s Node := takePending (.of h parts)

/-- A new node with the given comments, or with the waiting ones if there are none. -/
def nodeWith (comments : List String) (h : Head) (parts : List Node) : Rule s Node :=
  if comments.isEmpty then node h parts else return .mk h comments parts

/-- A part that must be there. -/
def need : Option Node → Rule s Node
  | some n => return n
  | none => reject

/-! ## Repetition -/

/-- Applies `step` to a value as long as it finds more, at most `n` times. -/
def iterate (step : α → Rule s (Option α)) : Nat → α → Rule s α
  | 0, a => return a
  | n + 1, a => do
    match ← step a with
    | some b => iterate step n b
    | none => return a

/-- Applies `step` as long as it finds more. Each step moves over a token. -/
def chain (step : α → Rule s (Option α)) (a : α) : Rule s α := do
  iterate step ((← left) + 1) a

/-- Items found by a rule until it finds none. -/
def many (item : Rule s (Option Node)) : Rule s (List Node) :=
  chain (fun ns => do match ← item with
    | some n => return some (ns ++ [n])
    | none => return none) []

/-- The items after `last` in a list divided by commas. The comments of a comma go to the item
before it. -/
def listAfter (item : Rule s (Option Node)) : Nat → Option Node → Rule s (List Node)
  | 0, last => return last.toList
  | n + 1, last => do
    if ← accept "," then
      let before ← last.mapM takePending
      let after ← item
      return before.toList ++ (← listAfter item n after)
    else return last.toList

/-- Items divided by commas. An item may be missing. -/
def list (item : Rule s (Option Node)) : Rule s (List Node) := do
  let first ← item
  listAfter item (← left) first

/-- A node in parentheses. The comments of the closing one go to it. -/
def closed (r : Rule .clause Node) : Rule s Node := do takePending (← wrapped r)

end SemanticLayer.Sql.Parser
