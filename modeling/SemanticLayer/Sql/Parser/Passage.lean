import SemanticLayer.Sql.Token

/-!
# What a rule may pass

The rules of the parser move over tokens. How far a rule may go depends on what it reads. A rule
that reads a *statement* may go anywhere. One that reads a *clause* stays inside the brackets around
it: it closes only brackets that it opened. One that reads an *operand* also stays in front of the
AS that gives the operand its alias: outside brackets it passes AS only as a name after a mark, or
inside what follows a star. Every rule carries the proof that it keeps to its scope, so what these
definitions say of tokens holds of whatever the parser reads.
-/

namespace SemanticLayer.Sql

namespace Token

def opens (t : Token) : Bool := ["(", "[", "\x7b"].contains t.key

def closes (t : Token) : Bool := [")", "]", "\x7d"].contains t.key

end Token

namespace Parser

/-- How far a rule may move. -/
inductive Scope where
  /-- Not out of the brackets around it, and not over the AS of an alias. -/
  | operand
  /-- Not out of the brackets around it. -/
  | clause
  /-- Anywhere. -/
  | statement
  deriving DecidableEq, Repr

theorem Scope.operand_ne_statement : Scope.operand ≠ .statement := by decide
theorem Scope.clause_ne_statement : Scope.clause ≠ .statement := by decide

/-! ## Brackets -/

/-- The number of open brackets after some tokens, if `d` are open before them; `none` if more are
closed than are open. -/
def depthAfter : Nat → List Token → Option Nat
  | d, [] => some d
  | d, t :: ts =>
    if t.opens then depthAfter (d + 1) ts
    else if t.closes then
      if d = 0 then none else depthAfter (d - 1) ts
    else depthAfter d ts

/-- The tokens close only brackets that they opened. -/
def Enclosed (used : List Token) : Prop := ∃ d, depthAfter 0 used = some d

instance (used : List Token) : Decidable (Enclosed used) :=
  decidable_of_iff ((depthAfter 0 used).isSome = true) Option.isSome_iff_exists

/-- The depth after two runs of tokens is the one after the second from the one after the first. -/
theorem depthAfter_append (d : Nat) (us vs : List Token) :
    depthAfter d (us ++ vs) = (depthAfter d us).bind fun e => depthAfter e vs := by
  induction us generalizing d with
  | nil => rfl
  | cons t ts ih =>
    simp only [List.cons_append, depthAfter]
    split
    · exact ih (d + 1)
    · split
      · split
        · rfl
        · exact ih (d - 1)
      · exact ih d

/-- Brackets that are open before the tokens stay open if the tokens leave them alone. -/
theorem depthAfter_add {d e : Nat} {us : List Token} (h : depthAfter d us = some e) (k : Nat) :
    depthAfter (d + k) us = some (e + k) := by
  induction us generalizing d with
  | nil =>
    rw [depthAfter, Option.some.injEq] at h
    rw [depthAfter, h]
  | cons t ts ih =>
    rw [depthAfter] at h ⊢
    by_cases ho : t.opens = true
    · rw [if_pos ho] at h ⊢
      rw [Nat.add_right_comm]
      exact ih h
    rw [if_neg ho] at h ⊢
    by_cases hc : t.closes = true
    · rw [if_pos hc] at h ⊢
      have hd : d ≠ 0 := by
        intro hd
        rw [if_pos hd] at h
        exact absurd h (by simp)
      rw [if_neg hd] at h
      rw [if_neg (by omega), show d + k - 1 = d - 1 + k by omega]
      exact ih h
    · rw [if_neg hc] at h ⊢
      exact ih h

/-- Nothing closes nothing. -/
theorem Enclosed.nil : Enclosed [] := ⟨0, rfl⟩

/-- Tokens after tokens that stay inside their brackets, staying inside theirs. -/
theorem Enclosed.append {us vs : List Token} (hu : Enclosed us) (hv : Enclosed vs) :
    Enclosed (us ++ vs) := by
  obtain ⟨d, hd⟩ := hu
  obtain ⟨e, he⟩ := hv
  refine ⟨e + d, ?_⟩
  rw [depthAfter_append, hd, Option.bind_some]
  simpa using depthAfter_add he d

/-- A token that is no bracket. -/
theorem depthAfter_of_plain {t : Token} (ho : t.opens = false) (hc : t.closes = false) (d : Nat)
    (ts : List Token) : depthAfter d (t :: ts) = depthAfter d ts := by
  simp [depthAfter, ho, hc]

/-- A token that opens brackets. -/
theorem depthAfter_of_opens {t : Token} (ho : t.opens = true) (d : Nat) (ts : List Token) :
    depthAfter d (t :: ts) = depthAfter (d + 1) ts := by
  simp [depthAfter, ho]

/-- No token both opens and closes brackets. -/
theorem opens_of_closes {t : Token} (hc : t.closes = true) : t.opens = false := by
  simp only [Token.closes, List.contains_eq_mem, List.mem_cons, List.not_mem_nil, or_false,
    decide_eq_true_eq] at hc
  obtain h | h | h := hc <;> simp [Token.opens, h]

/-- A token that opens brackets closes none. -/
theorem closes_of_opens {t : Token} (ho : t.opens = true) : t.closes = false := by
  cases hc : t.closes with
  | true => exact absurd ho (by simp [opens_of_closes hc])
  | false => rfl

/-- A token that closes brackets. -/
theorem depthAfter_of_closes {t : Token} (hc : t.closes = true) (d : Nat) (ts : List Token) :
    depthAfter (d + 1) (t :: ts) = depthAfter d ts := by
  simp [depthAfter, hc, opens_of_closes hc]

/-- Brackets around tokens that stay inside them. -/
theorem Enclosed.group {t u : Token} {us : List Token} (ht : t.opens = true) (hu : u.closes = true)
    (hus : Enclosed us) : Enclosed (t :: (us ++ [u])) := by
  obtain ⟨d, hd⟩ := hus
  refine ⟨d, ?_⟩
  rw [depthAfter_of_opens ht, depthAfter_append, depthAfter_add hd 1, Option.bind_some,
    depthAfter_of_closes hu, depthAfter]

/-- A single token that closes nothing. -/
theorem Enclosed.single {t : Token} (hc : t.closes = false) : Enclosed [t] := by
  cases ho : t.opens with
  | true => exact ⟨1, by rw [depthAfter_of_opens ho, depthAfter]⟩
  | false => exact ⟨0, by rw [depthAfter_of_plain ho hc, depthAfter]⟩

/-! ## Operands -/

/-- Marks after which any word is a name. -/
def fieldMarks : List String := [".", ":", "$", "@", "@@", "TO"]

/-- Words after a star, after which an operand may have an alias. -/
def starWords : List String := ["EXCEPT", "EXCLUDE", "REPLACE", "RENAME"]

/-- Whether an operand ends before the token: before AS, unless the mark before it makes it a name,
and before a DISTINCT that belongs to IS or NOT. `last` is the token before it. -/
def endsOperand (last : Option Token) (t : Token) : Bool :=
  t.key == "AS" && !(last.any fun u => fieldMarks.contains u.key) ||
    t.key == "DISTINCT" && last.any fun u => ["IS", "NOT"].contains u.key

/-- The last token before the cursor after it passed some tokens. -/
def lastAfter (last : Option Token) (used : List Token) : Option Token := used.getLast?.or last

@[simp] theorem lastAfter_nil (last : Option Token) : lastAfter last [] = last := rfl

@[simp] theorem lastAfter_cons (last : Option Token) (t : Token) (ts : List Token) :
    lastAfter last (t :: ts) = lastAfter (some t) ts := by
  cases ts with
  | nil => rfl
  | cons u us => simp [lastAfter, List.getLast?_cons]

@[simp] theorem lastAfter_append (last : Option Token) (us vs : List Token) :
    lastAfter last (us ++ vs) = lastAfter (lastAfter last us) vs := by
  induction us generalizing last with
  | nil => rfl
  | cons t ts ih => rw [List.cons_append, lastAfter_cons, lastAfter_cons, ih]

/-- The tokens that the rule of an operand may pass after the token `last`. Brackets that it leaves
open are passed as they are. -/
inductive OperandPath : Option Token → List Token → Prop where
  | stop {last : Option Token} : OperandPath last []
  | token {last : Option Token} {t : Token} {ts : List Token} (ho : t.opens = false)
      (hc : t.closes = false) (he : endsOperand last t = false) (h : OperandPath (some t) ts) :
      OperandPath last (t :: ts)
  | opening {last : Option Token} {t : Token} {ts : List Token} (ho : t.opens = true)
      (h : OperandPath (some t) ts) : OperandPath last (t :: ts)
  | group {last : Option Token} {t u : Token} {us ts : List Token} (ho : t.opens = true)
      (hus : Enclosed us) (hc : u.closes = true) (h : OperandPath (some u) ts) :
      OperandPath last (t :: (us ++ u :: ts))
  /-- DISTINCT FROM after IS or NOT. -/
  | distinctFrom {last : Option Token} {t u : Token} {ts : List Token} (ht : t.key = "DISTINCT")
      (hu : u.key = "FROM") (h : OperandPath (some u) ts) : OperandPath last (t :: u :: ts)
  /-- A word after a star, with an operand and its alias. -/
  | renamed {last : Option Token} {t u : Token} {us ts : List Token}
      (ht : starWords.contains t.key = true) (hus : OperandPath (some t) us)
      (hp : us.head?.all (fun v => v.key != "(") = true) (hu : u.key = "AS")
      (h : OperandPath (some u) ts) : OperandPath last (t :: (us ++ u :: ts))

/-- One operand's path after another's. -/
theorem OperandPath.append {last : Option Token} {us vs : List Token} (hu : OperandPath last us)
    (hv : OperandPath (lastAfter last us) vs) : OperandPath last (us ++ vs) := by
  induction hu with
  | stop => exact hv
  | token ho hc he _ ih => exact .token ho hc he (ih (by simpa using hv))
  | opening ho _ ih => exact .opening ho (ih (by simpa using hv))
  | group ho hus hc _ ih =>
    rw [List.cons_append, List.append_assoc, List.cons_append]
    exact .group ho hus hc (ih (by simpa using hv))
  | distinctFrom ht hu _ ih => exact .distinctFrom ht hu (ih (by simpa using hv))
  | renamed ht hus hp hu _ _ ih =>
    rw [List.cons_append, List.append_assoc, List.cons_append]
    exact .renamed ht hus hp hu (ih (by simpa using hv))

/-- A token with the key of a word closes no brackets. -/
theorem closes_of_key {t : Token} {k : String} (h : t.key = k)
    (hk : [")", "]", "\x7d"].contains k = false) : t.closes = false := by
  rw [Token.closes, h, hk]

/-- The words after a star are plain words of an operand. -/
theorem passes_starWord {t : Token} (h : starWords.contains t.key = true)
    (last : Option Token) :
    t.opens = false ∧ t.closes = false ∧ endsOperand last t = false := by
  simp only [starWords, List.contains_eq_mem, List.mem_cons, List.not_mem_nil, or_false,
    decide_eq_true_eq] at h
  obtain h | h | h | h := h <;> simp [Token.opens, Token.closes, endsOperand, h]

/-- A word after a star without an alias after it. -/
theorem OperandPath.ofStarWord {last : Option Token} {t : Token} {ts : List Token}
    (ht : starWords.contains t.key = true) (h : OperandPath (some t) ts) :
    OperandPath last (t :: ts) :=
  let ⟨ho, hc, he⟩ := passes_starWord ht last
  .token ho hc he h

/-- An operand stays inside the brackets around it. -/
theorem OperandPath.enclosed {last : Option Token} {us : List Token} (h : OperandPath last us) :
    Enclosed us := by
  induction h with
  | stop => exact .nil
  | token _ hc _ _ ih => exact (Enclosed.single hc).append ih
  | opening ho _ ih => exact (Enclosed.single (closes_of_opens ho)).append ih
  | @group _ t u us ts ho hus hc _ ih =>
    have h := (Enclosed.group ho hc hus).append ih
    rwa [List.cons_append, List.append_assoc, List.singleton_append] at h
  | distinctFrom ht hu _ ih =>
    exact (Enclosed.single (closes_of_key ht (by decide))).append
      ((Enclosed.single (closes_of_key hu (by decide))).append ih)
  | @renamed _ t u us ts ht _ _ hu _ ihus ih =>
    have h := (Enclosed.single (passes_starWord ht none).2.1).append
      (ihus.append ((Enclosed.single (closes_of_key hu (by decide))).append ih))
    simpa using h

/-! ## Paths -/

/-- The tokens that a rule of a scope may pass after the token `last`. -/
def Path : Scope → Option Token → List Token → Prop
  | .operand, last, used => OperandPath last used
  | .clause, _, used => Enclosed used
  | .statement, _, _ => True

/-- Nothing is passed in every scope. -/
theorem Path.nil (s : Scope) (last : Option Token) : Path s last [] := by
  cases s with
  | operand => exact OperandPath.stop
  | clause => exact Enclosed.nil
  | statement => trivial

/-- One path after another. -/
theorem Path.append {s : Scope} {last : Option Token} {us vs : List Token} (hu : Path s last us)
    (hv : Path s (lastAfter last us) vs) : Path s last (us ++ vs) := by
  cases s with
  | operand => exact OperandPath.append hu hv
  | clause => exact Enclosed.append hu hv
  | statement => trivial

/-- Whether a rule of the scope may pass one token after `last`. -/
def Scope.passes (s : Scope) (last : Option Token) (t : Token) : Bool :=
  match s with
  | .operand => !t.opens && !t.closes && !endsOperand last t
  | .clause => !t.opens && !t.closes
  | .statement => true

/-- A token that the scope lets pass. -/
theorem Path.single {s : Scope} {last : Option Token} {t : Token} (h : s.passes last t = true) :
    Path s last [t] := by
  cases s with
  | operand =>
    simp only [Scope.passes, Bool.and_eq_true, Bool.not_eq_true'] at h
    exact OperandPath.token h.1.1 h.1.2 h.2 .stop
  | clause =>
    simp only [Scope.passes, Bool.and_eq_true, Bool.not_eq_true'] at h
    exact Enclosed.single h.2
  | statement => trivial

/-- Brackets around what a clause passes. -/
theorem Path.group {s : Scope} {last : Option Token} {t u : Token} {us : List Token}
    (ht : t.opens = true) (hus : Enclosed us) (hu : u.closes = true) :
    Path s last (t :: (us ++ [u])) := by
  cases s with
  | operand => exact OperandPath.group ht hus hu .stop
  | clause => exact Enclosed.group ht hu hus
  | statement => trivial

/-- Brackets that stay open. -/
theorem Path.opening {s : Scope} {last : Option Token} {t : Token} {us : List Token}
    (ht : t.opens = true) (h : Path s (some t) us) : Path s last (t :: us) := by
  cases s with
  | operand => exact OperandPath.opening ht h
  | clause => exact (Enclosed.single (closes_of_opens ht)).append h
  | statement => trivial

end Parser

end SemanticLayer.Sql
