import Mathlib.Data.List.Induction
import SemanticLayer.Dialect.Backends

/-!
# The backends as a store

Calls register dialects and ask for adapters, in any order. `Answers calls n` says what a request
for the name `n` after `calls` is answered: the dialect registered last under the *key* of the name
decides, and the adapter stays the same until something is registered under that key.

What a request does is said once (`adapter_cases`). From it follows that each call keeps the
adapters in use consistent with the dialects (`next_consistent`), and by induction that every run
does (`after_consistent`). That two adapters of different times are different ones rests on a second
invariant (`Retired`): the number of an adapter that was dropped does not come back.

The key of a name is its lower case, and for an alias the name that the alias stands for. Dialects
are registered under the lower case alone, so one that is registered under an alias is never given
out (`alias_hides_dialect`).
-/

namespace SemanticLayer.Backends

/-! ## Calls -/

/-- A call on the backends. -/
inductive Call where
  /-- A dialect is registered under a name. -/
  | register (name : String) (d : Dialect)
  /-- The adapter of a name is asked for. -/
  | get (name : String)

/-- The dialect that a call registers under a name in lower case. -/
def Call.registers (k : String) : Call → Option Dialect
  | register name d => if Text.lower name = k then some d else none
  | get _ => none

/-- The backends after a call. A request that is refused changes nothing. -/
def next (b : Backends) : Call → Backends
  | .register name d => b.register name d
  | .get name => ((b.adapter name).toOption.map Prod.snd).getD b

/-- The backends after calls, from the start. -/
def after (calls : List Call) : Backends := calls.foldl next standard

/-- The answer to a request for a name after calls. -/
def answer (calls : List Call) (n : String) : Except UnknownDialect Adapter :=
  ((after calls).adapter n).map Prod.fst

/-- The dialect that was registered last under a name in lower case. Those known at the start count
as registered before all calls. -/
def latest (calls : List Call) (k : String) : Option Dialect :=
  (calls.reverse.findSome? (Call.registers k)).or (standard.dialects.lookup k)

/-- The dialect that a name stands for if its own registration comes before its use as an alias. -/
def ownOrAliased (calls : List Call) (n : String) : Option Dialect :=
  (latest calls (Text.lower n)).or ((aliases.lookup (Text.lower n)).bind (latest calls))

/-- What a request for the name `n` after `calls` is answered. -/
structure Answers (calls : List Call) (n : String) : Prop where
  /-- It is answered with an adapter of the dialect registered last under the key of the name. -/
  dialect_iff : ∀ d, (∃ a, answer calls n = .ok a ∧ a.dialect = d) ↔ latest calls (key n) = some d
  /-- It is refused exactly if the name is neither registered nor an alias. -/
  refused_iff : (∃ e, answer calls n = .error e) ↔
    latest calls (Text.lower n) = none ∧ aliases.lookup (Text.lower n) = none
  /-- A refusal gives the name back, with the names that are registered. -/
  refusal : ∀ e, answer calls n = .error e →
    e.given = n ∧ ∀ k, k ∈ e.available ↔ ∃ d, latest calls k = some d
  /-- It is answered with the dialect registered last under the name itself, or else under the name
  that it is an alias of, exactly if no alias was registered with a dialect of its own. -/
  own_iff : (∀ d, ownOrAliased calls n = some d → ∃ a, answer calls n = .ok a ∧ a.dialect = d) ↔
    ∀ k d, aliases.lookup (Text.lower n) = some k → latest calls (Text.lower n) = some d →
      latest calls k = some d
  /-- A later request for a name with the same key is answered with the same adapter if nothing was
  registered under the key in between. -/
  shared : ∀ a more n', answer calls n = .ok a → key n' = key n →
    (∀ call ∈ more, call.registers (key n) = none) →
      answer (calls ++ .get n :: more) n' = .ok a
  /-- In all other cases it is another adapter. -/
  apart : ∀ a more n' a', answer calls n = .ok a →
    answer (calls ++ .get n :: more) n' = .ok a' → a'.serial = a.serial →
      key n' = key n ∧ ∀ call ∈ more, call.registers (key n) = none

/-! ## Tables of names -/

section

variable {α : Type} (name : String) (es : List (String × α))

/-- What was taken out of a table is not found. -/
@[simp] theorem lookup_without_self : (without name es).lookup name = none := by
  rw [List.lookup_eq_none_iff]
  intro e he
  have hne : e.1 ≠ name := by simpa using (List.mem_filter.1 he).2
  exact bne_iff_ne.2 hne.symm

/-- What stands under other names is still found. -/
theorem lookup_without_of_ne {k : String} (h : k ≠ name) :
    (without name es).lookup k = es.lookup k := by
  induction es with
  | nil => rfl
  | cons e es ih =>
    by_cases he : e.1 = name
    · have hdrop : without name (e :: es) = without name es :=
        List.filter_cons_of_neg (by simp [he])
      have hk : (k == e.1) = false := beq_false_of_ne (he.symm ▸ h)
      rw [hdrop, ih, List.lookup_cons, hk]
    · have hkeep : without name (e :: es) = e :: without name es :=
        List.filter_cons_of_pos (by simp [he])
      rw [hkeep, List.lookup_cons, List.lookup_cons, ih]

/-- A table in which an entry was replaced. -/
theorem lookup_replaced (k : String) (a : α) :
    (without name es ++ [(name, a)]).lookup k = if name = k then some a else es.lookup k := by
  rw [List.lookup_append]
  by_cases h : name = k
  · subst h
    simp
  · rw [lookup_without_of_ne name es (Ne.symm h), if_neg h]
    have hk : (k == name) = false := beq_false_of_ne (Ne.symm h)
    rw [List.lookup_cons, hk]
    exact Option.or_none

end

/-! ## One call -/

section

variable (b : Backends)

/-- The dialects after a registration. -/
theorem lookup_dialects_register (name : String) (d : Dialect) (k : String) :
    (b.register name d).dialects.lookup k =
      (Call.registers k (.register name d)).or (b.dialects.lookup k) := by
  rw [Call.registers]
  refine (lookup_replaced (Text.lower name) b.dialects k d).trans ?_
  split <;> rfl

/-- The adapters after a registration: the one under the name is dropped. -/
theorem lookup_adapters_register (name : String) (d : Dialect) (k : String) :
    (b.register name d).adapters.lookup k =
      if Text.lower name = k then none else b.adapters.lookup k := by
  rw [register]
  split
  · rename_i h
    rw [← h]
    exact lookup_without_self _ _
  · rename_i h
    exact lookup_without_of_ne _ _ (Ne.symm h)

/-- The ways in which a request ends: with an adapter that is in use, with a new one, or with the
refusal of a name that is not registered. -/
theorem adapter_cases (n : String) :
    (∃ a, b.adapters.lookup (key n) = some a ∧ b.adapter n = .ok (a, b)) ∨
      (∃ d, b.adapters.lookup (key n) = none ∧ b.dialects.lookup (key n) = some d ∧
        b.adapter n = .ok (⟨d, b.made⟩,
          { b with adapters := b.adapters ++ [(key n, ⟨d, b.made⟩)], made := b.made + 1 })) ∨
      (b.adapters.lookup (key n) = none ∧ b.dialects.lookup (key n) = none ∧
        b.adapter n = .error { given := n, available := b.available }) := by
  rw [adapter, dialect]
  cases b.adapters.lookup (key n) with
  | some a => exact .inl ⟨a, rfl, rfl⟩
  | none =>
    refine .inr ?_
    cases b.dialects.lookup (key n) with
    | some d => exact .inl ⟨d, rfl, rfl, rfl⟩
    | none => exact .inr ⟨rfl, rfl, rfl⟩

/-- The ways in which a request changes the backends: not at all, or by a new adapter under a key
that had none. -/
theorem next_get_cases (n : String) :
    b.next (.get n) = b ∨
      ∃ d, b.adapters.lookup (key n) = none ∧ b.dialects.lookup (key n) = some d ∧
        b.next (.get n) =
          { b with adapters := b.adapters ++ [(key n, ⟨d, b.made⟩)], made := b.made + 1 } := by
  rcases b.adapter_cases n with ⟨a, -, hrun⟩ | ⟨d, hnone, hd, hrun⟩ | ⟨-, -, hrun⟩
  · left
    rw [next, hrun]
    rfl
  · refine .inr ⟨d, hnone, hd, ?_⟩
    rw [next, hrun]
    rfl
  · left
    rw [next, hrun]
    rfl

/-- A call changes the dialects by what it registers. -/
theorem lookup_dialects_next (call : Call) (k : String) :
    (b.next call).dialects.lookup k = (call.registers k).or (b.dialects.lookup k) := by
  cases call with
  | register name d => exact b.lookup_dialects_register name d k
  | get n =>
    rcases b.next_get_cases n with hsame | ⟨d, -, -, hnew⟩
    · rw [hsame]
      rfl
    · rw [hnew]
      rfl

/-- The adapter under a key after a new one was put in use under `k`. -/
theorem lookup_adapters_put {k : String} (a : Adapter) (h : b.adapters.lookup k = none)
    (k' : String) :
    (b.adapters ++ [(k, a)]).lookup k' = if k = k' then some a else b.adapters.lookup k' := by
  rw [List.lookup_append]
  by_cases hk : k = k'
  · subst hk
    simp [h]
  · have hk' : (k' == k) = false := beq_false_of_ne (Ne.symm hk)
    rw [if_neg hk, List.lookup_cons, hk']
    exact Option.or_none

end

/-! ## The adapters in use -/

/-- The adapters in use belong to the registered dialects and have numbers of their own. -/
structure Consistent (b : Backends) : Prop where
  /-- An adapter is one of the dialect registered under its key. -/
  current : ∀ k a, b.adapters.lookup k = some a → b.dialects.lookup k = some a.dialect
  /-- The numbers were given out. -/
  numbered : ∀ k a, b.adapters.lookup k = some a → a.serial < b.made
  /-- No number is in use under two keys. -/
  distinct : ∀ k k' a a', b.adapters.lookup k = some a → b.adapters.lookup k' = some a' →
    a.serial = a'.serial → k = k'

/-- At the start no adapter is in use. -/
theorem standard_consistent : standard.Consistent := by
  have hnone : ∀ k, standard.adapters.lookup k = none := fun _ => rfl
  refine ⟨?_, ?_, ?_⟩
  · intro k a ha
    rw [hnone] at ha
    nomatch ha
  · intro k a ha
    rw [hnone] at ha
    nomatch ha
  · intro k k' a a' ha
    rw [hnone] at ha
    nomatch ha

/-- A registration drops an adapter and leaves the others consistent. -/
theorem register_consistent {b : Backends} (hb : b.Consistent) (name : String) (d : Dialect) :
    (b.register name d).Consistent := by
  -- An adapter that is left was in use before, under another key than the name.
  have hleft : ∀ k a, (b.register name d).adapters.lookup k = some a →
      Text.lower name ≠ k ∧ b.adapters.lookup k = some a := by
    intro k a ha
    rw [lookup_adapters_register] at ha
    split at ha
    · nomatch ha
    · rename_i hne
      exact ⟨hne, ha⟩
  refine ⟨?_, ?_, ?_⟩
  · intro k a ha
    obtain ⟨hne, ha⟩ := hleft k a ha
    rw [lookup_dialects_register, Call.registers, if_neg hne]
    exact hb.current k a ha
  · intro k a ha
    exact hb.numbered k a (hleft k a ha).2
  · intro k k' a a' ha ha'
    exact hb.distinct k k' a a' (hleft k a ha).2 (hleft k' a' ha').2

/-- A new adapter has a number of its own. -/
theorem put_consistent {b : Backends} (hb : b.Consistent) {k : String} {d : Dialect}
    (hnone : b.adapters.lookup k = none) (hd : b.dialects.lookup k = some d) :
    Consistent { b with adapters := b.adapters ++ [(k, ⟨d, b.made⟩)], made := b.made + 1 } := by
  -- An adapter is the new one, or was in use before.
  have hcases : ∀ k' a, (b.adapters ++ [(k, Adapter.mk d b.made)]).lookup k' = some a →
      (k = k' ∧ a = ⟨d, b.made⟩) ∨ b.adapters.lookup k' = some a := by
    intro k' a ha
    rw [b.lookup_adapters_put _ hnone] at ha
    split at ha
    · rename_i hk
      exact .inl ⟨hk, (Option.some.inj ha).symm⟩
    · exact .inr ha
  refine ⟨?_, ?_, ?_⟩
  · intro k' a ha
    rcases hcases k' a ha with ⟨rfl, rfl⟩ | hold
    · exact hd
    · exact hb.current k' a hold
  · intro k' a ha
    rcases hcases k' a ha with ⟨rfl, rfl⟩ | hold
    · exact Nat.lt_succ_self _
    · exact Nat.lt_succ_of_lt (hb.numbered k' a hold)
  · intro k₁ k₂ a₁ a₂ h₁ h₂ hserial
    rcases hcases k₁ a₁ h₁ with ⟨rfl, rfl⟩ | hold₁ <;>
      rcases hcases k₂ a₂ h₂ with ⟨rfl, rfl⟩ | hold₂
    · rfl
    · exact absurd hserial.symm (Nat.ne_of_lt (hb.numbered k₂ a₂ hold₂))
    · exact absurd hserial (Nat.ne_of_lt (hb.numbered k₁ a₁ hold₁))
    · exact hb.distinct k₁ k₂ a₁ a₂ hold₁ hold₂ hserial

/-- A call keeps the adapters consistent. -/
theorem next_consistent {b : Backends} (hb : b.Consistent) (call : Call) :
    (b.next call).Consistent := by
  cases call with
  | register name d => exact register_consistent hb name d
  | get n =>
    rcases b.next_get_cases n with hsame | ⟨d, hnone, hd, hnew⟩
    · rw [hsame]
      exact hb
    · rw [hnew]
      exact put_consistent hb hnone hd

/-! ## An adapter over time -/

/-- An adapter stays in use until something is registered under its key. -/
theorem lookup_next_of_registers_none {b : Backends} {k : String} {a : Adapter}
    (ha : b.adapters.lookup k = some a) {call : Call} (hcall : call.registers k = none) :
    (b.next call).adapters.lookup k = some a := by
  cases call with
  | register name d =>
    have hne : Text.lower name ≠ k := by
      intro h
      rw [Call.registers, if_pos h] at hcall
      nomatch hcall
    rw [next, lookup_adapters_register, if_neg hne]
    exact ha
  | get n =>
    rcases b.next_get_cases n with hsame | ⟨d, -, -, hnew⟩
    · rw [hsame]
      exact ha
    · rw [hnew, List.lookup_append, ha]
      rfl

/-- The adapter with the number `s` was given out and is not in use any more. -/
structure Retired (b : Backends) (s : Nat) : Prop where
  /-- The number was given out. -/
  given : s < b.made
  /-- No adapter in use has it. -/
  unused : ∀ k a, b.adapters.lookup k = some a → a.serial ≠ s

/-- A registration under the key of an adapter retires it. -/
theorem next_retires {b : Backends} (hb : b.Consistent) {k : String} {a : Adapter}
    (ha : b.adapters.lookup k = some a) {call : Call} {d : Dialect}
    (hcall : call.registers k = some d) : (b.next call).Retired a.serial := by
  cases call with
  | get n => nomatch hcall
  | register name e =>
    have hname : Text.lower name = k := by
      rw [Call.registers] at hcall
      split at hcall
      · assumption
      · nomatch hcall
    refine ⟨hb.numbered k a ha, ?_⟩
    intro k' a' ha' hserial
    rw [next, lookup_adapters_register] at ha'
    split at ha'
    · nomatch ha'
    · rename_i hne
      exact hne (hname.trans (hb.distinct k k' a a' ha ha' hserial.symm))

/-- An adapter that is retired stays so. -/
theorem Retired.next {b : Backends} {s : Nat} (h : b.Retired s) (call : Call) :
    (b.next call).Retired s := by
  cases call with
  | register name d =>
    refine ⟨h.given, ?_⟩
    intro k a ha
    rw [Backends.next, lookup_adapters_register] at ha
    split at ha
    · nomatch ha
    · exact h.unused k a ha
  | get n =>
    rcases b.next_get_cases n with hsame | ⟨d, hnone, -, hnew⟩
    · rw [hsame]
      exact h
    · rw [hnew]
      refine ⟨Nat.lt_succ_of_lt h.given, ?_⟩
      intro k a ha
      rw [b.lookup_adapters_put _ hnone] at ha
      split at ha
      · -- The new adapter has a number that was not given out before.
        obtain rfl := Option.some.inj ha
        exact Nat.ne_of_gt h.given
      · exact h.unused k a ha

/-! ## Runs -/

/-- One more call at the end of a run. -/
theorem after_append (calls more : List Call) :
    after (calls ++ more) = more.foldl next (after calls) := List.foldl_append

/-- After every run the adapters are consistent. -/
theorem after_consistent (calls : List Call) : (after calls).Consistent := by
  induction calls using List.reverseRecOn with
  | nil => exact standard_consistent
  | append_singleton calls call ih =>
    rw [after_append]
    exact next_consistent ih call

/-- After every run the dialect under a name is the one registered last. -/
theorem lookup_dialects_after (calls : List Call) (k : String) :
    (after calls).dialects.lookup k = latest calls k := by
  induction calls using List.reverseRecOn with
  | nil => rfl
  | append_singleton calls call ih =>
    have hlatest : latest (calls ++ [call]) k = (call.registers k).or (latest calls k) := by
      unfold latest
      rw [List.reverse_append, List.reverse_singleton, List.singleton_append,
        List.findSome?_cons]
      cases call.registers k <;> rfl
    rw [after_append, hlatest, ← ih]
    exact lookup_dialects_next _ call k

/-- An adapter stays in use through calls that register nothing under its key. -/
theorem lookup_foldl_of_registers_none {b : Backends} {k : String} {a : Adapter}
    (ha : b.adapters.lookup k = some a) {more : List Call}
    (hmore : ∀ call ∈ more, call.registers k = none) :
    (more.foldl next b).adapters.lookup k = some a := by
  induction more generalizing b with
  | nil => exact ha
  | cons call more ih =>
    have hnext := lookup_next_of_registers_none ha (hmore call List.mem_cons_self)
    exact ih hnext fun c hc => hmore c (List.mem_cons_of_mem call hc)

/-- An adapter that is retired stays so through all calls. -/
theorem Retired.foldl {b : Backends} {s : Nat} (h : b.Retired s) (more : List Call) :
    (more.foldl Backends.next b).Retired s := by
  induction more generalizing b with
  | nil => exact h
  | cons call more ih => exact ih (h.next call)

/-- An adapter in use is still the one under its key after further calls, or something was
registered under the key and the adapter is retired. -/
theorem inUse_or_retired {b : Backends} (hb : b.Consistent) {k : String} {a : Adapter}
    (ha : b.adapters.lookup k = some a) (more : List Call) :
    (∀ call ∈ more, call.registers k = none) ∧ (more.foldl next b).adapters.lookup k = some a ∨
      (more.foldl next b).Retired a.serial := by
  induction more generalizing b with
  | nil => exact .inl ⟨fun _ hcall => absurd hcall List.not_mem_nil, ha⟩
  | cons call more ih =>
    cases hcall : call.registers k with
    | some d => exact .inr ((next_retires hb ha hcall).foldl more)
    | none =>
      have hnext := lookup_next_of_registers_none ha hcall
      rcases ih (next_consistent hb call) hnext with ⟨hmore, hused⟩ | hretired
      · refine .inl ⟨?_, hused⟩
        intro c hc
        rcases List.mem_cons.1 hc with rfl | hc
        · exact hcall
        · exact hmore c hc
      · exact .inr hretired

/-! ## Requests -/

/-- A request that is answered leaves its adapter in use under the key. -/
theorem lookup_after_get {calls : List Call} {n : String} {a : Adapter}
    (h : answer calls n = .ok a) :
    (after (calls ++ [.get n])).adapters.lookup (key n) = some a := by
  rw [after_append]
  change ((after calls).next (.get n)).adapters.lookup (key n) = some a
  rw [answer] at h
  rcases (after calls).adapter_cases n with ⟨a', hused, hrun⟩ | ⟨d, hnone, -, hrun⟩ | ⟨-, -, hrun⟩
  · rw [hrun] at h
    obtain rfl : a' = a := Except.ok.inj h
    rw [next, hrun]
    exact hused
  · rw [hrun] at h
    obtain rfl : ⟨d, (after calls).made⟩ = a := Except.ok.inj h
    rw [next, hrun]
    exact ((after calls).lookup_adapters_put _ hnone _).trans (if_pos rfl)
  · rw [hrun] at h
    nomatch h

/-- A request for a key with an adapter in use is answered with it. -/
theorem answer_of_lookup {calls : List Call} {n : String} {a : Adapter}
    (h : (after calls).adapters.lookup (key n) = some a) : answer calls n = .ok a := by
  rw [answer]
  rcases (after calls).adapter_cases n with ⟨a', hused, hrun⟩ | ⟨d, hnone, -, -⟩ | ⟨hnone, -, -⟩
  · rw [hrun]
    exact congrArg _ (Option.some.inj (hused.symm.trans h))
  · nomatch hnone.symm.trans h
  · nomatch hnone.symm.trans h

/-- A request is answered by the dialect registered last under its key. -/
theorem answer_cases (calls : List Call) (n : String) :
    (∃ a, answer calls n = .ok a ∧ latest calls (key n) = some a.dialect) ∨
      (latest calls (key n) = none ∧
        answer calls n = .error { given := n, available := (after calls).available }) := by
  rw [← lookup_dialects_after, answer]
  rcases (after calls).adapter_cases n with ⟨a, hused, hrun⟩ | ⟨d, -, hd, hrun⟩ | ⟨-, hd, hrun⟩
  · rw [hrun]
    exact .inl ⟨a, rfl, (after_consistent calls).current _ a hused⟩
  · rw [hrun]
    exact .inl ⟨_, rfl, hd⟩
  · rw [hrun]
    exact .inr ⟨hd, rfl⟩

/-- The names that are listed are those with a dialect. -/
theorem mem_available_after (calls : List Call) (k : String) :
    k ∈ (after calls).available ↔ ∃ d, latest calls k = some d := by
  rw [← lookup_dialects_after, available, List.mem_mergeSort, List.mem_map,
    ← Option.isSome_iff_exists, List.lookup_isSome_iff]
  constructor
  · rintro ⟨e, he, rfl⟩
    exact ⟨e, he, beq_self_eq_true _⟩
  · rintro ⟨e, he, hk⟩
    exact ⟨e, he, (eq_of_beq hk).symm⟩

/-- The name behind an alias is always registered. -/
theorem latest_of_aliased (calls : List Call) {s k : String} (h : aliases.lookup s = some k) :
    ∃ d, latest calls k = some d := by
  have hk : k = "postgresql" := by
    obtain ⟨l₁, l₂, hsplit, -⟩ := List.lookup_eq_some_iff.1 h
    have hmem : (s, k) ∈ aliases := by
      rw [hsplit]
      simp
    simp only [aliases, List.mem_cons, Prod.mk.injEq, List.not_mem_nil, or_false] at hmem
    rcases hmem with ⟨-, hk⟩ | ⟨-, hk⟩ <;> exact hk
  have hstart : standard.dialects.lookup k = some .postgresql := by
    rw [hk]
    rfl
  unfold latest
  rw [hstart]
  cases calls.reverse.findSome? (Call.registers k) with
  | none => exact ⟨_, rfl⟩
  | some d => exact ⟨d, rfl⟩

/-- The key of a name that is no alias. -/
theorem key_of_none {n : String} (h : aliases.lookup (Text.lower n) = none) :
    key n = Text.lower n := by
  rw [key, h]
  rfl

/-- The key of an alias. -/
theorem key_of_some {n k : String} (h : aliases.lookup (Text.lower n) = some k) : key n = k := by
  rw [key, h]
  rfl

/-- An answered request, and the dialect that decides it. -/
theorem answer_dialect_iff (calls : List Call) (n : String) (d : Dialect) :
    (∃ a, answer calls n = .ok a ∧ a.dialect = d) ↔ latest calls (key n) = some d := by
  rcases answer_cases calls n with ⟨a, hok, hlatest⟩ | ⟨hlatest, herror⟩
  · rw [hok, hlatest]
    constructor
    · rintro ⟨a', ha', rfl⟩
      rw [Except.ok.inj ha']
    · intro h
      exact ⟨a, rfl, Option.some.inj h⟩
  · rw [herror, hlatest]
    constructor
    · rintro ⟨a, ha, -⟩
      nomatch ha
    · intro h
      nomatch h

/-- A request is refused if the name is neither registered nor an alias. -/
theorem answer_refused_iff (calls : List Call) (n : String) :
    (∃ e, answer calls n = .error e) ↔
      latest calls (Text.lower n) = none ∧ aliases.lookup (Text.lower n) = none := by
  have hkey : (∃ e, answer calls n = .error e) ↔ latest calls (key n) = none := by
    rcases answer_cases calls n with ⟨a, hok, hlatest⟩ | ⟨hlatest, herror⟩
    · rw [hok, hlatest]
      exact ⟨nofun, nofun⟩
    · rw [herror, hlatest]
      exact ⟨fun _ => rfl, fun _ => ⟨_, rfl⟩⟩
  rw [hkey]
  cases halias : aliases.lookup (Text.lower n) with
  | none =>
    rw [key_of_none halias]
    exact ⟨fun h => ⟨h, rfl⟩, And.left⟩
  | some k =>
    obtain ⟨d, hd⟩ := latest_of_aliased calls halias
    rw [key_of_some halias, hd]
    exact ⟨nofun, nofun⟩

/-- A name stands for the dialect registered under itself, unless it is an alias that was registered
with a dialect of its own. -/
theorem answer_own_iff (calls : List Call) (n : String) :
    (∀ d, ownOrAliased calls n = some d → ∃ a, answer calls n = .ok a ∧ a.dialect = d) ↔
      ∀ k d, aliases.lookup (Text.lower n) = some k → latest calls (Text.lower n) = some d →
        latest calls k = some d := by
  simp only [answer_dialect_iff, ownOrAliased]
  cases halias : aliases.lookup (Text.lower n) with
  | none =>
    -- Without an alias both sides hold: the key is the name itself.
    rw [key_of_none halias]
    refine ⟨fun _ k d hk => (nomatch hk), fun _ d hd => ?_⟩
    rwa [Option.bind_none, Option.or_none] at hd
  | some k =>
    rw [key_of_some halias]
    cases hown : latest calls (Text.lower n) with
    | none => exact ⟨fun _ k d _ hd => (nomatch hd), fun _ d hd => hd⟩
    | some e =>
      constructor
      · rintro h k' d hk' hd
        obtain rfl := Option.some.inj hk'
        obtain rfl := Option.some.inj hd
        exact h e rfl
      · rintro h d hd
        exact h k d rfl hd

/-- After any calls a request for a name is answered by what was registered last under its key, with
an adapter that is shared until the next registration under the key. -/
theorem answers_of_calls (calls : List Call) (n : String) : Answers calls n where
  dialect_iff := answer_dialect_iff calls n
  refused_iff := answer_refused_iff calls n
  refusal := by
    intro e he
    rcases answer_cases calls n with ⟨a, hok, -⟩ | ⟨-, herror⟩
    · nomatch he.symm.trans hok
    · obtain rfl := Except.error.inj (he.symm.trans herror)
      exact ⟨rfl, mem_available_after calls⟩
  own_iff := answer_own_iff calls n
  shared := by
    intro a more n' ha hkey hmore
    have hused := lookup_foldl_of_registers_none (lookup_after_get ha) hmore
    rw [← after_append, List.append_assoc, List.singleton_append] at hused
    refine answer_of_lookup ?_
    rw [hkey]
    exact hused
  apart := by
    intro a more n' a' ha ha' hserial
    -- The adapter that the later request leaves in use has the number of the first one.
    have hlater := lookup_after_get ha'
    have hrun : after (calls ++ Call.get n :: more ++ [Call.get n']) =
        (more ++ [Call.get n']).foldl next (after (calls ++ [Call.get n])) := by
      rw [← after_append]
      simp
    rw [hrun] at hlater
    have hfirst := lookup_after_get ha
    have hcons := after_consistent (calls ++ [.get n])
    rcases inUse_or_retired hcons hfirst (more ++ [.get n']) with ⟨hmore, hused⟩ | hretired
    · have hstill : (after (calls ++ Call.get n :: more ++ [Call.get n'])).Consistent :=
        after_consistent _
      rw [hrun] at hstill
      have hkey := hstill.distinct _ _ a' a hlater hused hserial
      exact ⟨hkey, fun call hcall => hmore call (List.mem_append_left _ hcall)⟩
    · exact absurd hserial (hretired.unused _ a' hlater)

/-- A dialect that is registered under the alias `pg` is the last one registered under that name,
and a request for the name is answered with another dialect. -/
theorem alias_hides_dialect :
    latest [.register "pg" .duckdb] (Text.lower "pg") = some .duckdb ∧
      ∃ a, answer [.register "pg" .duckdb] "pg" = .ok a ∧ a.dialect ≠ .duckdb := by
  have hkey : key "pg" = "postgresql" := by decide +kernel
  have hother : Text.lower "pg" ≠ "postgresql" := by decide +kernel
  have hown : Call.registers (Text.lower "pg") (.register "pg" .duckdb) = some .duckdb := by
    rw [Call.registers, if_pos rfl]
  have hnone : Call.registers "postgresql" (.register "pg" .duckdb) = none := by
    rw [Call.registers, if_neg hother]
  constructor
  · rw [latest, List.reverse_singleton, List.findSome?_singleton, hown]
    rfl
  · -- Under the key of the alias nothing was registered since the start.
    have hlatest : latest [.register "pg" .duckdb] (key "pg") = some .postgresql := by
      rw [hkey, latest, List.reverse_singleton, List.findSome?_singleton, hnone]
      rfl
    obtain ⟨a, ha, hdialect⟩ := (answer_dialect_iff _ _ _).2 hlatest
    refine ⟨a, ha, ?_⟩
    rw [hdialect]
    intro h
    exact absurd (congrArg Dialect.name h) (by decide)

end SemanticLayer.Backends
