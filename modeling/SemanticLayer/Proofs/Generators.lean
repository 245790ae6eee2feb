import Mathlib.Data.List.Induction
import Mathlib.Data.List.Nodup
import Mathlib.Logic.Function.Basic
import SemanticLayer.Dialect.Backends
import SemanticLayer.Sql.Generator

/-!
# Generators that are kept do not show

Overrides are registered and removed, and trees are rendered in between, in any order. Generators
are kept from one render to the next, yet each render gives the text that a generator made for it
alone would give (`answer_eq_fresh`).

Two facts carry this. A kept generator is the one that its key describes (`Sound`), after each call
and so after every run. And a key describes the overrides of one database in full: the sorted list
of them finds the same writers as the table does (`lookup_key`). What the table holds after a run is
the latest word on each pair of a database and a kind (`get?_after`).
-/

namespace SemanticLayer.Sql

/-! ## Tables of overrides -/

section

variable {κ ω : Type} [BEq κ] [LawfulBEq κ]

/-- With distinct keys, what is found is what is listed. -/
theorem lookup_eq_some_iff_mem {k : κ} {w : ω} {es : List (κ × ω)} (h : (es.map Prod.fst).Nodup) :
    es.lookup k = some w ↔ (k, w) ∈ es := by
  induction es with
  | nil => simp
  | cons e es ih =>
    obtain ⟨k', w'⟩ := e
    have hcut : k' ∉ es.map Prod.fst ∧ (es.map Prod.fst).Nodup := List.nodup_cons.1 h
    by_cases hk : k = k'
    · -- The first entry is found, and no other has its key.
      subst hk
      have hnot : (k, w) ∉ es := fun hmem => hcut.1 (List.mem_map_of_mem hmem)
      rw [List.lookup_cons_self, List.mem_cons]
      simp [hnot, eq_comm]
    · have hne : (k == k') = false := beq_false_of_ne hk
      rw [List.lookup_cons, hne, List.mem_cons]
      simp [hk, ih hcut.2]

/-- With distinct keys, the order of the entries does not matter. -/
theorem lookup_eq_of_perm {es es' : List (κ × ω)} (hperm : es.Perm es')
    (h : (es.map Prod.fst).Nodup) (k : κ) : es.lookup k = es'.lookup k := by
  have h' : (es'.map Prod.fst).Nodup := (hperm.map Prod.fst).nodup h
  refine Option.ext fun w => ?_
  rw [lookup_eq_some_iff_mem h, lookup_eq_some_iff_mem h', hperm.mem_iff]

end

namespace OverrideTable

variable {κ ω : Type} (o : OverrideTable κ ω) (database : String)

theorem mem_ofDatabase (kind : κ) {w : ω} :
    (kind, w) ∈ o.ofDatabase database ↔ ((database, kind), w) ∈ o.entries := by
  rw [ofDatabase, List.mem_filterMap]
  constructor
  · rintro ⟨⟨⟨database', kind'⟩, w'⟩, hmem, heq⟩
    split at heq
    case isTrue hdb =>
      cases heq
      rwa [← eq_of_beq hdb]
    case isFalse => cases heq
  · intro hmem
    exact ⟨_, hmem, by simp⟩

/-- One database has at most one override for each kind. -/
theorem nodup_ofDatabase : ((o.ofDatabase database).map Prod.fst).Nodup := by
  have hpairs : ((o.ofDatabase database).map fun e => (database, e.1)).Sublist
      (o.entries.map Prod.fst) := by
    unfold ofDatabase
    induction o.entries with
    | nil => exact List.Sublist.slnil
    | cons e es ih =>
      by_cases h : e.1.1 = database
      · rw [List.filterMap_cons_some (b := (e.1.2, e.2)) (by simp [h])]
        have hkey : (database, e.1.2) = e.1 := Prod.ext h.symm rfl
        simpa [hkey] using ih
      · rw [List.filterMap_cons_none (by simp [h])]
        exact ih.cons _
  have hnodup := o.distinct.sublist hpairs
  refine List.Nodup.of_map (fun kind => (database, kind)) ?_
  rwa [List.map_map]

variable [DecidableEq κ] (kind : κ)

theorem get?_eq_some_iff {w : ω} :
    o.get? database kind = some w ↔ ((database, kind), w) ∈ o.entries :=
  lookup_eq_some_iff_mem o.distinct

/-- What was taken out is not found, and all else still is. -/
theorem get?_erase (database' : String) (kind' : κ) :
    (o.erase database kind).get? database' kind' =
      if (database, kind) = (database', kind') then none else o.get? database' kind' := by
  refine Option.ext fun w => ?_
  rw [get?_eq_some_iff, erase, List.mem_filter, bne_iff_ne]
  split
  case isTrue h => simp [h]
  case isFalse h => rw [get?_eq_some_iff, and_iff_left (Ne.symm h)]

/-- What was put in is found, and all else is as before. -/
theorem get?_insert (w : ω) (database' : String) (kind' : κ) :
    (o.insert database kind w).get? database' kind' =
      if (database, kind) = (database', kind') then some w else o.get? database' kind' := by
  unfold get? insert
  rw [List.lookup_cons]
  by_cases h : (database, kind) = (database', kind')
  · rw [if_pos h, ← h, beq_self_eq_true]
  · rw [if_neg h, beq_false_of_ne (Ne.symm h)]
    exact (get?_erase o database kind database' kind').trans (if_neg h)

/-- The overrides of a database find what the table finds for it. -/
theorem lookup_ofDatabase : (o.ofDatabase database).lookup kind = o.get? database kind := by
  refine Option.ext fun w => ?_
  rw [lookup_eq_some_iff_mem (o.nodup_ofDatabase database), mem_ofDatabase, get?_eq_some_iff]

end OverrideTable

namespace Workshop

variable {κ ω β σ ν : Type} [DecidableEq κ]

/-! ## Calls and the latest word -/

/-- A call on a workshop. -/
inductive Call (κ ω σ ν : Type) where
  /-- A writer is registered for a database and a kind. -/
  | register (database : String) (kind : κ) (writer : ω)
  /-- The writer for a database and a kind is removed. -/
  | remove (database : String) (kind : κ)
  /-- A tree is rendered for a database, in a grammar. -/
  | render (database grammar : String) (style : σ) (n : ν)

/-- What a call says about the writer for a database and a kind: nothing, or that it is this one or
that there is none. -/
def Call.settles (database : String) (kind : κ) : Call κ ω σ ν → Option (Option ω)
  | register database' kind' writer =>
    if (database', kind') = (database, kind) then some (some writer) else none
  | remove database' kind' => if (database', kind') = (database, kind) then some none else none
  | render .. => none

/-- The writer registered for a database and a kind after calls: the latest call that says something
about it decides. -/
def current (start : OverrideTable κ ω) (calls : List (Call κ ω σ ν)) (database : String)
    (kind : κ) : Option ω :=
  (calls.reverse.findSome? (Call.settles database kind)).getD (start.get? database kind)

section

variable (start : OverrideTable κ ω) (calls : List (Call κ ω σ ν))

/-- One call more. -/
theorem current_concat (call : Call κ ω σ ν) (database : String) (kind : κ) :
    current start (calls ++ [call]) database kind =
      (call.settles database kind).getD (current start calls database kind) := by
  unfold current
  rw [List.reverse_append, List.reverse_singleton, List.singleton_append, List.findSome?_cons]
  cases call.settles database kind <;> rfl

/-- The writers of a database after one call more about one of its kinds. -/
theorem current_update {database : String} {kind : κ} {call : Call κ ω σ ν} {writer? : Option ω}
    (h : ∀ kind', call.settles database kind' = if kind = kind' then some writer? else none) :
    current start (calls ++ [call]) database =
      Function.update (current start calls database) kind writer? := by
  funext kind'
  rw [current_concat, h]
  by_cases hk : kind = kind'
  · subst hk
    rw [if_pos rfl, Function.update_self, Option.getD_some]
  · rw [if_neg hk, Function.update_of_ne (Ne.symm hk), Option.getD_none]

/-- Calls that say nothing about a database leave its writers as they are. -/
theorem current_append {database : String} {more : List (Call κ ω σ ν)}
    (h : ∀ call ∈ more, ∀ kind, call.settles database kind = none) :
    current start (calls ++ more) database = current start calls database := by
  funext kind
  have hsilent : more.reverse.findSome? (Call.settles database kind) = none := by
    rw [List.findSome?_eq_none_iff]
    exact fun call hmem => h call (List.mem_reverse.1 hmem) kind
  unfold current
  rw [List.reverse_append, List.findSome?_append, hsilent, Option.none_or]

end

/-- The key of a database finds the writers that the table has for it. -/
theorem lookup_key (kit : WriterKit κ ω β σ ν) (w : Workshop κ ω β)
    (database grammar : String) (kind : κ) :
    (w.key kit database grammar).2.lookup kind = w.overrides.get? database kind := by
  have hperm := List.mergeSort_perm (w.overrides.ofDatabase database)
    fun a b => decide (kit.kindName a.1 ≤ kit.kindName b.1)
  have hnodup := w.overrides.nodup_ofDatabase database
  rw [← w.overrides.lookup_ofDatabase]
  exact (lookup_eq_of_perm hperm.symm hnodup kind).symm

/-! ## Runs of calls -/

variable [DecidableEq ω]

/-- The workshop after a call. -/
def next (kit : WriterKit κ ω β σ ν) (w : Workshop κ ω β) : Call κ ω σ ν → Workshop κ ω β
  | .register database kind writer => w.register database kind writer
  | .remove database kind => w.remove database kind
  | .render database grammar style n => (w.render kit database grammar style n).2

/-- The workshop after calls, from a table of overrides and no generators. -/
def after (kit : WriterKit κ ω β σ ν) (start : OverrideTable κ ω) (calls : List (Call κ ω σ ν)) :
    Workshop κ ω β :=
  calls.foldl (next kit) { overrides := start }

/-- The text of a tree after calls. -/
def answer (kit : WriterKit κ ω β σ ν) (start : OverrideTable κ ω) (calls : List (Call κ ω σ ν))
    (database grammar : String) (style : σ) (n : ν) : Option String :=
  ((after kit start calls).render kit database grammar style n).1

/-- The text of a tree by a generator made for it alone. -/
def fresh (kit : WriterKit κ ω β σ ν) (writer? : κ → Option ω) (grammar : String) (style : σ)
    (n : ν) : Option String :=
  (kit.usual? grammar).map fun usual => kit.write usual writer? style n

/-- What a render for a database after `calls` gives. -/
structure Transparent (kit : WriterKit κ ω β σ ν) (start : OverrideTable κ ω)
    (calls : List (Call κ ω σ ν)) (database grammar : String) (style : σ) (n : ν) : Prop where
  /-- It gives what a generator made for it alone gives, with the writers of the database. -/
  fresh : answer kit start calls database grammar style n =
    fresh kit (current start calls database) grammar style n
  /-- A writer that is registered is used by the next render, whatever was there before. -/
  registered : ∀ kind writer,
    answer kit start (calls ++ [.register database kind writer]) database grammar style n =
      Workshop.fresh kit (Function.update (current start calls database) kind (some writer))
        grammar style n
  /-- A writer that is removed is not used by the next render. -/
  removed : ∀ kind,
    answer kit start (calls ++ [.remove database kind]) database grammar style n =
      Workshop.fresh kit (Function.update (current start calls database) kind none) grammar style n
  /-- Calls that say nothing about the database change nothing. -/
  isolated : ∀ more : List (Call κ ω σ ν),
    (∀ call ∈ more, ∀ kind, call.settles database kind = none) →
      answer kit start (calls ++ more) database grammar style n =
        answer kit start calls database grammar style n

/-! ## One call -/

section

variable (kit : WriterKit κ ω β σ ν)

/-- The generator that a key describes. -/
def Describes (key : GeneratorKey κ ω) (g : Generator κ ω β) : Prop :=
  kit.usual? key.1 = some g.usual ∧ g.overrides = key.2

/-- The kept generators are the ones that their keys describe. -/
def Sound (w : Workshop κ ω β) : Prop := ∀ e ∈ w.generators, Describes kit e.1 e.2

variable {kit} {w : Workshop κ ω β}

/-- A generator that is given out, kept or new, is the one that its key describes. It is kept, and
nothing else changes. -/
theorem generator?_cases (h : w.Sound kit) (key : GeneratorKey κ ω) :
    (kit.usual? key.1 = none ∧ w.generator? kit key = none) ∨
    ∃ g w', w.generator? kit key = some (g, w') ∧ Describes kit key g ∧ w'.Sound kit ∧
      w'.overrides = w.overrides := by
  unfold generator?
  cases hkept : w.generators.lookup key with
  | some g =>
    obtain ⟨before, rest, hsplit, -⟩ := List.lookup_eq_some_iff.1 hkept
    have hmem : (key, g) ∈ w.generators := by simp [hsplit]
    exact .inr ⟨g, w, rfl, h _ hmem, h, rfl⟩
  | none =>
    cases husual : kit.usual? key.1 with
    | none => exact .inl ⟨rfl, rfl⟩
    | some usual =>
      refine .inr ⟨_, _, rfl, ⟨husual, rfl⟩, fun e he => ?_, rfl⟩
      -- What is kept now was kept before, or is the generator just made.
      rcases List.mem_append.1 he with hold | hnew
      · exact h e hold
      · rw [List.mem_singleton.1 hnew]
        exact ⟨husual, rfl⟩

/-- A render from sound generators is that of a new one. It keeps the generators sound and the
overrides as they are. -/
theorem render_of_sound (h : w.Sound kit) (database grammar : String) (style : σ) (n : ν) :
    (w.render kit database grammar style n).1 =
        fresh kit (w.overrides.get? database) grammar style n ∧
      (w.render kit database grammar style n).2.Sound kit ∧
      (w.render kit database grammar style n).2.overrides = w.overrides := by
  unfold render
  obtain ⟨husual, hnone⟩ | ⟨g, w', hsome, ⟨husual, hoverrides⟩, hsound, hsame⟩ :=
    generator?_cases h (w.key kit database grammar)
  · rw [hnone]
    have hunknown : kit.usual? grammar = none := husual
    exact ⟨by rw [fresh, hunknown, Option.map_none], h, rfl⟩
  · rw [hsome]
    have hknown : kit.usual? grammar = some g.usual := husual
    have hwriter : g.writer? = w.overrides.get? database := by
      funext kind
      rw [Generator.writer?, hoverrides, lookup_key]
    exact ⟨by rw [fresh, hknown, Option.map_some, ← hwriter], hsound, hsame⟩

theorem next_sound (h : w.Sound kit) (call : Call κ ω σ ν) : (w.next kit call).Sound kit := by
  cases call with
  | register database kind writer => exact h
  | remove database kind => exact h
  | render database grammar style n => exact (render_of_sound h database grammar style n).2.1

/-- After a call the table holds what the call says, and else what it held before. -/
theorem get?_next (h : w.Sound kit) (call : Call κ ω σ ν) (database : String) (kind : κ) :
    (w.next kit call).overrides.get? database kind =
      (call.settles database kind).getD (w.overrides.get? database kind) := by
  cases call with
  | register database' kind' writer =>
    refine (w.overrides.get?_insert database' kind' writer database kind).trans ?_
    rw [Call.settles]
    split <;> rfl
  | remove database' kind' =>
    refine (w.overrides.get?_erase database' kind' database kind).trans ?_
    rw [Call.settles]
    split <;> rfl
  | render database' grammar style n =>
    have hsame := (render_of_sound h database' grammar style n).2.2
    rw [next, Call.settles, hsame, Option.getD_none]

end

/-! ## Every run -/

variable (kit : WriterKit κ ω β σ ν) (start : OverrideTable κ ω) (calls : List (Call κ ω σ ν))

theorem after_append (more : List (Call κ ω σ ν)) :
    after kit start (calls ++ more) = more.foldl (next kit) (after kit start calls) :=
  List.foldl_append

theorem after_sound : (after kit start calls).Sound kit := by
  induction calls using List.reverseRecOn with
  | nil => exact fun e he => absurd he List.not_mem_nil
  | append_singleton calls call ih =>
    rw [after_append]
    exact next_sound ih call

/-- The table after a run holds the latest word on each database and kind. -/
theorem get?_after (database : String) (kind : κ) :
    (after kit start calls).overrides.get? database kind = current start calls database kind := by
  induction calls using List.reverseRecOn with
  | nil => rfl
  | append_singleton calls call ih =>
    rw [after_append, current_concat, ← ih]
    exact get?_next (after_sound kit start calls) call database kind

/-- What a render after a run gives is what a new generator gives. -/
theorem answer_eq_fresh (database grammar : String) (style : σ) (n : ν) :
    answer kit start calls database grammar style n =
      fresh kit (current start calls database) grammar style n := by
  have htable : (after kit start calls).overrides.get? database = current start calls database :=
    funext (get?_after kit start calls database)
  rw [answer, (render_of_sound (after_sound kit start calls) database grammar style n).1, htable]

/-- Whatever was registered, removed and rendered before, for whatever databases, each render gives
the text of a new generator with the writers that its database has by then. -/
theorem render_transparent (database grammar : String) (style : σ) (n : ν) :
    Transparent kit start calls database grammar style n where
  fresh := answer_eq_fresh kit start calls database grammar style n
  registered kind writer := by
    let call : Call κ ω σ ν := .register database kind writer
    have hsettles : ∀ kind', call.settles database kind' =
        if kind = kind' then some (some writer) else none := fun kind' => by
      simp [call, Call.settles]
    rw [answer_eq_fresh, current_update start calls hsettles]
  removed kind := by
    let call : Call κ ω σ ν := .remove database kind
    have hsettles : ∀ kind', call.settles database kind' =
        if kind = kind' then some none else none := fun kind' => by simp [call, Call.settles]
    rw [answer_eq_fresh, current_update start calls hsettles]
  isolated more h := by
    rw [answer_eq_fresh, answer_eq_fresh, current_append start calls h]

/-! ## The printer's own kit -/

/-- The writers known at the start are those of the overrides known at the start. -/
theorem writers_standard (database : String) (kind : Replaceable) :
    (standard.overrides.get? database kind).bind (standardWriters[·]?) =
      Overrides.standard.get? database kind := by
  unfold OverrideTable.get? standard Overrides.standard standardWriters
  simp only [List.lookup_cons]
  repeat' split
  all_goals rfl

/-- For the databases known at the start, a render with the overrides known at the start gives the
text that their dialects write, whatever happens to the overrides of other databases. -/
theorem answer_standard {d : Dialect} (hd : d ∈ Backends.standard.dialects.map Prod.snd)
    {calls : List (Call Replaceable Nat Style Node)}
    (hcalls : ∀ call ∈ calls, ∀ kind, call.settles d.name kind = none) (n : Node) :
    answer (Printer.kit standardWriters) standard.overrides calls d.name d.grammarName
      { identify := d.identify } n = some (d.render .standard n) := by
  have htarget : Target.ofGrammar? d.grammarName = some d.target := by
    obtain rfl | rfl | rfl | rfl := Backends.mem_standard_iff.1 hd <;> rfl
  have hwriters : current standard.overrides calls d.name = standard.overrides.get? d.name :=
    current_append standard.overrides [] hcalls
  have hkit : (Printer.kit standardWriters).usual? d.grammarName = some d.target := htarget
  rw [answer_eq_fresh, fresh, hkit, hwriters, Option.map_some]
  unfold Printer.kit Dialect.render Dialect.printer
  simp only [writers_standard]

end Workshop

end SemanticLayer.Sql
