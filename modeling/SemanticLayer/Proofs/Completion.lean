import SemanticLayer.Proofs.Inert

/-!
# Texts that complete an operand

An alias belongs to the expression before it only if the parser reads that expression as a whole.
`completes d last ts` says of tokens that they can do no other harm than being no expression at all:
they close the `d` brackets that are open before them and no others, and outside brackets they hold
nothing that ends the item of a list or begins a clause. Whatever a rule of an operand passes of
such tokens, the tokens that are left complete the operand again (`OperandPath.completes`). So the
rule stops in front of the AS that follows them, or inside brackets, or at a token that no clause
begins with.
-/

namespace SemanticLayer.Sql.Parser

/-- Keys that end an expression outside brackets. -/
def dividers : List String := "AS" :: continuations

/-- Whether the token with `next` after it ends an expression outside brackets. A word after a star
may take an alias of its own unless brackets follow it. -/
def divides (t : Token) (next : List Token) : Bool :=
  dividers.contains t.key ||
    starWords.contains t.key && !next.head?.any (fun u => u.key == "(") ||
    ["CROSS", "OUTER"].contains t.key && next.head?.any fun u => u.key == "APPLY"

/-- Whether the tokens complete an operand in which `d` brackets are open after the token `last`.
FROM may stand outside brackets in IS DISTINCT FROM. -/
def completes : Nat → Option Token → List Token → Bool
  | d, last, [] => d == 0 && !last.any fun t => fieldMarks.contains t.key
  | d, last, t :: ts =>
    if t.opens then completes (d + 1) (some t) ts
    else if t.closes then d != 0 && completes (d - 1) (some t) ts
    else if d == 0 && t.key == "DISTINCT" && last.any (fun u => ["IS", "NOT"].contains u.key) then
      match ts with
      | [] => false
      | u :: us => u.key == "FROM" && completes 0 (some u) us
    else (d != 0 || !divides t ts) && completes d (some t) ts

variable {d j m : Nat} {last : Option Token} {t u a : Token} {us ts rs k : List Token}

/-! ## One token -/

theorem completes_nil (h : completes d last [] = true) :
    d = 0 ∧ last.any (fun t => fieldMarks.contains t.key) = false := by
  simpa [completes] using h

/-- A token that opens brackets. -/
theorem completes_opens (ho : t.opens = true) :
    completes d last (t :: ts) = completes (d + 1) (some t) ts := by
  rw [completes.eq_def]
  simp [ho]

/-- A token that closes brackets. -/
theorem completes_closes (hc : t.closes = true) (h : completes d last (t :: ts) = true) :
    0 < d ∧ completes (d - 1) (some t) ts = true := by
  rw [completes.eq_def] at h
  simp only [opens_of_closes hc, hc, Bool.false_eq_true, if_false, if_true, Bool.and_eq_true,
    bne_iff_ne] at h
  exact ⟨Nat.pos_of_ne_zero h.1, h.2⟩

/-- A token inside brackets that is no bracket. -/
theorem completes_inside (ho : t.opens = false) (hc : t.closes = false) (hd : 0 < d) :
    completes d last (t :: ts) = completes d (some t) ts := by
  have hd : (d == 0) = false := by simpa using Nat.ne_of_gt hd
  rw [completes.eq_def]
  simp [ho, hc, hd, bne]

/-- A token outside brackets that is no bracket. The DISTINCT of a comparison is passed with the
FROM after it. -/
theorem completes_outside (ho : t.opens = false) (hc : t.closes = false)
    (h : completes 0 last (t :: ts) = true) :
    (t.key = "DISTINCT" ∧ last.any (fun u => ["IS", "NOT"].contains u.key) = true ∧
        ∃ u us, ts = u :: us ∧ u.key = "FROM" ∧ completes 0 (some u) us = true) ∨
      divides t ts = false ∧ completes 0 (some t) ts = true := by
  rw [completes.eq_def] at h
  simp only [ho, hc, Bool.false_eq_true, if_false] at h
  split at h
  · next hd =>
    simp only [Bool.and_eq_true, beq_iff_eq] at hd
    refine .inl ⟨hd.1.2, hd.2, ?_⟩
    match ts, h with
    | u :: us, h =>
      simp only [Bool.and_eq_true, beq_iff_eq] at h
      exact ⟨u, us, rfl, h.1, h.2⟩
  · simp only [bne_self_eq_false, Bool.false_or, Bool.and_eq_true, Bool.not_eq_true'] at h
    exact .inr h

/-- A token that an operand passes by itself. -/
theorem completes_token (ho : t.opens = false) (hc : t.closes = false)
    (he : endsOperand last t = false) (h : completes d last (t :: ts) = true) :
    completes d (some t) ts = true := by
  obtain rfl | hd := Nat.eq_zero_or_pos d
  · obtain ⟨hk, hl, -⟩ | h := completes_outside ho hc h
    · exact absurd he (by simp only [endsOperand, hk, hl]; simp)
    · exact h.2
  · rwa [completes_inside ho hc hd] at h

/-- No AS stands outside brackets. -/
theorem key_ne_as_of_completes (h : completes 0 last (t :: ts) = true) : t.key ≠ "AS" := by
  intro hk
  obtain ⟨hk', -⟩ | ⟨hdiv, -⟩ := completes_outside (by simp [Token.opens, hk])
    (by simp [Token.closes, hk]) h
  · exact absurd (hk.symm.trans hk') (by decide)
  · simp [divides, dividers, hk] at hdiv

/-! ## Many tokens -/

/-- Tokens that complete an operand close the brackets that are open. -/
theorem depthAfter_of_completes (h : completes d last ts = true) : depthAfter d ts = some 0 := by
  fun_induction completes d last ts with
  | case1 d last =>
    rw [depthAfter, (completes_nil h).1]
  | case2 d last t ts ho ih =>
    rw [depthAfter_of_opens ho]
    exact ih h
  | case3 d last t ts ho hc ih =>
    simp only [Bool.and_eq_true, bne_iff_ne] at h
    obtain ⟨e, rfl⟩ := Nat.exists_eq_succ_of_ne_zero h.1
    rw [depthAfter_of_closes hc]
    exact ih h.2
  | case4 => exact absurd h (by simp)
  | case5 d last t ho hc hd u us ih =>
    simp only [Bool.and_eq_true, beq_iff_eq] at h hd
    obtain rfl := hd.1.1
    have hu : u.opens = false ∧ u.closes = false := by simp [Token.opens, Token.closes, h.1]
    rw [depthAfter_of_plain (by simpa using ho) (by simpa using hc),
      depthAfter_of_plain hu.1 hu.2]
    exact ih h.2
  | case6 d last t ts ho hc _ ih =>
    simp only [Bool.and_eq_true] at h
    rw [depthAfter_of_plain (by simpa using ho) (by simpa using hc)]
    exact ih h.2

/-- Tokens that stay inside brackets which are open are part of what closes these brackets. `j` of
the brackets are the tokens' own, and `d` are not. -/
theorem completes_of_depthAfter (h : depthAfter j us = some m) (hd : 0 < d)
    (hc : completes (j + d) last ts = true) (he : us ++ rs = ts ++ k) :
    ∃ zs, ts = us ++ zs ∧ completes (m + d) (lastAfter last us) zs = true := by
  induction us generalizing j last ts with
  | nil =>
    obtain rfl := Option.some.inj h
    exact ⟨ts, rfl, hc⟩
  | cons t us ih =>
    -- `ts` is not used up, since brackets are open.
    cases ts with
    | nil => exact absurd (completes_nil hc).1 (by omega)
    | cons t' ts =>
    obtain ⟨rfl, hrest⟩ : t = t' ∧ us ++ rs = ts ++ k := List.cons.inj he
    simp only [List.cons_append, List.cons.injEq, true_and, lastAfter_cons]
    by_cases ho : t.opens = true
    · rw [depthAfter_of_opens ho] at h
      rw [completes_opens ho, Nat.add_right_comm] at hc
      exact ih h hc hrest
    by_cases hcl : t.closes = true
    · cases j with
      | zero => simp [depthAfter, hcl, opens_of_closes hcl] at h
      | succ j =>
        rw [depthAfter_of_closes hcl] at h
        have hc := (completes_closes hcl hc).2
        rw [show j + 1 + d - 1 = j + d by omega] at hc
        exact ih h hc hrest
    · rw [depthAfter_of_plain (by simpa using ho) (by simpa using hcl)] at h
      rw [completes_inside (by simpa using ho) (by simpa using hcl) (by omega)] at hc
      exact ih h hc hrest

/-! ## Paths of operands

Each lemma says of one constructor of `OperandPath` that what it passes is part of the tokens before
the AS, and that the tokens after it complete the operand. -/

/-- The first token of a path is no AS, so it is the first token that completes the operand. -/
theorem completes_first (ha : a.key = "AS") (ht : t.key ≠ "AS")
    (he : t :: us = ts ++ a :: k) : ∃ ws, ts = t :: ws ∧ us = ws ++ a :: k := by
  cases ts with
  | nil => exact absurd ((List.cons.inj he).1 ▸ ha) ht
  | cons t' ws =>
    obtain ⟨rfl, hrest⟩ := List.cons.inj he
    exact ⟨ws, rfl, hrest⟩

theorem key_ne_as_of_opens (ho : t.opens = true) : t.key ≠ "AS" := by
  rintro hk
  simp [Token.opens, hk] at ho

/-- A token of its own. AS is passed only after a mark, and no operand is complete there. -/
theorem completes_path_token (ho : t.opens = false) (hcl : t.closes = false)
    (hend : endsOperand last t = false) (hc : completes d last ts = true) (ha : a.key = "AS")
    (he : t :: us = ts ++ a :: k) :
    ∃ ws, ts = t :: ws ∧ us = ws ++ a :: k ∧ completes d (some t) ws = true := by
  cases ts with
  | nil =>
    obtain rfl : t = a := (List.cons.inj he).1
    simp only [endsOperand, ha, (completes_nil hc).2] at hend
    exact absurd hend (by simp)
  | cons t' ws =>
    obtain ⟨rfl, hrest⟩ := List.cons.inj he
    exact ⟨ws, rfl, hrest, completes_token ho hcl hend hc⟩

/-- Brackets around tokens that stay inside them, or inside brackets that they open. -/
theorem completes_path_group (ho : t.opens = true) (hm : depthAfter 0 us = some m)
    (hcl : u.closes = true) (hc : completes d last ts = true) (ha : a.key = "AS")
    (he : t :: (us ++ u :: rs) = ts ++ a :: k) :
    ∃ ws, ts = t :: (us ++ u :: ws) ∧ rs = ws ++ a :: k ∧ completes (m + d) (some u) ws = true := by
  obtain ⟨vs, rfl, hrest⟩ := completes_first ha (key_ne_as_of_opens ho) he
  rw [completes_opens ho] at hc
  obtain ⟨ws, rfl, hws⟩ := completes_of_depthAfter hm (Nat.succ_pos d) (by simpa using hc) hrest
  rw [List.append_assoc, List.append_cancel_left_eq] at hrest
  cases ws with
  | nil => exact absurd (completes_nil hws).1 (by omega)
  | cons u' ws =>
    obtain ⟨rfl, hafter⟩ := List.cons.inj hrest
    exact ⟨ws, rfl, hafter, (completes_closes hcl hws).2⟩

/-- DISTINCT FROM. Outside brackets it is passed only as part of a comparison. -/
theorem completes_path_distinctFrom (ht : t.key = "DISTINCT") (hu : u.key = "FROM")
    (hc : completes d last ts = true) (ha : a.key = "AS") (he : t :: u :: us = ts ++ a :: k) :
    ∃ ws, ts = t :: u :: ws ∧ us = ws ++ a :: k ∧ completes d (some u) ws = true := by
  obtain ⟨vs, rfl, hrest⟩ := completes_first ha (by simp [ht]) he
  obtain ⟨ws, rfl, hafter⟩ := completes_first ha (by simp [hu]) hrest
  refine ⟨ws, rfl, hafter, ?_⟩
  have hto : t.opens = false ∧ t.closes = false := by simp [Token.opens, Token.closes, ht]
  have huo : u.opens = false ∧ u.closes = false := by simp [Token.opens, Token.closes, hu]
  obtain rfl | hd := Nat.eq_zero_or_pos d
  · obtain ⟨-, -, v, vs, hv, -, hz⟩ | ⟨-, hz⟩ := completes_outside hto.1 hto.2 hc
    · obtain ⟨rfl, rfl⟩ := List.cons.inj hv
      exact hz
    · obtain ⟨hk, -⟩ | ⟨hk, -⟩ := completes_outside huo.1 huo.2 hz
      · exact absurd (hu.symm.trans hk) (by decide)
      · exact absurd hk (by simp [divides, dividers, continuations, hu])
  · rwa [completes_inside hto.1 hto.2 hd, completes_inside huo.1 huo.2 hd] at hc

/-- A word after a star without brackets after it stands inside brackets. -/
theorem completes_path_starWord (ht : starWords.contains t.key = true)
    (hp : us.head?.all (fun v => v.key != "(") = true) (hu : u.key = "AS")
    (hc : completes d last ts = true) (ha : a.key = "AS")
    (he : t :: (us ++ u :: rs) = ts ++ a :: k) :
    ∃ ws, ts = t :: ws ∧ us ++ u :: rs = ws ++ a :: k ∧ 0 < d ∧
      completes d (some t) ws = true := by
  obtain ⟨ho, hcl, hend⟩ := passes_starWord ht last
  obtain ⟨ws, rfl, hrest, hws⟩ := completes_path_token ho hcl hend hc ha he
  refine ⟨ws, rfl, hrest, Nat.pos_of_ne_zero ?_, hws⟩
  rintro rfl
  have hfirst : ws.head?.any (fun v => v.key == "(") = false := by
    cases us with
    | nil =>
      cases ws with
      | nil => rfl
      | cons v ws =>
        obtain ⟨rfl, -⟩ := List.cons.inj hrest
        simp [hu]
    | cons w us =>
      cases ws with
      | nil => rfl
      | cons v ws =>
        obtain ⟨rfl, -⟩ := List.cons.inj hrest
        simpa using hp
  obtain ⟨hk, -⟩ | ⟨hdiv, -⟩ := completes_outside ho hcl hc
  · rw [hk] at ht
    exact absurd ht (by decide)
  · rw [divides, ht, hfirst] at hdiv
    exact absurd hdiv (by simp)

/-- Of tokens that complete an operand and the AS after them, an operand passes some of the former
and leaves tokens that complete it. -/
theorem OperandPath.completes (h : OperandPath last us) (hc : completes d last ts = true)
    (ha : a.key = "AS") (he : us ++ rs = ts ++ a :: k) :
    ∃ zs e, ts = us ++ zs ∧ depthAfter d us = some e ∧
      Parser.completes e (lastAfter last us) zs = true := by
  induction h generalizing d ts rs with
  | stop => exact ⟨ts, d, rfl, rfl, hc⟩
  | token ho hcl hend _ ih =>
    obtain ⟨ws, rfl, hrest, hws⟩ := completes_path_token ho hcl hend hc ha he
    obtain ⟨zs, e, rfl, hd, hz⟩ := ih hws hrest
    exact ⟨zs, e, rfl, by rwa [depthAfter_of_plain ho hcl], by rwa [lastAfter_cons]⟩
  | opening ho _ ih =>
    obtain ⟨ws, rfl, hrest⟩ := completes_first ha (key_ne_as_of_opens ho) he
    rw [completes_opens ho] at hc
    obtain ⟨zs, e, rfl, hd, hz⟩ := ih hc hrest
    exact ⟨zs, e, rfl, by rwa [depthAfter_of_opens ho], by rwa [lastAfter_cons]⟩
  | group ho hvs hcl _ ih =>
    obtain ⟨m, hm⟩ := hvs
    rw [List.cons_append, List.append_assoc, List.cons_append] at he
    obtain ⟨ws, rfl, hrest, hws⟩ := completes_path_group ho hm hcl hc ha he
    obtain ⟨zs, e, rfl, hd, hz⟩ := ih hws hrest
    refine ⟨zs, e, by simp, ?_, by simpa using hz⟩
    have hvs := depthAfter_add hm (d + 1)
    rw [Nat.zero_add] at hvs
    rw [depthAfter_of_opens ho, depthAfter_append, hvs, Option.bind_some, ← Nat.add_assoc,
      depthAfter_of_closes hcl, hd]
  | distinctFrom ht hu _ ih =>
    obtain ⟨ws, rfl, hrest, hws⟩ := completes_path_distinctFrom ht hu hc ha he
    obtain ⟨zs, e, rfl, hd, hz⟩ := ih hws hrest
    refine ⟨zs, e, rfl, ?_, by simpa using hz⟩
    rw [depthAfter_of_plain (by simp [Token.opens, ht]) (by simp [Token.closes, ht]),
      depthAfter_of_plain (by simp [Token.opens, hu]) (by simp [Token.closes, hu]), hd]
  | @renamed last t u vs us ht hvs hp hu _ ihvs ih =>
    rw [List.cons_append, List.append_assoc, List.cons_append] at he
    obtain ⟨ws, rfl, hrest, hpos, hws⟩ := completes_path_starWord ht hp hu hc ha he
    obtain ⟨ys, i, rfl, hi, hys⟩ := ihvs hws hrest
    rw [List.append_assoc, List.append_cancel_left_eq] at hrest
    -- The operand after the word opened no fewer brackets than it closed.
    have hi0 : 0 < i := by
      obtain ⟨m, hm⟩ := hvs.enclosed
      have hadd := depthAfter_add hm d
      rw [Nat.zero_add, hi] at hadd
      have := Option.some.inj hadd
      omega
    cases ys with
    | nil => exact absurd (completes_nil hys).1 (by omega)
    | cons u' ys =>
      obtain ⟨rfl, hafter⟩ := List.cons.inj hrest
      have huo : u.opens = false ∧ u.closes = false := by simp [Token.opens, Token.closes, hu]
      rw [completes_inside huo.1 huo.2 hi0] at hys
      obtain ⟨zs, e, rfl, hd, hz⟩ := ih hys hafter
      obtain ⟨ho, hcl, -⟩ := passes_starWord ht last
      refine ⟨zs, e, by simp, ?_, by simpa using hz⟩
      rw [depthAfter_of_plain ho hcl, depthAfter_append, hi, Option.bind_some,
        depthAfter_of_plain huo.1 huo.2, hd]

/-! ## Where the parser gets stuck -/

/-- The key of a token that opens brackets is none of these words. -/
theorem not_mem_of_opens (ho : t.opens = true) {ks : List String}
    (hks : ∀ k ∈ ["(", "[", "\x7b"], k ∉ ks) : t.key ∉ ks :=
  hks _ (by simpa [Token.opens] using ho)

/-- A query does not go on with tokens that complete an operand outside brackets, and an AS. -/
theorem idle_of_completes (h : completes 0 last ts = true) (ha : a.key = "AS") :
    Idle (ts ++ a :: k) := by
  induction ts generalizing last with
  | nil =>
    refine ⟨?_, ?_, ?_⟩ <;> rw [ha] <;> intro hk <;> exact absurd hk (by decide)
  | cons t ts ih =>
    by_cases ho : t.opens = true
    · refine ⟨not_mem_of_opens ho (by decide), ?_, ?_⟩
      · exact fun hk => absurd hk (not_mem_of_opens ho (by decide))
      · exact fun hk => absurd hk (not_mem_of_opens ho (by decide))
    by_cases hcl : t.closes = true
    · exact absurd (completes_closes hcl h).1 (Nat.lt_irrefl 0)
    obtain ⟨hk, -⟩ | ⟨hdiv, hts⟩ := completes_outside (by simpa using ho) (by simpa using hcl) h
    · refine ⟨?_, ?_, ?_⟩ <;> rw [hk] <;> intro hk <;> exact absurd hk (by decide)
    · simp only [divides, Bool.or_eq_false_iff] at hdiv
      obtain ⟨⟨hdiv, -⟩, happly⟩ := hdiv
      refine ⟨?_, fun _ => ih hts, fun hk => ?_⟩
      · simp only [dividers, List.contains_eq_mem, decide_eq_false_iff_not, List.mem_cons,
          not_or] at hdiv
        exact hdiv.2
      · cases ts with
        | nil => simp [ha]
        | cons u us => simpa [hk] using happly

/-- Brackets are open that the tokens that are left close. -/
def Unclosed (c : Cursor) : Prop := ∃ j, depthAfter (j + 1) c.rest = some 0

/-- Brackets that are open stay open. -/
theorem Unclosed.of_reaches {c d : Cursor} (h : Unclosed c) (hd : Reaches .clause c d) :
    Unclosed d := by
  obtain ⟨j, h⟩ := h
  obtain ⟨us, ⟨m, hm⟩, hr, -⟩ := hd
  have hm' := depthAfter_add hm (j + 1)
  rw [Nat.zero_add] at hm'
  rw [hr, depthAfter_append, hm', Option.bind_some] at h
  exact ⟨m + j, h⟩

theorem Unclosed.ensures {c : Cursor} {α : Type} {r : Rule .clause α} (h : Unclosed c) :
    r.Ensures c fun _ d => Unclosed d :=
  (Rule.Ensures.reaches r c).mono fun _ _ hd => h.of_reaches hd

/-- The parser cannot go on to the end: brackets are open, or the query does not go on with the
tokens that are left. -/
def Stuck (c : Cursor) : Prop := Unclosed c ∨ c.rest ≠ [] ∧ Idle c.rest

theorem Stuck.rest_ne_nil {c : Cursor} (h : Stuck c) : c.rest ≠ [] := by
  rintro hr
  obtain ⟨j, hj⟩ | ⟨hne, -⟩ := h
  · simp [hr, depthAfter] at hj
  · exact hne hr

theorem Stuck.of_same {c d : Cursor} (h : Stuck c) (hd : SamePlace c d) : Stuck d := by
  unfold Stuck Unclosed
  rwa [hd.rest]

/-- A rule that does not move where the query does not go on leaves the parser stuck. -/
theorem Stuck.ensures {c : Cursor} {α : Type} {r : Rule .clause α} (h : Stuck c)
    (hr : Idle c.rest → r.Ensures c fun _ d => SamePlace c d) :
    r.Ensures c fun _ d => Stuck d := by
  obtain hopen | ⟨hne, hidle⟩ := h
  · exact hopen.ensures.mono fun _ _ hd => .inl hd
  · exact (hr hidle).mono fun _ _ hd => Stuck.of_same (.inr ⟨hne, hidle⟩) hd

/-- What completes an operand closes its brackets, before an AS and whatever is closed after it. -/
theorem depthAfter_of_completes_append (h : completes d last ts = true) (ha : a.key = "AS")
    (hk : depthAfter 0 k = some 0) : depthAfter d (ts ++ a :: k) = some 0 := by
  rw [depthAfter_append, depthAfter_of_completes h, Option.bind_some,
    depthAfter_of_plain (by simp [Token.opens, ha]) (by simp [Token.closes, ha]), hk]

/-- Tokens that complete an operand and an AS leave the parser stuck in front of them. -/
theorem Stuck.of_completes {c : Cursor} (h : completes d last ts = true) (ha : a.key = "AS")
    (hk : depthAfter 0 k = some 0) (hr : c.rest = ts ++ a :: k) : Stuck c := by
  cases d with
  | zero => exact .inr ⟨by simp [hr], hr ▸ idle_of_completes h ha⟩
  | succ j => exact .inl ⟨j, hr ▸ depthAfter_of_completes_append h ha hk⟩

end SemanticLayer.Sql.Parser
