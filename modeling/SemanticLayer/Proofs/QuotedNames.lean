import SemanticLayer.Proofs.ReadBack

/-!
# Names in quotes

A dialect with a quote puts it around a name and doubles it inside. A name in quotes is read up to
the first quote that is not doubled. `quotedName?_eq_some_iff` says that this reads nothing but what
`quoteName` has written: a text begins with a name in quotes exactly if it is that name, quoted, and
a rest that does not begin with a quote.

So quoted names can be told from each other and from what follows them, whatever quotes are in them
(`quoteName_prefix_free`).
-/

namespace SemanticLayer

namespace Text

variable {q : Char} {cs s k : List Char}

/-- What is read up to a quote is what stands before it, with its quotes doubled. -/
theorem upToQuote?_eq_some_iff :
    upToQuote? q cs = some (s, k) ↔
      cs = (s.flatMap fun c => if c == q then [c, c] else [c]) ++ q :: k ∧ k.head? ≠ some q := by
  refine ⟨fun h => ?_, fun ⟨hcs, hk⟩ => hcs ▸ upToQuote?_doubled hk s⟩
  -- A doubled quote is left as a whole, so the induction follows the reader, not the list.
  induction cs using upToQuote?.induct q generalizing s with
  | case1 => cases h
  | case2 =>
    rw [upToQuote?, if_pos rfl] at h
    cases h
    exact ⟨rfl, by simp⟩
  | case3 c hc =>
    rw [upToQuote?, if_neg hc] at h
    cases h
  | case4 cs ih =>
    rw [upToQuote?, if_pos rfl, if_pos rfl] at h
    obtain ⟨r, hr, heq⟩ := Option.map_eq_some_iff.1 h
    cases heq
    obtain ⟨hcs, hk⟩ := ih hr
    refine ⟨?_, hk⟩
    rw [List.flatMap_cons, if_pos (beq_self_eq_true q), hcs]
    rfl
  | case5 d cs hd =>
    rw [upToQuote?, if_pos rfl, if_neg hd] at h
    cases h
    exact ⟨rfl, by simpa using hd⟩
  | case6 c d cs hc ih =>
    rw [upToQuote?, if_neg hc] at h
    obtain ⟨r, hr, heq⟩ := Option.map_eq_some_iff.1 h
    cases heq
    obtain ⟨hcs, hk⟩ := ih hr
    refine ⟨?_, hk⟩
    rw [List.flatMap_cons, if_neg (by simpa using hc), hcs]
    rfl

end Text

namespace Dialect

variable {d : Dialect} {q : Char}

/-- A name in quotes at the beginning of a text is one that the dialect has quoted. -/
theorem quotedName?_eq_some_iff (hq : d.quote = some q) {cs rest : List Char} {name : String} :
    d.quotedName? cs = some (name, rest) ↔
      cs = (d.quoteName name).toList ++ rest ∧ rest.head? ≠ some q := by
  refine ⟨fun h => ?_, fun ⟨hcs, hrest⟩ => hcs ▸ quotedName?_quoteName hq hrest name⟩
  cases cs with
  | nil => simp [quotedName?, hq] at h
  | cons c cs =>
    simp only [quotedName?, hq] at h
    split_ifs at h with hc
    obtain ⟨r, hr, heq⟩ := Option.map_eq_some_iff.1 h
    cases heq
    obtain ⟨hcs, hrest⟩ := Text.upToQuote?_eq_some_iff.1 hr
    refine ⟨?_, hrest⟩
    simp only [quoteName, hq, Sql.Scan.toList_quoted, String.toList_ofList, hc]
    rw [hcs, List.cons_append, List.append_assoc]
    rfl

/-- Quoting can be undone with anything behind it that does not begin with a quote: the name is read
and the rest is left. So different names are quoted differently, and nothing in a name ends its own
quotes, since what follows a quoted name in a text is the same however the text was put together. -/
theorem quoteName_prefix_free (hq : d.quote = some q) :
    (∀ cs name rest, d.quotedName? cs = some (name, rest) ↔
        cs = (d.quoteName name).toList ++ rest ∧ rest.head? ≠ some q) ∧
      Function.Injective d.quoteName ∧
      ∀ (a b : String) (r s : List Char), r.head? ≠ some q → s.head? ≠ some q →
        (d.quoteName a).toList ++ r = (d.quoteName b).toList ++ s → a = b ∧ r = s := by
  have hfree (a b : String) (r s : List Char) (hr : r.head? ≠ some q) (hs : s.head? ≠ some q)
      (h : (d.quoteName a).toList ++ r = (d.quoteName b).toList ++ s) : a = b ∧ r = s := by
    have hread := quotedName?_quoteName hq hr a
    rw [h, quotedName?_quoteName hq hs b] at hread
    cases hread
    exact ⟨rfl, rfl⟩
  refine ⟨fun cs name rest => quotedName?_eq_some_iff hq, fun a b h => ?_, hfree⟩
  have hnone : ([] : List Char).head? ≠ some q := by simp
  exact (hfree a b [] [] hnone hnone (by rw [h])).1

/-- Three of the dialects quote names; a name may be nothing but quotes. -/
theorem standard_quoteName_injective :
    Function.Injective postgresql.quoteName ∧ Function.Injective mysql.quoteName ∧
      Function.Injective oracle.quoteName ∧
      oracle.quotedName? ((oracle.quoteName "\x22\x22").toList ++ [',']) =
        some ("\x22\x22", [',']) := by
  have horacle := quoteName_prefix_free (d := oracle) rfl
  exact ⟨(quoteName_prefix_free (d := postgresql) rfl).2.1,
    (quoteName_prefix_free (d := mysql) rfl).2.1, horacle.2.1,
    (horacle.1 _ _ _).2 ⟨rfl, by decide⟩⟩

end Dialect

end SemanticLayer
