import SemanticLayer.Proofs.Cuts
import SemanticLayer.Proofs.Trimming

/-!
# Separators after a text

A text followed by separators is cut into the pieces of the text and then the separators
(`piece?_append_separators`). The one exception is a comment up to the end of its line: it takes
everything that is no line break. A quote or a comment that is never closed stays so.
-/

namespace SemanticLayer.Sql.Lexer

open SemanticLayer.Text (isBlank isDigit)
open SemanticLayer.Sql.Grammar (standard)

variable {a c : Char} {o cs r text e : List Char} {p : Piece} {n : Nat}

/-- Whether the text that begins with `a` is a comment up to the end of its line, and the line is
not ended. -/
def isOpenLine (a : Char) (cs : List Char) : Bool :=
  ['-', '-'].isPrefixOf (a :: cs) && (cs.drop 1).all fun c => !isBreak c

/-- Whether a text ends in a comment up to the end of its line. -/
def endsInLine : Nat → List Char → Bool
  | _, [] => false
  | 0, _ :: _ => false
  | n + 1, a :: cs =>
    isOpenLine a cs || (piece? standard a cs).any fun found => endsInLine n found.2

section

variable (he : ∀ c ∈ e, isSeparator c = true)
include he

/-! ## Pieces -/

theorem continues_separators : Continues r (r ++ e) := by
  intro x hx
  cases r with
  | nil => exact .inl (he x (List.mem_of_head? hx))
  | cons y r =>
    refine .inr ⟨hx, fun z hz => ?_⟩
    cases r with
    | nil => exact .inl (he z (List.mem_of_head? hz))
    | cons w r => exact .inr hz

theorem samePhrase_separators : SamePhrase text r (r ++ e) := by
  have hphrase := phrase?_append_separators he (text ++ r)
  rw [List.append_assoc] at hphrase
  exact ⟨fun w hw => by rw [hphrase, hw]; rfl, fun hnone => by rw [hphrase, hnone]; rfl⟩

/-- A mark without separators does not reach into them. -/
theorem isPrefixOf_append_separators (ho : ∀ c ∈ o, isSeparator c = false) (cs : List Char) :
    o.isPrefixOf (cs ++ e) = o.isPrefixOf cs := by
  refine Bool.eq_iff_iff.2 ?_
  rw [ List.isPrefixOf_iff_prefix, List.isPrefixOf_iff_prefix]
  refine ⟨fun h => ?_, fun h => h.trans (List.prefix_append cs e)⟩
  obtain hle | ⟨beyond, rfl⟩ := List.prefix_or_prefix_of_prefix h (List.prefix_append cs e)
  · exact hle
  · have hbeyond : beyond <+: e := (List.prefix_append_right_inj cs).1 h
    cases beyond with
    | nil => rw [List.append_nil]
    | cons x beyond =>
      have hsep := he x (hbeyond.mem List.mem_cons_self)
      rw [ho x (by simp)] at hsep
      cases hsep

theorem numeral_append_separators (ha : isDigit a = true) (h : numeral standard a cs = (p, r)) :
    numeral standard a (cs ++ e) = (p, r ++ e) := by
  obtain ⟨xs, rfl⟩ := numeral_suffix_tail ha h
  rw [List.append_assoc]
  exact numeral_local h (continues_separators he)

/-- No quote is closed by separators. -/
theorem quoted?_separators {q : Quoting} (hq : q.Doubles) : quoted? q e = none := by
  have hclose : ∀ c ∈ e, c ≠ q.close := by
    rintro c hc rfl
    have hsep := he _ hc
    rw [hq.close] at hsep
    cases hsep
  clear he
  induction e with
  | nil => rfl
  | cons c e ih =>
    have hc := hclose c (by simp)
    have ih := ih fun d hd => hclose d (List.mem_cons_of_mem c hd)
    cases e with
    | nil => simp [quoted?, hc]
    | cons d e => rw [quoted?_cons_cons hq, if_neg (by simp [hc]), if_neg hc, ih]; rfl

theorem quoted?_append_of_none {q : Quoting} (hq : q.Doubles) (h : quoted? q cs = none) :
    quoted? q (cs ++ e) = none := by
  induction cs using List.twoStepInduction with
  | nil => exact quoted?_separators he hq
  | singleton c =>
    have hc : c ≠ q.close := by
      rintro rfl
      simp [quoted?] at h
    cases e with
    | nil => exact h
    | cons d e =>
      rw [List.singleton_append, quoted?_cons_cons hq, if_neg (by simp [hc]), if_neg hc,
        quoted?_separators he hq]
      rfl
  | cons_cons c d cs ih ih' =>
    simp only [List.cons_append, quoted?_cons_cons hq] at h ih' ⊢
    split at h
    · next hclose =>
      rw [if_pos hclose, ih (Option.map_eq_none_iff.1 h)]
      rfl
    · next hclose =>
      rw [if_neg hclose]
      split at h
      · cases h
      · next hc =>
        rw [if_neg hc, ih' d (Option.map_eq_none_iff.1 h)]
        rfl

theorem quotedPiece?_append_separators {q : Quoting} (hq : q.Doubles) {kind : TokenKind} :
    quotedPiece? q kind (cs ++ e) =
      (quotedPiece? q kind cs).map fun found => (found.1, found.2 ++ e) := by
  cases h : quotedPiece? q kind cs with
  | none =>
    have hnone : quoted? q cs = none := Option.map_eq_none_iff.1 h
    rw [quotedPiece?, quoted?_append_of_none he hq hnone]
    rfl
  | some found =>
    obtain ⟨p, r⟩ := found
    obtain ⟨xs, rfl⟩ := quotedPiece?_suffix h
    rw [List.append_assoc, quotedPiece?_local hq h (continues_separators he)]
    rfl

/-- No comment is closed by separators. -/
theorem commentBody?_append_of_none {m : CommentMarks} {opened : Bool} {depth : Nat}
    (hm : isSeparator m.closing.2 = false ∧ ∀ i ∈ m.inner, isSeparator i.2 = false)
    (h : commentBody? m opened depth cs = none) : commentBody? m opened depth (cs ++ e) = none := by
  -- No mark ends with a separator.
  have hinner : ∀ c d : Char, isSeparator d = true → (m.inner == some (c, d)) = false := by
    intro c d hd
    refine beq_false_of_ne fun heq => ?_
    rw [hm.2 (c, d) heq] at hd
    cases hd
  have hclosing : ∀ c d : Char, isSeparator d = true → (m.closing == (c, d)) = false := by
    intro c d hd
    refine beq_false_of_ne fun heq => ?_
    rw [← (Prod.mk.inj heq).2, hm.1] at hd
    cases hd
  have hseparators : ∀ (e : List Char), (∀ c ∈ e, isSeparator c = true) → ∀ opened depth c,
      commentBody? m opened depth (c :: e) = none := by
    intro e
    induction e with
    | nil => intro _ opened depth c; rfl
    | cons d e ih =>
      intro he opened depth c
      have hd := he d (by simp)
      have ih := ih (fun x hx => he x (List.mem_cons_of_mem d hx)) false
      simp [commentBody?, hinner c d hd, hclosing c d hd, ih]
  fun_induction commentBody? m opened depth cs with
  | case1 opened depth c d cs ho ih =>
    simp only [List.cons_append, commentBody?, ho, if_true, ih (Option.map_eq_none_iff.1 h),
      Option.map_none]
  | case2 => cases h
  | case3 opened c d cs ho n hclose ih =>
    have ih := ih (Option.map_eq_none_iff.1 h)
    rw [List.cons_append] at ih
    simp [List.cons_append, commentBody?, ho, hclose, ih]
  | case4 opened c d cs ho depth hclose ih =>
    have ih := ih (Option.map_eq_none_iff.1 h)
    rw [List.cons_append] at ih
    simp [List.cons_append, commentBody?, ho, hclose, ih]
  | case5 cs opened depth hcs =>
    cases cs with
    | nil =>
      cases e with
      | nil => rfl
      | cons c e =>
        exact hseparators e (fun x hx => he x (List.mem_cons_of_mem c hx)) opened depth c
    | cons c cs =>
      cases cs with
      | nil => exact hseparators e he opened depth c
      | cons d cs => exact absurd rfl (hcs c d cs)

theorem markedComment?_append_separators {m : CommentMarks} (hm : m ∈ commentMarks standard) :
    markedComment? m (cs ++ e) =
      (markedComment? m cs).map fun found => (found.1, found.2 ++ e) := by
  cases h : markedComment? m cs with
  | none =>
    have hmarks : ∀ m ∈ commentMarks standard,
        isSeparator m.closing.2 = false ∧ ∀ i ∈ m.inner, isSeparator i.2 = false := by
      decide
    have hnone : commentBody? m true 0 cs = none := Option.map_eq_none_iff.1 h
    rw [markedComment?, commentBody?_append_of_none he (hmarks m hm) hnone]
    rfl
  | some found => exact markedComment?_append h

/-- A comment up to the end of its line takes separators after it, unless a line break is the first
of them. -/
theorem lineComment_append_separators
    (h : (cs.all fun c => !isBreak c) = true → e.head?.all isBreak = true) :
    lineComment (cs ++ e) = ((lineComment cs).1, (lineComment cs).2 ++ e) := by
  cases hdrop : cs.dropWhile fun c => !isBreak c with
  | cons d rest =>
    refine lineComment_append rfl ?_
    rw [lineComment, hdrop]
    simp
  | nil =>
    have hall := List.dropWhile_eq_nil_iff.1 hdrop
    have hbreak := h (List.all_eq_true.2 hall)
    have hstop : (e.takeWhile fun c => !isBreak c) = [] ∧
        (e.dropWhile fun c => !isBreak c) = e := by
      cases e with
      | nil => exact ⟨rfl, rfl⟩
      | cons b e =>
        have hb : (!isBreak b) = false := by simpa using hbreak
        rw [List.takeWhile_cons, List.dropWhile_cons, hb]
        exact ⟨rfl, rfl⟩
    rw [lineComment, lineComment, List.takeWhile_append_of_pos hall, hstop.1,
      List.dropWhile_append_of_pos hall, hstop.2, hdrop, List.takeWhile_eq_self_iff.2 hall,
      List.append_nil]
    rfl

theorem marked?_append_separators :
    marked? standard a (cs ++ e) =
      (marked? standard a cs).map fun found => (found.1, found.2 ++ e) := by
  have hdollar (cs : List Char) :
      (if (standard.dollarQuotes && a == '$') = true then dollarTag? cs else none) = none := rfl
  have hcomment : ((commentMarks standard).find? fun m => m.opening.isPrefixOf (a :: (cs ++ e))) =
      (commentMarks standard).find? fun m => m.opening.isPrefixOf (a :: cs) :=
    List.find?_congr fun m hm =>
      isPrefixOf_append_separators he (not_separator_of_mem_opening m hm) (a :: cs)
  have hoperator : (standard.operators.find? fun o => o.toList.isPrefixOf (a :: (cs ++ e))) =
      standard.operators.find? fun o => o.toList.isPrefixOf (a :: cs) :=
    List.find?_congr fun o ho =>
      isPrefixOf_append_separators he (not_separator_of_mem_operator o ho) (a :: cs)
  unfold marked?
  rw [hdollar, hdollar, hcomment, hoperator]
  cases hm : (commentMarks standard).find? fun m => m.opening.isPrefixOf (a :: cs) with
  | some m =>
    have hlength := length_le_of_find?_isPrefixOf (f := CommentMarks.opening) hm
    dsimp only
    rw [← List.cons_append, List.drop_append_of_le_length hlength]
    exact markedComment?_append_separators he (List.mem_of_find?_eq_some hm)
  | none =>
    cases ho : standard.operators.find? fun o => o.toList.isPrefixOf (a :: cs) with
    | some o =>
      have hlength := length_le_of_find?_isPrefixOf (f := String.toList) ho
      rw [String.length_toList] at hlength
      dsimp only
      rw [← List.cons_append, List.drop_append_of_le_length hlength]
      rfl
    | none =>
      cases hword : markOrWord standard a cs with
      | mk p r =>
        obtain ⟨xs, rfl⟩ := markOrWord_suffix_tail hword
        dsimp only
        rw [List.append_assoc, markOrWord_local hword (continues_separators he)
          (samePhrase_separators he)]
        rfl

/-- A piece is the same before separators, and what follows it is followed by them. -/
theorem piece?_append_separators (hline : isOpenLine a cs = true → e.head?.all isBreak = true) :
    piece? standard a (cs ++ e) =
      (piece? standard a cs).map fun found => (found.1, found.2 ++ e) := by
  have hquote : ∀ c, isSeparator c = true → standard.stringQuotes.contains c = false :=
    forall_separator (by decide)
  have hdash : ['-', '-'].isPrefixOf (a :: (cs ++ e)) = ['-', '-'].isPrefixOf (a :: cs) :=
    isPrefixOf_append_separators he (List.all_iff_forall_prop.1 (by decide)) (a :: cs)
  have htag : (cs ++ e).head?.any standard.stringQuotes.contains =
      cs.head?.any standard.stringQuotes.contains := by
    cases cs with
    | cons c cs => rfl
    | nil =>
      cases e with
      | nil => rfl
      | cons b e => simpa using hquote b (he b (by simp))
  unfold piece?
  rw [hdash, htag]
  by_cases hblank : isBlank a = true
  · simp only [if_pos hblank]
    rfl
  simp only [if_neg hblank]
  by_cases hdigit : isDigit a = true
  · simp only [if_pos hdigit]
    rw [numeral_append_separators he hdigit rfl]
    rfl
  simp only [if_neg hdigit]
  by_cases hname : standard.nameQuotes.contains a = true
  · simp only [if_pos hname]
    exact quotedPiece?_append_separators he (doubles_nameQuoting hname)
  simp only [if_neg hname]
  by_cases hstring : standard.stringQuotes.contains a = true
  · simp only [if_pos hstring]
    exact quotedPiece?_append_separators he (doubles_stringQuoting hstring)
  simp only [if_neg hstring]
  by_cases htagged : (standard.stringTags.contains a &&
      cs.head?.any standard.stringQuotes.contains) = true
  · simp only [if_pos htagged]
    cases cs with
    | nil => simp at htagged
    | cons q cs =>
      have hq : standard.stringQuotes.contains q = true := (Bool.and_eq_true_iff.1 htagged).2
      exact quotedPiece?_append_separators he (doubles_stringQuoting hq)
  simp only [if_neg htagged]
  by_cases hcomment : ['-', '-'].isPrefixOf (a :: cs) = true
  · simp only [if_pos hcomment]
    cases cs with
    | nil => simp at hcomment
    | cons d cs =>
      have hopen : (cs.all fun c => !isBreak c) = true → e.head?.all isBreak = true := fun hall =>
        hline (by rw [isOpenLine, hcomment]; exact hall)
      rw [List.cons_append, List.drop_one, List.drop_one, List.tail_cons, List.tail_cons,
        lineComment_append_separators he hopen]
      rfl
  simp only [if_neg hcomment]
  exact marked?_append_separators he

end

/-! ## Runs over the text -/

variable {c d : Cut} {m k : Nat}

/-- The cut with `e` after the text. -/
def Cut.before (c : Cut) (e : List Char) : Cut :=
  { c with rest := c.rest ++ e, plain := c.plain.map fun kept => (kept.1, kept.2 ++ e) }

namespace Cut

theorem push_before {kind : TokenKind} {s key : String} :
    (c.before e).push kind s key (r ++ e) = (c.push kind s key r).before e := rfl

theorem comment_before {s : String} :
    (c.before e).comment s (r ++ e) = (c.comment s r).before e := by
  obtain ⟨rest, broken, comments, tokens, plain⟩ := c
  cases broken <;> cases tokens <;> rfl

theorem endPlain_before : (c.before e).endPlain = c.endPlain.before e := by
  obtain ⟨rest, broken, comments, tokens, plain⟩ := c
  cases plain with
  | none => rfl
  | some kept =>
    obtain ⟨n, start⟩ := kept
    have htext : (start ++ e).take ((start ++ e).length - (rest ++ e).length) =
        start.take (start.length - rest.length) := by
      rw [List.length_append, List.length_append, Nat.add_sub_add_right]
      exact List.take_append_of_le_length (Nat.sub_le _ _)
    simp only [before, endPlain, Option.map_some, htext]
    split <;> rfl

/-- A statement that would be kept as plain text, and that a semicolon follows at once, is not
kept. -/
theorem word_before {s : String} :
    (c.before e).word standard s (r ++ e) = (c.word standard s r).before e ∨
      r = [] ∧ (c.word standard s r).plain = some ((c.word standard s r).tokens.length, []) ∧
        (c.before e).word standard s (r ++ e) =
          { (c.word standard s r).before e with plain := none } := by
  have hnone : (c.before e).plain.isNone = c.plain.isNone := Option.isNone_map
  unfold word
  dsimp only
  rw [hnone, show (c.before e).atStatement = c.atStatement from rfl, push_before]
  generalize hkept : (c.atStatement &&
    plainStatements.contains (standard.keyword (Text.upper s)) && c.plain.isNone) = kept
  cases kept with
  | false => exact .inl rfl
  | true =>
    cases r with
    | cons x r =>
      rw [List.cons_append, List.head?_cons, List.head?_cons]
      split <;> exact .inl rfl
    | nil =>
      -- At the end of the text what follows decides.
      have hshort : (true && ([] : List Char).head? != some ';') = true := rfl
      simp only [hshort, if_true]
      split
      · exact .inl rfl
      · refine .inr ⟨trivial, trivial, ?_⟩
        have hc : c.plain = none := by simpa using (Bool.and_eq_true_iff.1 hkept).2
        simp [before, push, hc]

/-- The cut `d` stands where `c` does, and `e` follows the text. -/
def Ahead (e : List Char) (c d : Cut) : Prop :=
  d = c.before e ∨
    c.rest = [] ∧ c.plain = some (c.tokens.length, []) ∧ d = { c.before e with plain := none }

theorem rest_comment {s : String} : (c.comment s r).rest = r := by
  unfold comment
  split <;> rfl

theorem rest_word {s : String} : (c.word standard s r).rest = r := by
  unfold word
  dsimp only
  split <;> rfl

theorem rest_add {p : Piece} : (c.add standard p r).rest = r := by
  cases p with
  | blank breaks => rfl
  | comment s => exact rest_comment
  | hint s =>
    unfold add
    dsimp only
    split
    · rfl
    · exact rest_comment
  | word s => exact rest_word
  | token kind s key => rfl

/-- A piece is added to both. -/
theorem add_before (p : Piece) :
    Ahead e (c.add standard p r) ((c.before e).add standard p (r ++ e)) := by
  cases p with
  | blank breaks => exact .inl rfl
  | comment s => exact .inl comment_before
  | hint s =>
    refine .inl ?_
    unfold add
    dsimp only
    rw [show (c.before e).takesHint = c.takesHint from rfl]
    split
    · rfl
    · exact comment_before
  | word s =>
    refine word_before.imp_right fun hend => ⟨?_, hend.2⟩
    exact rest_word.trans hend.1
  | token kind s key =>
    refine .inl ?_
    unfold add
    dsimp only
    split
    · rw [endPlain_before]
      rfl
    · rfl

/-- Both are cut in the same way up to the end of the text, or fail together. -/
theorem Ahead.run (he : ∀ c ∈ e, isSeparator c = true) (h : Ahead e c d) (hn : c.rest.length ≤ n)
    (hm : c.rest.length + e.length ≤ m)
    (hline : endsInLine n c.rest = true → e.head?.all isBreak = true) :
    Cut.run standard n c = none ∧ Cut.run standard m d = none ∨
      ∃ c' d' k, Cut.run standard n c = some c' ∧ Cut.run standard m d = Cut.run standard k d' ∧
        c'.rest = [] ∧ Ahead e c' d' ∧ e.length ≤ k := by
  induction n generalizing c d m with
  | zero =>
    have hrest := List.length_eq_zero_iff.1 (Nat.le_zero.1 hn)
    exact .inr ⟨c, d, m, rfl, rfl, hrest, h, by omega⟩
  | succ n ih =>
    cases hrest : c.rest with
    | nil =>
      refine .inr ⟨c, d, m, ?_, rfl, hrest, h, by omega⟩
      rw [Cut.run, hrest]
      rfl
    | cons a cs =>
      rw [hrest] at hn hm hline
      simp only [List.length_cons] at hn hm
      obtain ⟨m, rfl⟩ : ∃ m', m = m' + 1 := ⟨m - 1, by omega⟩
      obtain rfl : d = c.before e := h.resolve_right fun hend => by simp [hrest] at hend
      have hd : (c.before e).rest = a :: (cs ++ e) := by rw [before, hrest]; rfl
      have hpiece := piece?_append_separators he fun hopen => hline (by rw [endsInLine, hopen]; rfl)
      simp only [Cut.run, Cut.step, hrest, hd, List.isEmpty_cons, Bool.false_eq_true, if_false]
      cases hp : piece? standard a cs with
      | none =>
        rw [hp] at hpiece
        exact .inl ⟨rfl, by rw [hpiece]; rfl⟩
      | some found =>
        obtain ⟨p, r⟩ := found
        rw [hp] at hpiece
        rw [hpiece]
        have hr := (piece?_suffix_tail hp).length_le
        have hlength : (c.add standard p r).rest.length = r.length := by rw [rest_add]
        simp only [Option.map_some, Option.bind_some]
        refine ih (add_before p) (by omega) (by omega) fun hopen => hline ?_
        rw [rest_add] at hopen
        rw [endsInLine, hp, Option.any_some, hopen, Bool.or_true]

/-! ## Runs over blanks and semicolons -/

/-- The cut `d` follows `c` at the end of its text: only blanks were read since. -/
structure Behind (c d : Cut) : Prop where
  tokens : d.tokens = c.tokens
  comments : d.comments = c.comments
  plain : d.plain = none ∧ (c.plain = none ∨ c.plain = some (c.tokens.length, [])) ∨
    ∃ n start blanks, c.plain = some (n, start) ∧ d.plain = some (n, start ++ blanks ++ d.rest) ∧
      ∀ b ∈ blanks, isBlank b = true

theorem Ahead.behind (h : Ahead e c d) (hrest : c.rest = []) : Behind c d ∧ d.rest = e := by
  obtain rfl | ⟨-, hplain, rfl⟩ := h
  · refine ⟨⟨rfl, rfl, ?_⟩, by simp [before, hrest]⟩
    cases hplain : c.plain with
    | none => exact .inl ⟨by simp [before, hplain], .inl rfl⟩
    | some kept => exact .inr ⟨kept.1, kept.2, [], rfl, by simp [before, hrest, hplain], by simp⟩
  · exact ⟨⟨rfl, rfl, .inl ⟨rfl, .inr hplain⟩⟩, by simp [before, hrest]⟩

theorem Behind.blank (h : Behind c d) {b : Char} (hb : isBlank b = true) (hrest : d.rest = b :: e)
    {broken : Bool} : Behind c { d with rest := e, broken } := by
  refine ⟨h.tokens, h.comments, h.plain.imp_right ?_⟩
  rintro ⟨n, start, blanks, hc, hd, hblanks⟩
  refine ⟨n, start, blanks ++ [b], hc, by simp [hd, hrest], fun x hx => ?_⟩
  rcases List.mem_append.1 hx with hx | hx
  · exact hblanks x hx
  · rwa [List.mem_singleton.1 hx]

/-- Blanks after a statement that is kept as plain text are not kept. -/
theorem Behind.endPlain (h : Behind c d) (hrest : c.rest = []) :
    d.endPlain.tokens = c.endPlain.tokens ∧ d.endPlain.comments = c.endPlain.comments := by
  obtain ⟨htokens, hcomments, ⟨hd, hc | hc⟩ | ⟨n, start, blanks, hc, hd, hblanks⟩⟩ := h
  · simp only [Cut.endPlain, hc, hd]
    exact ⟨htokens, hcomments⟩
  · simp only [Cut.endPlain, hc, hd, Nat.sub_self, List.drop_zero, List.take_nil]
    exact ⟨htokens, hcomments⟩
  · have htext : (start ++ blanks ++ d.rest).take
        ((start ++ blanks ++ d.rest).length - d.rest.length) = start ++ blanks := by
      have hlength : (start ++ blanks ++ d.rest).length = (start ++ blanks).length + d.rest.length :=
        List.length_append
      rw [hlength, Nat.add_sub_cancel, List.take_left]
    simp only [Cut.endPlain, hc, hd, htext, hrest, List.length_nil, Nat.sub_zero, List.take_length,
      Text.trim_append_blanks hblanks, htokens, hcomments]
    split <;> exact ⟨rfl, rfl⟩

end Cut

def semicolon (comments : List String) : Token :=
  { kind := .symbol, text := ";", key := ";", comments }

namespace Cut

theorem step_blank {b : Char} (hb : isBlank b = true) (hrest : d.rest = b :: e) :
    d.step standard = some { d with rest := e, broken := d.broken || isBreak b } := by
  rw [step, hrest]
  dsimp only
  rw [piece?_separator (by rw [isSeparator, hb, Bool.true_or]), if_pos hb]
  rfl

theorem step_semicolon (hrest : d.rest = ';' :: e) :
    d.step standard = some (d.endPlain.push .symbol ";" ";" e) := by
  rw [step, hrest]
  dsimp only
  rw [piece?_separator (by decide)]
  rfl

theorem finish_of_plain (hplain : d.plain = none) (hcomments : d.comments = []) :
    d.finish = d.tokens.reverse := by
  rw [finish, endPlain, hplain]
  dsimp only
  cases d.tokens with
  | nil => rfl
  | cons t ts => simp [hcomments, Token.addComments]

/-- Once no comment waits, each semicolon is a token without comments. -/
theorem run_terminators (he : ∀ c ∈ e, isBlank c = true ∨ c = ';') (hrest : d.rest = e)
    (hplain : d.plain = none) (hcomments : d.comments = []) (hk : e.length ≤ k) :
    (Cut.run standard k d).map finish =
      some (d.tokens.reverse ++ List.replicate (e.count ';') (semicolon [])) := by
  induction e generalizing d k with
  | nil =>
    have hrun : Cut.run standard k d = some d := by cases k <;> simp [Cut.run, hrest]
    rw [hrun, Option.map_some, finish_of_plain hplain hcomments]
    simp
  | cons b e ih =>
    obtain ⟨k, rfl⟩ : ∃ k', k = k' + 1 := ⟨k - 1, by simp at hk; omega⟩
    have he' : ∀ c ∈ e, isBlank c = true ∨ c = ';' := fun c hc => he c (List.mem_cons_of_mem b hc)
    have hk' : e.length ≤ k := by simpa using hk
    rw [Cut.run, hrest, List.isEmpty_cons, if_neg Bool.false_ne_true]
    rcases he b (by simp) with hb | rfl
    · have hne : b ≠ ';' := by
        rintro rfl
        exact absurd hb (by decide)
      rw [step_blank hb hrest, Option.bind_some, List.count_cons_of_ne hne]
      exact ih he' rfl hplain hcomments hk'
    · have hended : d.endPlain = d := by rw [Cut.endPlain, hplain]
      have hrun := ih he' (d := d.push .symbol ";" ";" e) rfl hplain rfl hk'
      rw [step_semicolon hrest, Option.bind_some, hended, hrun, List.count_cons_self,
        List.replicate_succ]
      simp [Cut.push, hcomments, semicolon]

/-- The first semicolon takes the comments that wait; without a semicolon they go to the last
token. -/
theorem Behind.run_terminators (he : ∀ c ∈ e, isBlank c = true ∨ c = ';') (h : Behind c d)
    (hc : c.rest = []) (hrest : d.rest = e) (hk : e.length ≤ k) :
    (Cut.run standard k d).map finish = some (
      if ';' ∈ e then
        c.endPlain.tokens.reverse ++
          semicolon c.endPlain.comments :: List.replicate (e.count ';' - 1) (semicolon [])
      else c.finish) := by
  induction e generalizing d k with
  | nil =>
    have hrun : Cut.run standard k d = some d := by cases k <;> simp [Cut.run, hrest]
    obtain ⟨htokens, hcomments⟩ := h.endPlain hc
    rw [hrun, Option.map_some, if_neg (by simp), finish, finish]
    simp only [htokens, hcomments]
  | cons b e ih =>
    obtain ⟨k, rfl⟩ : ∃ k', k = k' + 1 := ⟨k - 1, by simp at hk; omega⟩
    have he' : ∀ c ∈ e, isBlank c = true ∨ c = ';' := fun c hc => he c (List.mem_cons_of_mem b hc)
    have hk' : e.length ≤ k := by simpa using hk
    rw [Cut.run, hrest, List.isEmpty_cons, if_neg Bool.false_ne_true]
    rcases he b (by simp) with hb | rfl
    · have hne : b ≠ ';' := by
        rintro rfl
        exact absurd hb (by decide)
      rw [step_blank hb hrest, Option.bind_some, ih he' (h.blank hb hrest) rfl hk',
        List.count_cons_of_ne hne]
      simp [hne.symm]
    · obtain ⟨htokens, hcomments⟩ := h.endPlain hc
      have hplain : d.endPlain.plain = none := by
        unfold Cut.endPlain
        split
        · assumption
        · dsimp only
          split <;> rfl
      have hrun :=
        Cut.run_terminators he' (d := d.endPlain.push .symbol ";" ";" e) rfl hplain rfl hk'
      rw [step_semicolon hrest, Option.bind_some, hrun, if_pos (by simp), List.count_cons_self,
        Nat.add_sub_cancel]
      simp [Cut.push, semicolon, htokens, hcomments]

end Cut

/-! ## Tokens -/

/-- The cut at the end of a text; `none` if a quote or a comment is never closed. -/
def ended (text : List Char) : Option Cut := Cut.run standard text.length { rest := text }

/-- The comments that wait for a token at the end of a text. -/
def waiting (text : List Char) : List String :=
  ((ended text).map fun c => c.endPlain.comments).getD []

theorem tokenize_append_terminators (he : ∀ c ∈ e, isBlank c = true ∨ c = ';')
    (hline : endsInLine text.length text = true → e.head?.all isBreak = true) :
    tokenize standard (String.ofList (text ++ e)) = (ended text).map fun c =>
      if ';' ∈ e then
        c.endPlain.tokens.reverse ++
          semicolon c.endPlain.comments :: List.replicate (e.count ';' - 1) (semicolon [])
      else c.finish := by
  have hsep : ∀ c ∈ e, isSeparator c = true := by
    intro c hc
    rcases he c hc with hb | rfl
    · rw [isSeparator, hb, Bool.true_or]
    · decide
  have hahead : Cut.Ahead e { rest := text } { rest := text ++ e } := .inl rfl
  rw [tokenize, String.toList_ofList, ended]
  obtain ⟨hshort, hlong⟩ | ⟨c, d, k, hshort, hlong, hrest, hend, hk⟩ :=
    hahead.run hsep (Nat.le_refl _) (m := (text ++ e).length) (by simp) hline
  · rw [hshort, hlong]
    rfl
  · obtain ⟨hbehind, hd⟩ := hend.behind hrest
    rw [hshort, hlong, hbehind.run_terminators he hrest hd hk]
    rfl

end SemanticLayer.Sql.Lexer
