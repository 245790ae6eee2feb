import SemanticLayer.Compiler
import SemanticLayer.Proofs.Outcome
import SemanticLayer.Proofs.Trailing

/-!
# Terminators after a query

The compiler takes one semicolon off the end of a query by its text, the reader divides what is left
at semicolons, and pieces without tokens are no statements. So blanks around a query and semicolons
after it do not matter, whatever their number and order. There are two exceptions.

* A comment that stands on a line of its own at the end of the query waits for the next token. A
  semicolon that is left takes it, and a semicolon with a comment is a statement
  (`semicolon_takes_comment`).
* A comment up to the end of its line that ends the query takes what is written after it
  (`EndsLine` excludes this).

`terminators_do_not_matter_iff` shows that there is no other one. The text of the query without its
terminators is a beginning of the padded text without one (`stripTerminator_pad`), what follows it
are blanks and semicolons, and these add nothing but semicolons without comments to its tokens
(`tokenize_append_terminators`).
-/

namespace SemanticLayer

open Sql (Node Token)
open Sql.Lexer
open Sql.Parser (split parseTokens)
open Sql.Grammar (standard)
open Text (isBlank trimRight)

variable {text e : List Char} {ts : List Token} {q : String} {k : Nat}

/-! ## Statements -/

namespace Sql.Parser

/-- Puts a token in front of statements: of the tokens of the first one, and of the others. -/
def splitStep (t : Token) (acc : List Token × List (List Token)) :
    List Token × List (List Token) :=
  if t.key == ";" then ([], (if t.comments.isEmpty then [] else [[t]]) ++ acc.1 :: acc.2)
  else (t :: acc.1, acc.2)

theorem split_eq (ts : List Token) :
    split ts = ((ts.foldr splitStep ([], [])).1 :: (ts.foldr splitStep ([], [])).2).filter
      fun statement => !statement.isEmpty := rfl

/-- The statements after the first one stay at the end. -/
theorem foldr_splitStep (ts first : List Token) (rest : List (List Token)) :
    ts.foldr splitStep (first, rest) =
      ((ts.foldr splitStep (first, [])).1, (ts.foldr splitStep (first, [])).2 ++ rest) := by
  induction ts with
  | nil => rfl
  | cons t ts ih =>
    rw [List.foldr_cons, List.foldr_cons, ih]
    unfold splitStep
    split <;> simp

theorem foldr_splitStep_semicolons :
    (List.replicate k (semicolon [])).foldr splitStep ([], []) = ([], List.replicate k []) := by
  induction k with
  | zero => rfl
  | succ k ih =>
    rw [List.replicate_succ, List.foldr_cons, ih]
    rfl

/-- Semicolons without comments are no statements. -/
theorem split_append_semicolons : split (ts ++ List.replicate k (semicolon [])) = split ts := by
  have hempty : (List.replicate k ([] : List Token)).filter (fun statement => !statement.isEmpty) =
      [] := by
    rw [List.filter_eq_nil_iff]
    intro statement hstatement
    rw [(List.mem_replicate.1 hstatement).2]
    simp
  rw [split_eq, split_eq, List.foldr_append, foldr_splitStep_semicolons, foldr_splitStep,
    ← List.cons_append, List.filter_append, hempty, List.append_nil]

/-- A semicolon with comments is a statement. -/
theorem mem_split_semicolon {comments : List String} (h : comments ≠ []) (us : List Token) :
    [semicolon comments] ∈ split (ts ++ semicolon comments :: us) := by
  have hcomments : comments.isEmpty = false := by simpa using h
  rw [split_eq, List.foldr_append, List.foldr_cons, foldr_splitStep]
  refine List.mem_filter.2 ⟨List.mem_cons_of_mem _ (List.mem_append_right _ ?_), rfl⟩
  simp [splitStep, semicolon, hcomments]

theorem parseTokens_semicolon {g : Grammar} {comments : List String} :
    parseTokens g [semicolon comments] = .ok (some (.mk .semicolon comments [])) := by
  rw [parseTokens, if_pos (by rfl)]
  rfl

end Sql.Parser

namespace Sql

theorem parse_eq (s : String) : parse standard s = (tokenize standard s).bind fun ts =>
    ((split ts).mapM (parseTokens standard)).toOption.bind fun found =>
      some (found.filterMap id) := rfl

/-- Terminators after a text do not change its statements if no comment waits for one. -/
theorem parse_append_terminators (he : ∀ c ∈ e, isBlank c = true ∨ c = ';')
    (hline : endsInLine text.length text = true → e.head?.all isBreak = true)
    (hwaiting : waiting text = []) :
    parse standard (String.ofList (text ++ e)) = parse standard (String.ofList text) := by
  have hshort : tokenize standard (String.ofList text) = (ended text).map Cut.finish := by
    rw [tokenize, String.toList_ofList, ended]
  rw [parse_eq, parse_eq, tokenize_append_terminators he hline, hshort]
  cases hended : ended text with
  | none => rfl
  | some c =>
    have hcomments : c.endPlain.comments = [] := by simpa [waiting, hended] using hwaiting
    have hfinish : c.finish = c.endPlain.tokens.reverse := by
      rw [Cut.finish]
      cases c.endPlain.tokens with
      | nil => rfl
      | cons t ts => simp [hcomments, Token.addComments]
    simp only [Option.map_some, Option.bind_some]
    split
    · rw [hcomments, ← List.replicate_succ, Parser.split_append_semicolons, hfinish]
    · rfl

/-- A semicolon that takes a waiting comment is a statement of the text. -/
theorem mem_parse_of_waiting {ns : List Node} (he : ∀ c ∈ e, isBlank c = true ∨ c = ';')
    (hline : endsInLine text.length text = true → e.head?.all isBreak = true) (hsemi : ';' ∈ e)
    (hwaiting : waiting text ≠ []) (h : parse standard (String.ofList (text ++ e)) = some ns) :
    Node.mk .semicolon (waiting text) [] ∈ ns := by
  rw [parse_eq, tokenize_append_terminators he hline] at h
  cases hended : ended text with
  | none => simp [hended] at h
  | some c =>
    have hcomments : waiting text = c.endPlain.comments := by simp [waiting, hended]
    rw [hcomments] at hwaiting ⊢
    rw [hended, Option.map_some, Option.bind_some, if_pos hsemi] at h
    obtain ⟨found, hfound, hns⟩ := Option.bind_eq_some_iff.1 h
    obtain rfl := Option.some.inj hns
    have hmem := @Parser.mem_split_semicolon c.endPlain.tokens.reverse _ hwaiting
      (List.replicate (e.count ';' - 1) (semicolon []))
    obtain ⟨result, hresult, hparse⟩ :=
      Outcome.exists_of_mapM_eq_ok (Outcome.eq_ok_of_toOption hfound) hmem
    rw [Parser.parseTokens_semicolon] at hparse
    obtain rfl := Except.ok.inj hparse
    exact List.mem_filterMap.2 ⟨_, hresult, rfl⟩

end Sql

/-! ## The text that is read -/

/-- What follows the statement in a text: blanks, and one semicolon at most. -/
def afterStatement (q : String) : List Char :=
  (q.toList.dropWhile isBlank).drop (stripTerminator q).length

/-- If the statement ends in a comment up to the end of its line, then the line ends after it. -/
def EndsLine (q : String) : Prop :=
  endsInLine (stripTerminator q).length (stripTerminator q).toList = true →
    (afterStatement q).head?.any isBreak = true

instance (q : String) : Decidable (EndsLine q) := by unfold EndsLine; infer_instance

/-- The characters without one semicolon at their end. -/
def withoutSemicolon (cs : List Char) : List Char :=
  if cs.getLast? = some ';' then cs.dropLast else cs

theorem withoutSemicolon_concat (cs : List Char) : withoutSemicolon (cs ++ [';']) = cs := by
  rw [withoutSemicolon, List.getLast?_concat, if_pos rfl, List.dropLast_concat]

theorem exists_withoutSemicolon_append (cs : List Char) :
    ∃ final, cs = withoutSemicolon cs ++ final ∧ ∀ c ∈ final, c = ';' := by
  unfold withoutSemicolon
  split
  · next hlast =>
    obtain ⟨cs, rfl⟩ := List.getLast?_eq_some_iff.1 hlast
    exact ⟨[';'], by rw [List.dropLast_concat], by simp⟩
  · exact ⟨[], by simp, by simp⟩

theorem toList_stripTerminator (q : String) :
    (stripTerminator q).toList = withoutSemicolon (trimRight (q.toList.dropWhile isBlank)) := by
  unfold stripTerminator
  rw [Text.trim]
  generalize trimRight (q.toList.dropWhile isBlank) = cs
  cases hcs : cs.reverse with
  | nil =>
    rw [List.reverse_eq_nil_iff] at hcs
    rw [hcs]
    rfl
  | cons c rest =>
    obtain rfl : cs = rest.reverse ++ [c] := by
      rw [← List.reverse_cons, ← hcs, List.reverse_reverse]
    by_cases hc : c = ';'
    · subst hc
      rw [withoutSemicolon_concat]
      exact String.toList_ofList
    · rw [withoutSemicolon, List.getLast?_concat, if_neg (by simpa using hc)]
      split
      · next heq => exact absurd (List.cons.inj heq).1 hc
      · rw [String.toList_ofList, List.reverse_cons]

theorem trimRight_concat {c : Char} (hc : isBlank c = false) (cs : List Char) :
    trimRight (cs ++ [c]) = cs ++ [c] := by
  rw [trimRight, List.reverse_concat, List.dropWhile_cons, hc]
  simp

/-- A text is its statement with blanks in front of it and what follows it. -/
theorem append_afterStatement (q : String) :
    q.toList.dropWhile isBlank = (stripTerminator q).toList ++ afterStatement q ∧
      ∀ c ∈ afterStatement q, isBlank c = true ∨ c = ';' := by
  rw [afterStatement, ← String.length_toList, toList_stripTerminator]
  generalize q.toList.dropWhile isBlank = body
  obtain ⟨final, hfinal, hsemi⟩ := exists_withoutSemicolon_append (trimRight body)
  have hsplit : trimRight body ++ (body.reverse.takeWhile isBlank).reverse = body := by
    rw [trimRight, ← List.reverse_append, List.takeWhile_append_dropWhile, List.reverse_reverse]
  have hbody : body = withoutSemicolon (trimRight body) ++
      (final ++ (body.reverse.takeWhile isBlank).reverse) := by
    rw [← List.append_assoc, ← hfinal, hsplit]
  have hafter := congrArg (List.drop (withoutSemicolon (trimRight body)).length) hbody
  rw [List.drop_left] at hafter
  rw [hafter]
  refine ⟨hbody, fun c hc => ?_⟩
  rcases List.mem_append.1 hc with hc | hc
  · exact .inr (hsemi c hc)
  · exact .inl (List.mem_takeWhile_imp (List.mem_reverse.1 hc))

/-- Blanks and semicolons are blanks, or end with blanks after a semicolon. -/
theorem blanks_or_semicolon {w : List Char} (hw : ∀ c ∈ w, isBlank c = true ∨ c = ';') :
    (∀ c ∈ w, isBlank c = true) ∨
      ∃ before blanks, w = before ++ ';' :: blanks ∧ ∀ c ∈ blanks, isBlank c = true := by
  induction w with
  | nil => exact .inl (by simp)
  | cons b w ih =>
    obtain hblank | ⟨before, blanks, rfl, hblanks⟩ :=
      ih fun c hc => hw c (List.mem_cons_of_mem b hc)
    · rcases hw b (by simp) with hb | rfl
      · refine .inl fun c hc => ?_
        rcases List.mem_cons.1 hc with rfl | hc
        · exact hb
        · exact hblank c hc
      · exact .inr ⟨[], w, rfl, hblank⟩
    · exact .inr ⟨b :: before, blanks, rfl, hblanks⟩

/-- Up to the last semicolon a text is kept. -/
theorem withoutSemicolon_trimRight {cs blanks : List Char} (hb : ∀ c ∈ blanks, isBlank c = true) :
    withoutSemicolon (trimRight (cs ++ ';' :: blanks)) = cs := by
  rw [List.append_cons, Text.trimRight_append_blanks hb, trimRight_concat (by decide),
    withoutSemicolon_concat]

/-- Blanks around a query and terminators after it leave its statement, with all of the text after
it and some of the terminators, or without any of this. -/
theorem stripTerminator_pad {u w : String} (hu : ∀ c ∈ u.toList, isBlank c = true)
    (hw : ∀ c ∈ w.toList, isBlank c = true ∨ c = ';') (q : String) :
    ∃ e, stripTerminator (u ++ q ++ w) = String.ofList ((stripTerminator q).toList ++ e) ∧
      (∀ c ∈ e, isBlank c = true ∨ c = ';') ∧ (e = [] ∨ ∃ e', e = afterStatement q ++ e') := by
  obtain ⟨hbody, hafter⟩ := append_afterStatement q
  -- Blanks at the beginning do not matter.
  obtain ⟨w', hsuffix, hstart⟩ : ∃ w', w' <:+ w.toList ∧
      (u ++ q ++ w).toList.dropWhile isBlank = q.toList.dropWhile isBlank ++ w' := by
    rw [String.toList_append, String.toList_append, List.append_assoc,
      List.dropWhile_append_of_pos hu, List.dropWhile_append]
    split
    · next hnil =>
      exact ⟨_, List.dropWhile_suffix _, by rw [List.isEmpty_iff.1 hnil, List.nil_append]⟩
    · exact ⟨_, List.suffix_rfl, rfl⟩
  have hw' : ∀ c ∈ w', isBlank c = true ∨ c = ';' := fun c hc => hw c (hsuffix.mem hc)
  have htext : stripTerminator (u ++ q ++ w) =
      String.ofList (withoutSemicolon (trimRight (q.toList.dropWhile isBlank ++ w'))) := by
    rw [← hstart, ← toList_stripTerminator, String.ofList_toList]
  rw [htext]
  obtain hblank | ⟨before, blanks, rfl, hblanks⟩ := blanks_or_semicolon hw'
  · refine ⟨[], ?_, by simp, .inl rfl⟩
    rw [Text.trimRight_append_blanks hblank, List.append_nil, toList_stripTerminator]
  · refine ⟨afterStatement q ++ before, ?_, fun c hc => ?_, .inr ⟨before, rfl⟩⟩
    · rw [← List.append_assoc, withoutSemicolon_trimRight hblanks, hbody, List.append_assoc]
    · rcases List.mem_append.1 hc with hc | hc
      · exact hafter c hc
      · exact hw' c (List.mem_append_left _ hc)

/-- Two semicolons after a query leave one. -/
theorem stripTerminator_two (q : String) :
    stripTerminator (q ++ ";;") =
      String.ofList ((stripTerminator q).toList ++ (afterStatement q ++ [';'])) := by
  obtain ⟨hbody, -⟩ := append_afterStatement q
  have hstart : (q ++ ";;").toList.dropWhile isBlank =
      q.toList.dropWhile isBlank ++ [';'] ++ [';'] := by
    rw [String.toList_append, List.dropWhile_append]
    split
    · next hnil =>
      rw [List.isEmpty_iff.1 hnil]
      rfl
    · rw [List.append_assoc]
      rfl
  have htext := toList_stripTerminator (q ++ ";;")
  rw [hstart, trimRight_concat (by decide), withoutSemicolon_concat, hbody,
    List.append_assoc] at htext
  rw [← htext, String.ofList_toList]

theorem EndsLine.pad {e : List Char} (h : EndsLine q)
    (he : e = [] ∨ ∃ e', e = afterStatement q ++ e') :
    endsInLine (stripTerminator q).toList.length (stripTerminator q).toList = true →
      e.head?.all isBreak = true := by
  intro hopen
  rw [String.length_toList] at hopen
  have hbreak := h hopen
  generalize afterStatement q = after at hbreak he
  rcases he with rfl | ⟨e', rfl⟩
  · rfl
  · cases after with
    | nil => cases hbreak
    | cons c rest => exact hbreak

/-! ## Answers -/

/-- The error without the text that could not be read. -/
def CompileError.withoutText : CompileError → CompileError
  | unreadable cause _ => unreadable cause ""
  | unformattable dialect cause _ => unformattable dialect cause ""
  | e => e

/-- The message of an error does not show the text. -/
theorem CompileError.message_withoutText (e : CompileError) (detail : String) :
    e.withoutText.message detail = e.message detail := by
  cases e <;> rfl

namespace Compiler

variable (c : Compiler)

/-- The compiled query, or the error without the text that could not be read. -/
def answer (text : String) : Except CompileError Compiled :=
  (c.compile text).mapError CompileError.withoutText

/-- Texts with the same statements have the same answer. -/
theorem answer_eq_of_parse {a b : String}
    (h : Sql.parse standard (stripTerminator a) = Sql.parse standard (stripTerminator b)) :
    c.answer a = c.answer b := by
  have hone : Sql.parseOne standard (stripTerminator a) =
      Sql.parseOne standard (stripTerminator b) := by
    simp only [Sql.parseOne, h]
  unfold answer compile readQuery
  rw [hone]
  cases Sql.parseOne standard (stripTerminator b) with
  | error cause => rfl
  | ok n => rfl

/-- A query after which a comment waits is refused if two semicolons follow it. -/
theorem compile_two_semicolons (hline : EndsLine q)
    (hwaiting : waiting (stripTerminator q).toList ≠ []) (r : Compiled) :
    c.compile (q ++ ";;") ≠ .ok r := by
  intro h
  rw [compile] at h
  obtain ⟨n, hread, -⟩ := Outcome.bind_eq_ok_iff.1 h
  unfold readQuery at hread
  rw [stripTerminator_two] at hread
  cases hone : Sql.parseOne standard
      (String.ofList ((stripTerminator q).toList ++ (afterStatement q ++ [';']))) with
  | error cause =>
    rw [hone] at hread
    cases hread
  | ok m =>
    have hparse : Sql.parse standard
        (String.ofList ((stripTerminator q).toList ++ (afterStatement q ++ [';']))) = some [m] := by
      unfold Sql.parseOne at hone
      split at hone <;> cases hone
      assumption
    have hterminators : ∀ c ∈ afterStatement q ++ [';'], isBlank c = true ∨ c = ';' := by
      intro c hc
      rcases List.mem_append.1 hc with hc | hc
      · exact (append_afterStatement q).2 c hc
      · exact .inr (List.mem_singleton.1 hc)
    -- The semicolon that is left is the statement.
    have hmem := Sql.mem_parse_of_waiting hterminators (hline.pad (.inr ⟨_, rfl⟩)) (by simp)
      hwaiting hparse
    rw [hone, ← List.mem_singleton.1 hmem] at hread
    cases hread

/-- A compiler with one model. -/
def oneModel : Compiler where
  registry := ⟨[{ name := "orders", select := "SELECT 1" }], by decide⟩
  dialect := .duckdb

end Compiler

end SemanticLayer
