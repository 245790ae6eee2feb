import SemanticLayer.Proofs.Arithmetic
import SemanticLayer.Proofs.Fragment
import SemanticLayer.Proofs.Locality

/-!
# The tokens of arithmetic

How the text of an arithmetic expression in Oracle's SQL is cut into tokens. `ReadsSilently` is
`Reads` for texts without comments, so that it gives the tokens as the lexer leaves them. `IsCut`
says that a text has the given tokens wherever it stands, up to a separator, and there is one lemma
for each way in which such a text is put together.
-/

namespace SemanticLayer.Sql

/-! ## Texts without comments -/

namespace Lexer

open SemanticLayer.Text (isBlank isDigit)

variable {g : Grammar} {ts us vs : List Token} {text text' text'' rest k : List Char} {c : Cut}
  {p : Piece} {a b : Char}

/-- No comments were cut off. -/
structure Cut.Silent (c : Cut) : Prop where
  comments : c.comments = []
  tokens : ∀ t ∈ c.tokens, t.comments = []

/-- Cutting goes on as `Reads` says, and no comments are cut off. -/
def ReadsSilently (g : Grammar) (ts : List Token) (text : List Char) (us : List Token)
    (text' : List Char) : Prop :=
  ∀ c : Cut, c.Shows ts text → c.Silent → ∃ n d, Cut.run g n c = some d ∧ d.Shows us text' ∧
    d.Silent ∧ n + text'.length ≤ text.length

theorem ReadsSilently.trans (h : ReadsSilently g ts text us text')
    (h' : ReadsSilently g us text' vs text'') : ReadsSilently g ts text vs text'' := by
  intro c hc hs
  obtain ⟨n, d, hn, hd, hsd, hlength⟩ := h c hc hs
  obtain ⟨m, e, hm, he, hse, hlength'⟩ := h' d hd hsd
  exact ⟨n + m, e, by rw [Cut.run_add, hn]; exact hm, he, hse, by omega⟩

/-- A piece that is a word or another token is cut off. -/
theorem readsSilently_piece {t : Token} (hp : piece? g a text = some (p, rest))
    (hlength : rest.length ≤ text.length) (ht : ∀ last, p.token? g last = some t)
    (hcomment : ∀ s, p ≠ .hint s) (hplain : Cut.plainStatements.contains t.key = false) :
    ReadsSilently g ts (a :: text) (ts ++ [t]) rest := by
  intro c hc hs
  have hbegins : ∀ u ∈ p.token? g (lastKey ts), beginsPlain (lastKey ts) u = false := by
    intro u hu
    obtain rfl := Option.some.inj ((ht _).symm.trans hu)
    rw [beginsPlain, hplain, Bool.and_false]
  have hadd : (c.add g p rest).Shows (ts ++ [t]) rest := by
    have h := @Cut.Shows.add _ _ _ _ _ rest hc hbegins
    rwa [ht, Option.toList_some] at h
  refine ⟨1, c.add g p rest, ?_, hadd, ?_, by rw [List.length_cons]; omega⟩
  · rw [Cut.run, if_neg (by simp [hc.rest]), Cut.step, hc.rest]
    simp [hp, Cut.run]
  · have hpush (kind : TokenKind) (s key : String) : (c.push kind s key rest).Silent :=
      ⟨rfl, by
        intro u hu
        obtain rfl | hu := List.mem_cons.mp hu
        · exact hs.comments
        · exact hs.tokens u hu⟩
    cases p with
    | blank breaks => cases ht none
    | comment s => cases ht none
    | hint s => exact absurd rfl (hcomment s)
    | word s =>
      have hword := hpush .word s (g.keyword (Text.upper s))
      dsimp only [Cut.add, Cut.word]
      split
      · exact ⟨hword.comments, hword.tokens⟩
      · exact hword
    | token kind s key =>
      rw [Cut.add, hc.endPlain, ite_self]
      exact hpush ..

theorem readsSilently_blank : ReadsSilently g ts (' ' :: k) ts k := by
  intro c hc hs
  refine ⟨1, c.add g (.blank false) k, ?_, ?_, ⟨hs.comments, hs.tokens⟩, by simp; omega⟩
  · rw [Cut.run, if_neg (by simp [hc.rest]), Cut.step, hc.rest]
    rfl
  · exact ⟨rfl, hc.tokens, hc.plain⟩

/-- The tokens of a text without comments. -/
theorem tokenize_of_readsSilently {s : String} (h : ReadsSilently g [] s.toList ts []) :
    tokenize g s = some ts := by
  obtain ⟨n, d, hn, hd, hs, hlength⟩ := h { rest := s.toList } ⟨rfl, rfl, rfl⟩ ⟨rfl, by simp⟩
  obtain ⟨m, hm⟩ := Nat.le.dest (Nat.le_of_add_right_le hlength)
  have hrun : Cut.run g s.toList.length { rest := s.toList } = some d := by
    rw [← hm, Cut.run_add, hn]
    cases m with
    | zero => rfl
    | succ m => rw [Option.bind_some, Cut.run, if_pos (by simp [hd.rest])]
  have hbare : d.tokens.reverse.map Token.bare = d.tokens.reverse := by
    have hid : ∀ t ∈ d.tokens.reverse, Token.bare t = id t := by
      intro t ht
      rw [Token.bare, id, ← hs.tokens t (by simpa using ht)]
    rw [List.map_congr_left hid, List.map_id]
  rw [tokenize, hrun, Option.map_some, Cut.finish, hd.endPlain, hs.comments, ← hd.tokens, hbare]
  cases htokens : d.tokens with
  | nil => rfl
  | cons t ts' => simp [Token.addComments]

/-! ## Marks, words and numbers of Oracle -/

/-- No operator of several marks begins with the two characters. -/
theorem operator_none {x : Char} (h : ∀ o ∈ Grammar.oracle.operators, o.toList.take 2 ≠ [a, x]) :
    (Grammar.oracle.operators.find? fun o => o.toList.isPrefixOf (a :: x :: k)) = none := by
  have hlong : ∀ o ∈ Grammar.oracle.operators, 2 ≤ o.toList.length := by decide
  refine List.find?_eq_none.mpr fun o ho hprefix => h o ho ?_
  obtain ⟨rest, hrest⟩ := List.isPrefixOf_iff_prefix.mp hprefix
  have htake : (o.toList ++ rest).take 2 = o.toList.take 2 :=
    List.take_append_of_le_length (hlong o ho)
  rw [← htake, hrest]
  rfl

theorem piece?_open {x : Char} (hx : x ≠ '+') :
    piece? .oracle '(' (x :: k) = some (symbol "(", x :: k) := by
  have hpairs : ∀ o ∈ Grammar.oracle.operators, o.toList.take 1 = ['('] →
      o.toList.take 2 = ['(', '+'] := by decide
  have hnone := operator_none (a := '(') (x := x) (k := k) fun o ho htake => by
    have hfirst : o.toList.take 1 = ['('] := by
      have := congrArg (List.take 1) htake
      simpa [List.take_take] using this
    have := (hpairs o ho hfirst).symm.trans htake
    simp only [List.cons.injEq, and_true, true_and] at this
    exact hx this.symm
  change marked? .oracle '(' (x :: k) = _
  rw [marked?, hnone]
  rfl

theorem piece?_minus {x : Char} (hx : x ∉ ['-', '>', '|', '%', '\x7d']) :
    piece? .oracle '-' (x :: k) = some (symbol "-", x :: k) := by
  have hpairs : ∀ o ∈ Grammar.oracle.operators, o.toList.take 1 = ['-'] →
      (['-', '>', '|', '%', '\x7d'].any fun y => o.toList.take 2 = ['-', y]) = true := by decide
  have hnone := operator_none (a := '-') (x := x) (k := k) fun o ho htake => by
    have hfirst : o.toList.take 1 = ['-'] := by
      have := congrArg (List.take 1) htake
      simpa [List.take_take] using this
    obtain ⟨y, hy, htwo⟩ := List.any_iff_exists_prop.1 (hpairs o ho hfirst)
    have := htwo.symm.trans htake
    simp only [List.cons.injEq, and_true, true_and] at this
    exact hx (this ▸ hy)
  have hline : ['-', '-'].isPrefixOf ('-' :: x :: k) = false := by
    have : x ≠ '-' := fun he => hx (by simp [he])
    simp [List.isPrefixOf, this.symm]
  have hmarked : piece? .oracle '-' (x :: k) = marked? .oracle '-' (x :: k) := by
    unfold piece?
    rw [hline]
    rfl
  rw [hmarked, marked?, hnone]
  rfl

/-- A numeral ends where a separator follows. -/
theorem number_stop {point : Bool} {exponent : Nat} {xs : List Char} (hb : isSeparator b = true)
    (h : (number .oracle point exponent xs).2 = []) :
    number .oracle point exponent (xs ++ b :: k) = (xs, b :: k) := by
  obtain ⟨hdigit, hmarks, -⟩ := separator_apart b hb
  induction xs generalizing point exponent with
  | nil =>
    simp only [List.mem_cons, List.not_mem_nil, or_false, not_or] at hmarks
    simp [number, hdigit, hmarks]
  | cons x xs ih =>
    have hany : (xs ++ b :: k).head?.any isDigit = xs.head?.any isDigit := by
      cases xs <;> simp [hdigit]
    rw [List.cons_append]
    simp only [number, hany] at h ⊢
    split_ifs at h ⊢ <;> rw [ih h]

theorem piece?_number {s : String} (hs : Parser.isNumeral s = true) (hb : isSeparator b = true) :
    ∃ a cs, s.toList = a :: cs ∧ isDigit a = true ∧
      piece? .oracle a (cs ++ b :: k) = some (.token .number s "", b :: k) := by
  rw [Parser.isNumeral, Bool.and_eq_true] at hs
  cases hcs : s.toList with
  | nil => simp [hcs] at hs
  | cons a cs =>
    obtain ⟨hdigit, hnumber⟩ : isDigit a = true ∧ (number .oracle false 0 (a :: cs)).2 = [] := by
      simpa [hcs] using hs
    refine ⟨a, cs, rfl, hdigit, ?_⟩
    have hblank : isBlank a = false := by
      by_contra hblank
      have happart := separator_apart a (by simp [isSeparator, Bool.not_eq_false _ ▸ hblank])
      exact absurd hdigit (by simp [happart.1])
    -- After a zero stand no letters that begin digits in another base.
    have hbase : (a == '0' && (cs ++ b :: k).head?.any ['b', 'B', 'x', 'X'].contains) = false := by
      by_contra hbase
      simp only [Bool.not_eq_false, Bool.and_eq_true, beq_iff_eq] at hbase
      obtain ⟨rfl, hany⟩ := hbase
      have hletters : ∀ x ∈ ['b', 'B', 'x', 'X'], isSeparator x = false ∧ isDigit x = false ∧
          x ∉ ['.', '-', '+', 'e', 'E', '_'] :=
        List.all_iff_forall_prop.1 (by decide)
      cases cs with
      | nil =>
        have hsep := hletters b (by simpa using hany)
        exact absurd hb (by simp [hsep.1])
      | cons x cs =>
        obtain ⟨-, hx, hmarks⟩ := hletters x (by simpa using hany)
        simp only [List.mem_cons, List.not_mem_nil, or_false, not_or] at hmarks
        simp [number, hdigit, hx, hmarks] at hnumber
    have hstop := number_stop (k := k) hb hnumber
    rw [List.cons_append] at hstop
    rw [piece?, hblank, if_neg Bool.false_ne_true, if_pos hdigit, numeral, hstop]
    dsimp only
    rw [hbase, show Grammar.oracle.digitNames = false from rfl, Bool.false_and,
      if_neg Bool.false_ne_true, if_neg Bool.false_ne_true, ← hcs, String.ofList_toList]

/-- A name in quotes, up to a separator. -/
theorem piece?_name (name : String) (hb : isSeparator b = true) :
    piece? .oracle '\x22' ((Text.doubled '\x22' name).toList ++ '\x22' :: b :: k) =
      some (.token .quotedName name "", b :: k) := by
  have hq : QuotesNames .oracle '\x22' := ⟨by decide, by decide, by decide, by decide, by decide⟩
  have hstop : (b :: k).head? ≠ some '\x22' := by
    obtain ⟨-, -, -, hquote⟩ := separator_apart b hb
    rintro ⟨⟩
    exact hquote (by decide)
  have hname : Grammar.oracle.backslashEscapes = true → hasEscape name.toList = false :=
    fun h => absurd h (by decide)
  have hquoted := quoted?_doubled hq hname hstop
  rw [piece?, if_neg (by decide), if_neg (by decide), if_pos (by decide), quotedPiece?,
    Text.doubled, String.toList_ofList, hquoted]
  simp

theorem piece?_close : piece? .oracle ')' k = some (symbol ")", k) := rfl

theorem piece?_comma : piece? .oracle ',' k = some (symbol ",", k) := rfl

end Lexer

namespace Parser

open Lexer (ReadsSilently isSeparator)

variable {s : String} {ts us vs : List Token} {k : List Char}

/-! ## Texts of arithmetic -/

/-- A mark as it is written. -/
def markToken (s : String) : Token := { kind := .symbol, text := s, key := s }

/-- A word in upper case. -/
def wordToken (s : String) : Token := { kind := .word, text := s, key := s }

/-- The characters with which no operand begins, because they go on with a mark before them. -/
def notFirst : List Char := ['+', '>', '|', '%', '\x7d', '\n']

/-- The tokens of a text are the given ones, whatever stands before it, up to a separator. -/
structure IsCut (s : String) (us : List Token) : Prop where
  comments : ∀ u ∈ us, u.comments = []
  begins : ∃ x xs, s.toList = x :: xs ∧ x ∉ notFirst
  reads : ∀ {ts : List Token} {b : Char} {k : List Char}, isSeparator b = true →
    ReadsSilently .oracle ts (s.toList ++ b :: k) (ts ++ us) (b :: k)

theorem reads_mark {c : Char} {text : List Char} (h : Lexer.piece? .oracle c text =
      some (.token .symbol s s, text)) (hs : Lexer.Cut.plainStatements.contains s = false) :
    ReadsSilently .oracle ts (c :: text) (ts ++ [markToken s]) text :=
  Lexer.readsSilently_piece h (Nat.le_refl _) (fun _ => rfl) (by simp) hs

/-- A word before something else. -/
theorem reads_word {c : Char} {cs : List Char} (htext : s.toList = c :: cs)
    (h : Lexer.piece? .oracle c (cs ++ k) = some (.word s, k))
    (hkey : Grammar.oracle.keyword (Text.upper s) = s)
    (hs : Lexer.Cut.plainStatements.contains s = false) :
    ReadsSilently .oracle ts (s.toList ++ k) (ts ++ [wordToken s]) k := by
  rw [htext]
  refine Lexer.readsSilently_piece h (by simp) (fun _ => ?_) (by simp) hs
  rw [Lexer.Piece.token?, hkey]
  rfl

/-- A text after a minus sign; two minus signs are kept apart. -/
def negated (s : String) : String := if s.toList.head? = some '-' then "- " ++ s else "-" ++ s

namespace IsCut

theorem number (hs : isNumeral s = true) :
    IsCut s [{ kind := .number, text := s, key := "" }] := by
  refine ⟨by simp, ?_, fun {ts b k} hb => ?_⟩
  · obtain ⟨c, cs, hcs, hdigit, -⟩ := Lexer.piece?_number (b := ' ') (k := []) hs (by decide)
    refine ⟨c, cs, hcs, fun hmem => ?_⟩
    have hmarks : ∀ c ∈ notFirst, Text.isDigit c = false :=
      List.all_iff_forall_prop.1 (by decide)
    exact absurd hdigit (by simp [hmarks c hmem])
  · obtain ⟨c, cs, hcs, -, hpiece⟩ := Lexer.piece?_number (k := k) hs hb
    rw [hcs]
    exact Lexer.readsSilently_piece hpiece (by simp) (fun _ => rfl) (by simp) rfl

theorem name (name : String) :
    IsCut (Text.quoted '\x22' name) [{ kind := .quotedName, text := name, key := "" }] := by
  have htext : (Text.quoted '\x22' name).toList =
      '\x22' :: ((Text.doubled '\x22' name).toList ++ ['\x22']) := by
    simp [Text.quoted]
  refine ⟨by simp, ⟨'\x22', _, htext, by decide⟩, fun {ts b k} hb => ?_⟩
  rw [htext, List.cons_append, List.append_assoc, List.singleton_append]
  refine Lexer.readsSilently_piece (Lexer.piece?_name name hb) ?_ (fun _ => rfl) (by simp) rfl
  simp only [List.length_append, List.length_cons]
  omega

/-- An opening parenthesis before a text. -/
theorem reads_open (h : IsCut s us) :
    ReadsSilently .oracle ts ('(' :: (s.toList ++ k)) (ts ++ [markToken "("]) (s.toList ++ k) := by
  obtain ⟨x, xs, hxs, hx⟩ := h.begins
  refine reads_mark ?_ rfl
  rw [hxs]
  exact Lexer.piece?_open fun he => hx (by simp [he, notFirst])

theorem paren (h : IsCut s us) :
    IsCut ("(" ++ s ++ ")") (markToken "(" :: (us ++ [markToken ")"])) := by
  refine ⟨?_, ⟨'(', s.toList ++ [')'], by simp, by decide⟩, fun {ts b k} hb => ?_⟩
  · simp only [List.forall_mem_cons, List.forall_mem_append]
    exact ⟨rfl, h.comments, rfl, by simp⟩
  · have htext : ("(" ++ s ++ ")").toList ++ b :: k = '(' :: (s.toList ++ ')' :: b :: k) := by simp
    have htokens : ts ++ markToken "(" :: (us ++ [markToken ")"]) =
      ts ++ [markToken "("] ++ us ++ [markToken ")"] := by simp
    rw [htext, htokens]
    exact (h.reads_open.trans (h.reads (by decide))).trans (reads_mark Lexer.piece?_close rfl)

theorem minus (h : IsCut s us) : IsCut (negated s) (markToken "-" :: us) := by
  obtain ⟨x, xs, hxs, hx⟩ := h.begins
  refine ⟨List.forall_mem_cons.mpr ⟨rfl, h.comments⟩, ?_, fun {ts b k} hb => ?_⟩
  · unfold negated
    split
    · exact ⟨'-', ' ' :: s.toList, by simp, by decide⟩
    · exact ⟨'-', s.toList, by simp, by decide⟩
  · have htokens : ts ++ markToken "-" :: us = ts ++ [markToken "-"] ++ us := by simp
    rw [htokens]
    unfold negated
    split
    · have htext : ("- " ++ s).toList ++ b :: k = '-' :: ' ' :: (s.toList ++ b :: k) := by simp
      rw [htext]
      exact ((reads_mark (Lexer.piece?_minus (by decide)) rfl).trans
        Lexer.readsSilently_blank).trans (h.reads hb)
    · next hminus =>
      have htext : ("-" ++ s).toList ++ b :: k = '-' :: (s.toList ++ b :: k) := by simp
      rw [htext]
      refine .trans (reads_mark ?_ rfl) (h.reads hb)
      rw [hxs]
      refine Lexer.piece?_minus fun hmem => ?_
      simp only [hxs, List.head?_cons, Option.some.injEq] at hminus
      simp only [notFirst, List.mem_cons, List.not_mem_nil, or_false, not_or] at hx hmem
      tauto

/-- Two operands with a mark between them. -/
theorem factor {v : String} (h : IsCut s us) (hv : IsCut v vs) {mark : String}
    (hm : mark ∈ ["*", "/"]) :
    IsCut (s ++ " " ++ mark ++ " " ++ v) (us ++ markToken mark :: vs) := by
  obtain ⟨x, xs, hxs, hx⟩ := h.begins
  refine ⟨?_, ⟨x, xs ++ (" " ++ mark ++ " " ++ v).toList, by simp [hxs], hx⟩,
    fun {ts b k} hb => ?_⟩
  · simp only [List.forall_mem_cons, List.forall_mem_append]
    exact ⟨h.comments, rfl, hv.comments⟩
  have htext : (s ++ " " ++ mark ++ " " ++ v).toList ++ b :: k =
    s.toList ++ ' ' :: (mark.toList ++ ' ' :: (v.toList ++ b :: k)) := by simp
  have htokens : ts ++ (us ++ markToken mark :: vs) =
    ts ++ us ++ [markToken mark] ++ vs := by simp
  rw [htext, htokens]
  refine .trans (.trans (.trans (h.reads (by decide)) Lexer.readsSilently_blank) ?_) (hv.reads hb)
  simp only [List.mem_cons, List.not_mem_nil, or_false] at hm
  obtain rfl | rfl := hm
  · exact (reads_mark rfl rfl).trans Lexer.readsSilently_blank
  · exact (reads_mark rfl rfl).trans Lexer.readsSilently_blank

/-- Two arguments. -/
theorem comma {v : String} (h : IsCut s us) (hv : IsCut v vs) :
    IsCut (s ++ ", " ++ v) (us ++ markToken "," :: vs) := by
  obtain ⟨x, xs, hxs, hx⟩ := h.begins
  refine ⟨?_, ⟨x, xs ++ (", " ++ v).toList, by simp [hxs], hx⟩, fun {ts b k} hb => ?_⟩
  · simp only [List.forall_mem_cons, List.forall_mem_append]
    exact ⟨h.comments, rfl, hv.comments⟩
  · have htext : (s ++ ", " ++ v).toList ++ b :: k =
      s.toList ++ ',' :: ' ' :: (v.toList ++ b :: k) := by simp
    have htokens : ts ++ (us ++ markToken "," :: vs) = ts ++ us ++ [markToken ","] ++ vs := by simp
    rw [htext, htokens]
    exact (((h.reads (by decide)).trans (reads_mark Lexer.piece?_comma rfl)).trans
      Lexer.readsSilently_blank).trans (hv.reads hb)

/-- The word of a function before the parenthesis of its call. -/
theorem reads_function {word : String} (hw : word ∈ arithmeticCalls) :
    ReadsSilently .oracle ts (word.toList ++ '(' :: k) (ts ++ [wordToken word]) ('(' :: k) := by
  simp only [arithmeticCalls, List.mem_cons, List.not_mem_nil, or_false] at hw
  obtain rfl | rfl | rfl := hw <;> exact reads_word rfl rfl (by decide) rfl

/-- A call ends with its parenthesis, whatever follows. -/
theorem reads_call (h : IsCut s us) {word : String} (hw : word ∈ arithmeticCalls) :
    ReadsSilently .oracle ts ((word ++ "(" ++ s ++ ")").toList ++ k)
      (ts ++ wordToken word :: markToken "(" :: (us ++ [markToken ")"])) k := by
  have htext : (word ++ "(" ++ s ++ ")").toList ++ k =
    word.toList ++ '(' :: (s.toList ++ ')' :: k) := by simp
  have htokens : ts ++ wordToken word :: markToken "(" :: (us ++ [markToken ")"]) =
    ts ++ [wordToken word] ++ [markToken "("] ++ us ++ [markToken ")"] := by simp
  rw [htext, htokens]
  exact (((reads_function hw).trans h.reads_open).trans (h.reads (by decide))).trans
    (reads_mark Lexer.piece?_close rfl)

theorem comments_call (h : IsCut s us) {word : String} :
    ∀ u ∈ wordToken word :: markToken "(" :: (us ++ [markToken ")"]), u.comments = [] := by
  simp only [List.forall_mem_cons, List.forall_mem_append]
  exact ⟨rfl, rfl, h.comments, rfl, by simp⟩

theorem call (h : IsCut s us) {word : String} (hw : word ∈ arithmeticCalls) :
    IsCut (word ++ "(" ++ s ++ ")")
      (wordToken word :: markToken "(" :: (us ++ [markToken ")"])) := by
  refine ⟨h.comments_call, ?_, fun _ => h.reads_call hw⟩
  have hbegins : ∀ word ∈ arithmeticCalls, (word.toList.head?.any (· ∉ notFirst)) = true := by
    decide
  obtain ⟨x, hx, hnot⟩ := Option.any_eq_true _ _ |>.1 (hbegins word hw)
  obtain ⟨xs, hxs⟩ := List.head?_eq_some_iff.mp hx
  exact ⟨x, xs ++ ("(" ++ s ++ ")").toList, by simp [hxs], of_decide_eq_true hnot⟩

/-- A part of a date and the date. -/
theorem dated (h : IsCut s us) {part : String} (hp : part ∈ dateParts) :
    IsCut (part ++ " FROM " ++ s) (wordToken part :: wordToken "FROM" :: us) := by
  refine ⟨?_, ?_, fun {ts b k} hb => ?_⟩
  · simp only [List.forall_mem_cons]
    exact ⟨rfl, rfl, h.comments⟩
  · have hbegins : ∀ part ∈ dateParts, (part.toList.head?.any (· ∉ notFirst)) = true := by decide
    obtain ⟨x, hx, hnot⟩ := Option.any_eq_true _ _ |>.1 (hbegins part hp)
    obtain ⟨xs, hxs⟩ := List.head?_eq_some_iff.mp hx
    exact ⟨x, xs ++ (" FROM " ++ s).toList, by simp [hxs], of_decide_eq_true hnot⟩
  · have htext : (part ++ " FROM " ++ s).toList ++ b :: k =
      part.toList ++ ' ' :: ("FROM".toList ++ ' ' :: (s.toList ++ b :: k)) := by simp
    have htokens : ts ++ wordToken part :: wordToken "FROM" :: us =
      ts ++ [wordToken part] ++ [wordToken "FROM"] ++ us := by simp
    have hpart (k : List Char) :
        ReadsSilently .oracle ts (part.toList ++ ' ' :: k) (ts ++ [wordToken part]) (' ' :: k) := by
      simp only [dateParts, List.mem_cons, List.not_mem_nil, or_false] at hp
      obtain rfl | rfl | rfl | rfl | rfl | rfl | rfl | rfl | rfl | rfl := hp <;>
        exact reads_word rfl rfl (by decide) rfl
    have hfrom {ts : List Token} (k : List Char) : ReadsSilently .oracle ts
        ("FROM".toList ++ ' ' :: k) (ts ++ [wordToken "FROM"]) (' ' :: k) :=
      reads_word rfl rfl (by decide) rfl
    rw [htext, htokens]
    exact ((((hpart _).trans Lexer.readsSilently_blank).trans (hfrom _)).trans
      Lexer.readsSilently_blank).trans (h.reads hb)

theorem unit : IsCut "'DD'" [{ kind := .string, text := "DD", key := "" }] := by
  refine ⟨by simp, ⟨'\x27', "DD'".toList, rfl, by decide⟩, fun {ts b k} hb => ?_⟩
  have hne : b ≠ '\x27' := by
    obtain ⟨-, -, -, hquote⟩ := Lexer.separator_apart b hb
    rintro rfl
    exact hquote (by decide)
  have hquoted : Lexer.quoted? (Lexer.stringQuoting .oracle '\x27') ('D' :: 'D' :: '\x27' :: b :: k) =
      some (['D', 'D'], b :: k) := by
    have hquoting : Lexer.stringQuoting .oracle '\x27' =
      { close := '\x27', escapes := ['\x27'], quotes := ['\x27'], backslash := false } := rfl
    rw [hquoting]
    simp [Lexer.quoted?, hne]
  have hpiece : Lexer.piece? .oracle '\x27' ('D' :: 'D' :: '\x27' :: b :: k) =
      some (.token .string "DD" "", b :: k) := by
    rw [Lexer.piece?, if_neg (by decide), if_neg (by decide), if_neg (by decide),
      if_pos (by decide), Lexer.quotedPiece?, hquoted]
    rfl
  exact Lexer.readsSilently_piece hpiece (by simp) (fun _ => rfl) (by simp) rfl

end IsCut

end Parser

end SemanticLayer.Sql
