import SemanticLayer.Proofs.Cuts
import SemanticLayer.Proofs.Trimming
import SemanticLayer.Schema.Source

/-!
# What cleaning a statement keeps

`cleanSelect` takes comments out of a statement by their marks alone, without a look at quotes. So
two hyphens in a string are taken for a comment (`cleanSelect_cuts_string`).

A text is *tidy* if the marks stand only where the reader of SQL finds comments too, and if no token
goes on, and no keyword of several words is made or broken, where a comment is taken out
(`Cleaning.tidy`). A tidy statement has the same tokens after cleaning, without one semicolon at the
end (`cleanSelect_keeps_tokens`).

The proof walks over the pieces of the statement. `tidyFrom_cuts` says that the rest of a tidy text
is read as the pieces of the same rest without comments: a piece that is no comment is cut off the
cleaned text too (`piece?_local`), and a comment leaves nothing.
-/

namespace SemanticLayer.Cleaning

open SemanticLayer.Text (isBlank)
open SemanticLayer.Sql (Token)
open SemanticLayer.Sql.Lexer
open SemanticLayer.Sql.Grammar (standard)

variable {x y : Char} {src rest cs t text : List Char}

/-! ## Text without marks of comments -/

/-- The text without comments, as `dropComments` gives it. -/
def plainText (cs : List Char) : List Char := dropBlockComments (dropLineComments false cs)

/-- Whether `x` stands before `y`. -/
def hasPair (x y : Char) : List Char → Bool
  | c :: d :: cs => (c == x && d == y) || hasPair x y (d :: cs)
  | _ => false

/-- Whether `x` stands before `y` in a text before `rest`, or at the end of it. -/
def opensIn (x y : Char) (src rest : List Char) : Bool :=
  hasPair x y src || (src.getLast? == some x && rest.head? == some y)

/-- The first character of a text with a mark further on. -/
theorem opensIn_cons {c : Char} (h : opensIn x y (c :: src) rest = false) :
    (c = x → (src ++ rest).head? ≠ some y) ∧ opensIn x y src rest = false := by
  cases src with
  | nil => simpa [opensIn, hasPair] using h
  | cons d src =>
    simp only [opensIn, hasPair, List.getLast?_cons_cons, Bool.or_eq_false_iff] at h ⊢
    obtain ⟨⟨hpair, hsrc⟩, hlast⟩ := h
    exact ⟨by simpa using hpair, hsrc, hlast⟩

theorem opensIn_of_head? (h : opensIn x y src rest = false)
    (hhead : t.head? = rest.head? ∨ t.head? ≠ some y) : opensIn x y src t = false := by
  simp only [opensIn, Bool.or_eq_false_iff, Bool.and_eq_false_iff] at h ⊢
  obtain heq | hne := hhead
  · rwa [heq]
  · exact ⟨h.1, .inr (by simpa using hne)⟩

theorem dropLineComments_cons {c : Char} (h : c = '-' → cs.head? ≠ some '-') :
    dropLineComments false (c :: cs) = c :: dropLineComments false cs := by
  rw [dropLineComments]
  rintro cs' rfl rfl
  exact h rfl rfl

theorem dropLineComments_append (h : opensIn '-' '-' src rest = false) :
    dropLineComments false (src ++ rest) = src ++ dropLineComments false rest := by
  induction src with
  | nil => rfl
  | cons c src ih =>
    obtain ⟨hfirst, hsrc⟩ := opensIn_cons h
    rw [List.cons_append, dropLineComments_cons hfirst, ih hsrc, List.cons_append]

/-- A line comment is taken out up to the line feed. -/
theorem dropLineComments_true :
    dropLineComments true cs = dropLineComments false (cs.dropWhile (· != '\n')) := by
  induction cs with
  | nil => rfl
  | cons c cs ih =>
    rw [dropLineComments, List.dropWhile_cons]
    by_cases hc : c = '\n'
    · subst hc
      rw [if_pos (by decide), if_neg (by decide),
        dropLineComments_cons fun h => absurd h (by decide)]
    · rw [if_neg (by simpa using hc), if_pos (by simpa using hc), ih]

/-- Without its line comments a text begins as before, or with a line feed. -/
theorem head?_dropLineComments (cs : List Char) :
    (dropLineComments false cs).head? = cs.head? ∨
      ∀ c ∈ (dropLineComments false cs).head?, c = '\n' := by
  cases cs with
  | nil => exact .inl rfl
  | cons c cs =>
    by_cases hc : c = '-' ∧ cs.head? = some '-'
    · obtain ⟨rfl, hhead⟩ := hc
      obtain ⟨cs, rfl⟩ : ∃ tail, cs = '-' :: tail := List.head?_eq_some_iff.1 hhead
      refine .inr fun c hc => ?_
      rw [dropLineComments, dropLineComments_true] at hc
      generalize hrest : cs.dropWhile (· != '\n') = rest at hc
      cases rest with
      | nil => cases hc
      | cons d rest =>
        have hd := List.head?_dropWhile_not (· != '\n') cs
        rw [hrest] at hd
        obtain rfl : d = '\n' := by simpa using hd
        rw [dropLineComments_cons fun h => absurd h (by decide)] at hc
        exact (Option.some.inj hc).symm
    · rw [dropLineComments_cons fun h hhead => hc ⟨h, hhead⟩]
      exact .inl rfl

theorem dropBlockComments_cons {c : Char} (h : c = '/' → cs.head? ≠ some '*') :
    dropBlockComments (c :: cs) = c :: dropBlockComments cs := by
  rw [dropBlockComments]
  rintro cs' rfl rfl
  exact h rfl rfl

theorem dropBlockComments_append (h : opensIn '/' '*' src rest = false) :
    dropBlockComments (src ++ rest) = src ++ dropBlockComments rest := by
  induction src with
  | nil => rfl
  | cons c src ih =>
    obtain ⟨hfirst, hsrc⟩ := opensIn_cons h
    rw [List.cons_append, dropBlockComments_cons hfirst, ih hsrc, List.cons_append]

theorem afterComment?_append (h : afterComment? cs = some rest) :
    afterComment? (cs ++ t) = some (rest ++ t) := by
  fun_induction afterComment? cs with
  | case1 => cases h
  | case2 cs =>
    obtain rfl := Option.some.inj h
    rfl
  | case3 c cs hc ih =>
    rw [List.cons_append, afterComment?, ih h]
    rintro cs' rfl hcs'
    cases cs with
    | nil => cases h
    | cons d cs =>
      obtain ⟨rfl, -⟩ := List.cons.inj hcs'
      exact hc cs rfl rfl

theorem plainText_nil : plainText [] = [] := by
  rw [plainText, dropLineComments, dropBlockComments]

/-- Text without marks of comments stays. -/
theorem plainText_append (hline : opensIn '-' '-' src rest = false)
    (hblock : opensIn '/' '*' src rest = false) :
    plainText (src ++ rest) = src ++ plainText rest := by
  unfold plainText
  rw [dropLineComments_append hline]
  refine dropBlockComments_append (opensIn_of_head? hblock ?_)
  refine (head?_dropLineComments rest).imp_right fun hbreak hstar => ?_
  have hchar := hbreak '*' hstar
  exact absurd hchar (by decide)

/-- A block comment without a mark in it leaves nothing. -/
theorem plainText_block (hclosed : afterComment? src = some [])
    (hline : opensIn '-' '-' ('/' :: '*' :: src) rest = false) :
    plainText ('/' :: '*' :: src ++ rest) = plainText rest := by
  unfold plainText
  rw [dropLineComments_append hline, List.cons_append, List.cons_append, dropBlockComments]
  have hafter : afterComment? (src ++ dropLineComments false rest) =
      some (dropLineComments false rest) := afterComment?_append hclosed
  split
  · next rest' hrest' =>
    rw [hafter] at hrest'
    rw [Option.some.inj hrest']
  · next hnone =>
    rw [hafter] at hnone
    cases hnone

/-- A line comment leaves the line feed after it. -/
theorem plainText_line : plainText ('-' :: '-' :: cs) = plainText (cs.dropWhile (· != '\n')) := by
  unfold plainText
  rw [dropLineComments, dropLineComments_true]

/-! ## Tidy texts -/

/-- What a piece takes of the text, before the rest that it leaves. -/
def source (text rest : List Char) : List Char := text.take (text.length - rest.length)

/-- Whether a text is one block comment without a mark in it. -/
def isBlock (src rest : List Char) : Bool :=
  ['/', '*'].isPrefixOf src && afterComment? (src.drop 2) == some [] && !opensIn '-' '-' src rest

/-- Whether the keyword of several words at the beginning of a text is the same without comments. -/
def keepsPhrase (text : List Char) : Bool :=
  phrase? standard (plainText text) ==
    (phrase? standard text).map fun found => (found.1, plainText found.2)

/-- Whether the rest of a text is tidy, after a token with the key `last`. `joined` tells whether
the piece before the rest could go on in it. -/
def tidyFrom : Nat → (last : Option String) → (joined : Bool) → List Char → Bool
  | _, _, _, [] => true
  | 0, _, _, _ :: _ => false
  | n + 1, last, joined, a :: cs =>
    match piece? standard a cs with
    | none => false
    | some (p, rest) =>
      if p.isComment then
        (p.token? standard last).isNone &&
          if ['-', '-'].isPrefixOf (a :: cs) then
            -- Any break ends a comment for the reader, a line feed alone does for the cleaning.
            (rest.takeWhile (· != '\n')).all isBlank &&
              tidyFrom n last joined (rest.dropWhile (· != '\n'))
          else
            isBlock (source (a :: cs) rest) rest &&
              (!joined || (plainText rest).head?.all isSeparator) && tidyFrom n last joined rest
      else
        !opensIn '-' '-' (source (a :: cs) rest) rest &&
          !opensIn '/' '*' (source (a :: cs) rest) rest && keepsPhrase (a :: cs) &&
          (p.token? standard last).all (fun t => !beginsPlain last t) &&
          tidyFrom n (((p.token? standard last).map Token.key).or last) (!isSeparator a) rest

/-- Whether the marks of comments stand only where comments are read, and nothing grows together
where one is taken out. No statement is one that is kept as plain text. -/
def tidy (s : String) : Bool := tidyFrom s.toList.length none false s.toList

theorem append_source {a : Char} {p : Piece} (h : piece? standard a cs = some (p, rest)) :
    ∃ xs, cs = xs ++ rest ∧ source (a :: cs) rest = a :: xs := by
  obtain ⟨xs, rfl⟩ := piece?_suffix_tail h
  refine ⟨xs, rfl, ?_⟩
  have hlength : (a :: (xs ++ rest)).length - rest.length = (a :: xs).length := by
    simp only [List.length_cons, List.length_append]
    omega
  rw [source, hlength, ← List.cons_append, List.take_left]

/-- Blanks are read as no tokens. -/
theorem reads_blanks {ts : List Token} {blanks : List Char}
    (h : ∀ c ∈ blanks, isBlank c = true) : Reads standard ts (blanks ++ rest) ts rest := by
  induction blanks with
  | nil => exact fun c hc => ⟨0, c, rfl, hc, by simp⟩
  | cons b blanks ih =>
    have hpiece :
        piece? standard b (blanks ++ rest) = some (.blank (isBreak b), blanks ++ rest) := by
      rw [piece?, if_pos (h b (by simp))]
    have hread : Reads standard ts (b :: (blanks ++ rest)) (ts ++ []) (blanks ++ rest) :=
      reads_piece hpiece (Nat.le_refl _) (by simp [Piece.token?])
    rw [List.append_nil] at hread
    exact hread.trans (ih fun c hc => h c (by simp [hc]))

/-- What the rest of a tidy text gives: its text without comments is cut into pieces `ps`, the rest
is read as the tokens of these pieces, and a piece before it that ends there ends before the text
without comments too. -/
structure CleansTo (last : Option String) (joined : Bool) (text : List Char) (ps : List Piece) :
    Prop where
  cuts : Cuts (plainText text) ps
  plain : NonePlain last (tokensOf ps)
  reads : ∀ ts, lastKey ts = last → Reads standard ts text (ts ++ tokensOf ps) []
  continues : joined = true → Continues text (plainText text)

section Steps

variable {last : Option String} {joined : Bool} {ps : List Piece} {p : Piece} {a : Char}

theorem CleansTo.nil : CleansTo last joined [] [] where
  cuts := by
    rw [plainText_nil]
    exact .nil
  plain := trivial
  reads ts _ := fun c hc => ⟨0, c, rfl, by simpa using hc, Nat.le_refl _⟩
  continues _ := fun x hx => by
    rw [plainText_nil] at hx
    cases hx

/-- A comment is read as no token. -/
theorem reads_comment {ts : List Token} (hp : piece? standard a cs = some (p, rest))
    (htoken : p.token? standard last = none) (hts : lastKey ts = last) :
    Reads standard ts (a :: cs) ts rest := by
  subst hts
  have hnone : ∀ t ∈ p.token? standard (lastKey ts), beginsPlain (lastKey ts) t = false := by
    simp [htoken]
  have hread := reads_piece hp (piece?_suffix_tail hp).length_le hnone
  rwa [htoken, Option.toList_none, List.append_nil] at hread

/-- A line comment and the blanks up to the line feed. -/
theorem CleansTo.line (hp : piece? standard '-' ('-' :: cs) = some (p, rest))
    (htoken : p.token? standard last = none)
    (hblank : (rest.takeWhile (· != '\n')).all isBlank = true)
    (h : CleansTo last joined (rest.dropWhile (· != '\n')) ps) :
    CleansTo last joined ('-' :: '-' :: cs) ps := by
  have hrest : cs.dropWhile (fun c => !isBreak c) = rest := by
    have hline : piece? standard '-' ('-' :: cs) = some (lineComment cs) := rfl
    rw [hline] at hp
    exact (Prod.mk.inj (Option.some.inj hp)).2
  -- The comment has no line feed in it.
  have hdrop : cs.dropWhile (· != '\n') = rest.dropWhile (· != '\n') := by
    rw [← hrest]
    nth_rewrite 1 [← List.takeWhile_append_dropWhile (p := fun c => !isBreak c) (l := cs)]
    refine List.dropWhile_append_of_pos fun c hc => ?_
    have hc := List.mem_takeWhile_imp hc
    by_cases hfeed : c = '\n'
    · subst hfeed
      exact absurd hc (by decide)
    · simpa using hfeed
  have hplain : plainText ('-' :: '-' :: cs) = plainText (rest.dropWhile (· != '\n')) := by
    rw [plainText_line, hdrop]
  refine ⟨hplain ▸ h.cuts, h.plain, fun ts hts => ?_, fun _ x hx => .inl ?_⟩
  · have hblanks : Reads standard ts rest ts (rest.dropWhile (· != '\n')) := by
      nth_rewrite 1 [← List.takeWhile_append_dropWhile (p := (· != '\n')) (l := rest)]
      exact reads_blanks (List.all_eq_true.1 hblank)
    exact ((reads_comment hp htoken hts).trans hblanks).trans (h.reads ts hts)
  · rw [hplain] at hx
    generalize hfeed : rest.dropWhile (· != '\n') = rest' at hx
    cases rest' with
    | nil =>
      rw [plainText_nil] at hx
      cases hx
    | cons d rest' =>
      have hd := List.head?_dropWhile_not (· != '\n') rest
      rw [hfeed] at hd
      obtain rfl : d = '\n' := by simpa using hd
      have hfirst : plainText ('\n' :: rest') = '\n' :: plainText rest' :=
        @plainText_append ['\n'] rest' rfl rfl
      rw [hfirst] at hx
      obtain rfl : '\n' = x := Option.some.inj hx
      decide

/-- A block comment. -/
theorem CleansTo.block (hp : piece? standard a cs = some (p, rest))
    (htoken : p.token? standard last = none) (hblock : isBlock (source (a :: cs) rest) rest = true)
    (hjoined : joined = true → (plainText rest).head?.all isSeparator = true)
    (h : CleansTo last joined rest ps) : CleansTo last joined (a :: cs) ps := by
  obtain ⟨xs, rfl, hsource⟩ := append_source hp
  rw [hsource] at hblock
  simp only [isBlock, Bool.and_eq_true, beq_iff_eq, Bool.not_eq_true'] at hblock
  obtain ⟨⟨hmark, hclosed⟩, hline⟩ := hblock
  obtain ⟨body, hbody⟩ := List.isPrefixOf_iff_prefix.1 hmark
  have hplain : plainText (a :: (xs ++ rest)) = plainText rest := by
    rw [← hbody] at hclosed hline
    rw [← List.cons_append, ← hbody]
    exact plainText_block hclosed hline
  refine ⟨hplain ▸ h.cuts, h.plain, fun ts hts => ?_, fun hj x hx => .inl ?_⟩
  · exact (reads_comment hp htoken hts).trans (h.reads ts hts)
  · rw [hplain] at hx
    have hall := hjoined hj
    rw [hx] at hall
    exact hall

/-- A piece that is no comment. -/
theorem CleansTo.piece (hp : piece? standard a cs = some (p, rest)) (hcomment : p.isComment = false)
    (hline : opensIn '-' '-' (source (a :: cs) rest) rest = false)
    (hblock : opensIn '/' '*' (source (a :: cs) rest) rest = false)
    (hphrase : keepsPhrase (a :: cs) = true)
    (hplain : ∀ t ∈ p.token? standard last, beginsPlain last t = false)
    (h : CleansTo (((p.token? standard last).map Token.key).or last) (!isSeparator a) rest ps) :
    CleansTo last joined (a :: cs) (p :: ps) := by
  obtain ⟨xs, rfl, hsource⟩ := append_source hp
  rw [hsource] at hline hblock
  have hclean : plainText (a :: (xs ++ rest)) = a :: (xs ++ plainText rest) :=
    plainText_append hline hblock
  have htoken := token?_eq_of_isComment hcomment last
  -- Before the text without comments the same piece is cut off.
  have hpiece : piece? standard a (xs ++ plainText rest) = some (p, plainText rest) := by
    by_cases ha : isSeparator a = true
    · rw [piece?_separator ha] at hp
      obtain ⟨hpiece, hrest⟩ := Prod.mk.inj (Option.some.inj hp)
      obtain rfl : xs = [] := List.append_left_eq_self.1 hrest
      rw [piece?_separator ha, hpiece]
      rfl
    · refine piece?_local hp hcomment (h.continues (by simpa using ha)) ?_
      have hsame : phrase? standard (a :: xs ++ plainText rest) =
          (phrase? standard (a :: xs ++ rest)).map fun found => (found.1, plainText found.2) := by
        rw [keepsPhrase, beq_iff_eq, hclean] at hphrase
        exact hphrase
      exact ⟨fun w hw => by rw [hsame, hw]; rfl, fun hnone => by rw [hsame, hnone]; rfl⟩
  refine ⟨?_, ?_, fun ts hts => ?_, fun _ => ?_⟩
  · rw [hclean]
    exact .cons hpiece hcomment h.cuts
  · rw [tokensOf_cons, NonePlain.toList_append, ← htoken]
    exact ⟨hplain, h.plain⟩
  · subst hts
    have hread := reads_piece hp (piece?_suffix_tail hp).length_le hplain
    have hreads := hread.trans (h.reads _ lastKey_append)
    rwa [List.append_assoc, htoken, ← tokensOf_cons] at hreads
  · rw [hclean]
    intro x hx
    obtain rfl : a = x := Option.some.inj hx
    by_cases ha : isSeparator a = true
    · exact .inl ha
    · refine .inr ⟨rfl, fun y hy => ?_⟩
      -- The second character is one of the piece, or the first after it.
      cases xs with
      | cons b xs => exact .inr hy
      | nil =>
        have hcontinues := h.continues (by simpa using ha)
        exact (hcontinues y hy).imp_right And.left

end Steps

/-- The rest of a tidy text is read as the pieces of the same rest without comments. -/
theorem tidyFrom_cuts {n : Nat} {last : Option String} {joined : Bool}
    (h : tidyFrom n last joined text = true) : ∃ ps, CleansTo last joined text ps := by
  induction n generalizing last joined text with
  | zero =>
    cases text with
    | nil => exact ⟨[], .nil⟩
    | cons a cs => cases h
  | succ n ih =>
    cases text with
    | nil => exact ⟨[], .nil⟩
    | cons a cs =>
      rw [tidyFrom] at h
      cases hp : piece? standard a cs with
      | none => simp [hp] at h
      | some r =>
        obtain ⟨p, rest⟩ := r
        simp only [hp] at h
        split at h
        · obtain ⟨htoken, hrest⟩ := Bool.and_eq_true_iff.1 h
          have htoken := Option.isNone_iff_eq_none.1 htoken
          split at hrest
          · next hmark =>
            obtain ⟨hblank, htidy⟩ := Bool.and_eq_true_iff.1 hrest
            obtain ⟨tail, htail⟩ := List.isPrefixOf_iff_prefix.1 hmark
            obtain ⟨rfl, rfl⟩ := List.cons.inj htail
            obtain ⟨ps, hps⟩ := ih htidy
            exact ⟨ps, hps.line hp htoken hblank⟩
          · simp only [Bool.and_eq_true, Bool.or_eq_true, Bool.not_eq_true'] at hrest
            obtain ⟨⟨hblock, hjoined⟩, htidy⟩ := hrest
            obtain ⟨ps, hps⟩ := ih htidy
            exact ⟨ps, hps.block hp htoken hblock fun hj => hjoined.resolve_left (by simp [hj])⟩
        · next hcomment =>
          simp only [Bool.and_eq_true, Bool.not_eq_true', Option.all_eq_true] at h
          obtain ⟨⟨⟨⟨hline, hblock⟩, hphrase⟩, hplain⟩, htidy⟩ := h
          obtain ⟨ps, hps⟩ := ih htidy
          exact ⟨p :: ps, hps.piece hp (by simpa using hcomment) hline hblock hphrase hplain⟩

/-! ## Cleaning -/

/-- A text without comments has the same tokens after cleaning, but for one semicolon at the end. -/
theorem cuts_cleanSelect {s : String} {ps : List Piece} (h : Cuts (plainText s.toList) ps) :
    ∃ qs, Cuts (cleanSelect s).toList qs ∧ tokensOf qs = withoutFinal (tokensOf ps) ∧
      ∃ ts, tokensOf ps = tokensOf qs ++ ts := by
  obtain ⟨rs, hrs, htokens⟩ := h.trim
  rw [← htokens]
  have hclean : (cleanSelect s).toList =
      let cs := Text.trim (plainText s.toList)
      Text.trim (if cs.getLast? == some ';' then cs.dropLast else cs) := by
    simp only [cleanSelect, dropComments, plainText, String.toList_ofList]
    rfl
  rw [hclean]
  generalize hbody : Text.trim (plainText s.toList) = body at hrs
  dsimp only
  by_cases hfinal : body.getLast? = some ';'
  · rw [if_pos (by simp [hfinal])]
    obtain ⟨init, rfl⟩ := List.getLast?_eq_some_iff.1 hfinal
    obtain ⟨us, hus, hwithout, hrest⟩ := hrs.of_semicolon
    obtain ⟨qs, hqs, hsame⟩ := hus.trim
    rw [List.dropLast_concat, hwithout]
    exact ⟨qs, hqs, hsame, by rwa [hsame]⟩
  · rw [if_neg (by simpa using hfinal)]
    obtain ⟨qs, hqs, hsame⟩ := hrs.trim
    have hlast : ∀ c ∈ body.getLast?, isBlank c = false := by
      rw [← hbody]
      exact Text.getLast?_trim
    exact ⟨qs, hqs, by rw [hsame, hrs.withoutFinal_eq hlast hfinal], [], by simp [hsame]⟩

/-- Cleaning a tidy statement keeps its tokens, but for comments and one semicolon at the end. -/
theorem cleanSelect_keeps_tokens {s : String} (h : tidy s = true) :
    ∃ ts us, tokenize standard s = some ts ∧ tokenize standard (cleanSelect s) = some us ∧
      us.map Token.bare = withoutFinal (ts.map Token.bare) := by
  obtain ⟨ps, hps⟩ := tidyFrom_cuts h
  obtain ⟨qs, hqs, hfinal, rest, hrest⟩ := cuts_cleanSelect hps.cuts
  have hplain : NonePlain (lastKey []) (tokensOf qs) := by
    have hall := hps.plain
    rw [hrest] at hall
    exact hall.of_append
  obtain ⟨ts, hts, htokens⟩ := tokenize_of_reads (hps.reads [] rfl)
  obtain ⟨us, hus, hkept⟩ := tokenize_of_reads (reads_of_cuts hqs hplain)
  refine ⟨ts, us, hts, hus, ?_⟩
  rw [htokens, hkept, List.nil_append, List.nil_append, hfinal]

theorem cleanSelect_keeps_quoted :
    tidy "SELECT /* all */ 'it''s', \"a; b\" -- names\nFROM t /**/;\n" = true ∧
    ∃ ts us,
      tokenize standard "SELECT /* all */ 'it''s', \"a; b\" -- names\nFROM t /**/;\n" = some ts ∧
      tokenize standard
        (cleanSelect "SELECT /* all */ 'it''s', \"a; b\" -- names\nFROM t /**/;\n") = some us ∧
      us.map Token.bare = withoutFinal (ts.map Token.bare) :=
  ⟨by decide +kernel, cleanSelect_keeps_tokens (by decide +kernel)⟩

/-- Hyphens in a string are taken for a comment, and a quote is left open. -/
theorem cleanSelect_cuts_string :
    (tokenize standard "SELECT '--' AS x").isSome = true ∧
    cleanSelect "SELECT '--' AS x" = "SELECT '" ∧
    tokenize standard (cleanSelect "SELECT '--' AS x") = none := by
  decide +kernel

end SemanticLayer.Cleaning
