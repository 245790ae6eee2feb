import Mathlib.Data.List.Find
import Mathlib.Data.List.TakeWhile
import SemanticLayer.Sql.Lexer.Piece

/-!
# Where pieces of text end

A piece that begins before a separator and ends in front of it is the same whatever follows the
separator. So the pieces of a text that stands between separators can be told from that text alone.
-/

namespace SemanticLayer.Sql.Lexer

open SemanticLayer.Text (isBlank isDigit isNameStart)

variable {g : Grammar} {a b : Char} {xs cs k r : List Char} {p : Char → Bool}

/-! ## Lists -/

/-- The first character of a text does not depend on what follows the last one. -/
theorem head?_append_singleton : (xs ++ [b] ++ k).head? = (xs ++ [b]).head? := by
  cases xs <;> rfl

/-- A run of characters that ends inside a text ends there in a longer text too. -/
theorem takeWhile_append_of_stop (h : cs.dropWhile p ≠ []) :
    (cs ++ k).takeWhile p = cs.takeWhile p ∧ (cs ++ k).dropWhile p = cs.dropWhile p ++ k := by
  have hlength : (cs.takeWhile p).length ≠ cs.length := by
    have hsum := congrArg List.length (List.takeWhile_append_dropWhile (p := p) (l := cs))
    rw [List.length_append] at hsum
    have := List.length_pos_iff.mpr h
    omega
  rw [List.takeWhile_append, if_neg hlength, List.dropWhile_append, if_neg (by simpa using h)]
  exact ⟨rfl, rfl⟩

/-- What a run leaves of a text that goes on to its end. -/
theorem dropWhile_append_singleton (h : (xs ++ [b]).dropWhile p ≠ []) :
    ∃ ys, (xs ++ [b]).dropWhile p = ys ++ [b] := by
  rw [List.dropWhile_append] at h ⊢
  split
  · next hxs =>
    rw [if_pos hxs] at h
    by_cases hb : p b = true
    · simp [hb] at h
    · exact ⟨[], by simp [hb]⟩
  · exact ⟨xs.dropWhile p, rfl⟩

/-- A mark that holds the last character of a text at most at its own end is a prefix of the text
whatever follows. -/
theorem isPrefixOf_append_singleton {m : List Char} (h : b ∉ m.dropLast) (xs k : List Char) :
    m.isPrefixOf (xs ++ [b] ++ k) = m.isPrefixOf (xs ++ [b]) := by
  induction m generalizing xs with
  | nil => simp
  | cons c m ih =>
    cases xs with
    | nil =>
      cases m with
      | nil => simp [List.isPrefixOf]
      | cons d m =>
        have hne : c ≠ b := by
          rintro rfl
          exact h (by simp)
        simp [List.isPrefixOf, hne]
    | cons x xs =>
      have hm : b ∉ m.dropLast := by
        cases m with
        | nil => simp
        | cons d m => exact fun hb => h (by simpa using Or.inr hb)
      simp only [List.cons_append, List.isPrefixOf]
      rw [ih hm]

/-! ## Quoted texts and comments -/

theorem quoted?_append {q : Quoting} {text : List Char} (h : quoted? q cs = some (text, r))
    (hr : r ≠ []) : quoted? q (cs ++ k) = some (text, r ++ k) := by
  fun_induction quoted? q cs generalizing text r with
  | case1 => exact nomatch h
  | case2 => exact absurd (Prod.mk.inj (Option.some.inj h)).2.symm hr
  | case3 => exact nomatch h
  | case4 c d cs u hu _ ih =>
    obtain ⟨⟨body, rest⟩, hbody, heq⟩ := Option.map_eq_some_iff.mp h
    obtain ⟨rfl, rfl⟩ := Prod.mk.inj heq
    simp only [List.cons_append, quoted?, hu, ih hbody hr, Option.map_some]
  | case5 c d cs hu hescape _ ih =>
    obtain ⟨⟨body, rest⟩, hbody, heq⟩ := Option.map_eq_some_iff.mp h
    have hrest : rest = r := by split at heq <;> exact (Prod.mk.inj heq).2
    subst hrest
    simp only [List.cons_append, quoted?, hu, hescape, if_true, ih hbody hr, Option.map_some]
    split at heq <;> simp [(Prod.mk.inj heq).1, *]
  | case6 c d cs plain hu hescape =>
    rename_i ih
    simp only [List.cons_append, quoted?, hu, hescape]
    replace h : (if c == q.close then some ([], d :: cs)
      else (quoted? q (d :: cs)).map fun r => (c :: r.1, r.2)) = some (text, r) := h
    split at h
    · next hclose =>
      obtain ⟨rfl, rfl⟩ := Prod.mk.inj (Option.some.inj h)
      simp [hclose]
    · next hclose =>
      obtain ⟨⟨body, rest⟩, hbody, heq⟩ := Option.map_eq_some_iff.mp h
      obtain ⟨rfl, rfl⟩ := Prod.mk.inj heq
      have ih := ih hbody hr
      rw [List.cons_append] at ih
      simp [hclose, ih]

/-- A mark that is found is not longer than the text. -/
theorem length_le_of_upTo? {mark text : List Char} (h : upTo? mark cs = some (text, r)) :
    mark.length ≤ cs.length := by
  induction cs generalizing text with
  | nil => exact nomatch h
  | cons c cs ih =>
    rw [upTo?] at h
    split at h
    · next hmark => exact (List.isPrefixOf_iff_prefix.mp hmark).length_le
    · obtain ⟨⟨body, rest⟩, hbody, heq⟩ := Option.map_eq_some_iff.mp h
      obtain ⟨-, rfl⟩ := Prod.mk.inj heq
      exact Nat.le_succ_of_le (ih hbody)

theorem upTo?_append {mark text : List Char} (h : upTo? mark cs = some (text, r)) :
    upTo? mark (cs ++ k) = some (text, r ++ k) := by
  induction cs generalizing text with
  | nil => exact nomatch h
  | cons c cs ih =>
    have hlength := length_le_of_upTo? h
    have hmark : mark.isPrefixOf (c :: (cs ++ k)) = mark.isPrefixOf (c :: cs) := by
      rw [Bool.eq_iff_iff, List.isPrefixOf_iff_prefix, List.isPrefixOf_iff_prefix,
        ← List.cons_append]
      refine ⟨fun hm => ?_, fun hm => hm.trans (List.prefix_append _ _)⟩
      exact List.prefix_of_prefix_length_le hm (List.prefix_append _ _) hlength
    rw [upTo?] at h
    rw [List.cons_append, upTo?, hmark]
    split at h
    · next hpre =>
      obtain ⟨rfl, rfl⟩ := Prod.mk.inj (Option.some.inj h)
      rw [if_pos hpre, ← List.cons_append, List.drop_append_of_le_length hlength]
    · next hpre =>
      obtain ⟨⟨body, rest⟩, hbody, heq⟩ := Option.map_eq_some_iff.mp h
      obtain ⟨rfl, rfl⟩ := Prod.mk.inj heq
      rw [if_neg hpre, ih hbody, Option.map_some]

theorem commentBody?_append {m : CommentMarks} {opened : Bool} {depth : Nat} {text : List Char}
    (h : commentBody? m opened depth cs = some (text, r)) :
    commentBody? m opened depth (cs ++ k) = some (text, r ++ k) := by
  fun_induction commentBody? m opened depth cs generalizing text r with
  | case1 opened depth c d cs ho ih =>
    obtain ⟨⟨body, rest⟩, hbody, heq⟩ := Option.map_eq_some_iff.mp h
    obtain ⟨rfl, rfl⟩ := Prod.mk.inj heq
    simp only [List.cons_append, commentBody?, ho, if_true, ih hbody, Option.map_some]
  | case2 opened c d cs ho hclose =>
    obtain ⟨rfl, rfl⟩ := Prod.mk.inj (Option.some.inj h)
    simp [List.cons_append, commentBody?, ho, hclose]
  | case3 opened c d cs ho n hclose ih =>
    obtain ⟨⟨body, rest⟩, hbody, heq⟩ := Option.map_eq_some_iff.mp h
    obtain ⟨rfl, rfl⟩ := Prod.mk.inj heq
    have ih := ih hbody
    rw [List.cons_append] at ih
    simp [List.cons_append, commentBody?, ho, hclose, ih]
  | case4 opened c d cs ho depth hclose ih =>
    obtain ⟨⟨body, rest⟩, hbody, heq⟩ := Option.map_eq_some_iff.mp h
    obtain ⟨rfl, rfl⟩ := Prod.mk.inj heq
    have ih := ih hbody
    rw [List.cons_append] at ih
    simp [List.cons_append, commentBody?, ho, hclose, ih]
  | case5 => exact nomatch h

/-! ## Numbers -/

/-- A number ends before a character that is in no number. -/
theorem number_append {point : Bool} {exponent : Nat} (hd : isDigit b = false)
    (hb : b ∉ ['.', '-', '+', 'e', 'E', '_']) (xs k : List Char) :
    ∃ digits ys, number g point exponent (xs ++ [b]) = (digits, ys ++ [b]) ∧
      number g point exponent (xs ++ [b] ++ k) = (digits, ys ++ [b] ++ k) := by
  induction xs generalizing point exponent with
  | nil =>
    simp only [List.mem_cons, List.not_mem_nil, or_false, not_or] at hb
    exact ⟨[], [], by simp [number, hd, hb], by simp [number, hd, hb]⟩
  | cons x xs ih =>
    simp only [List.cons_append, number, head?_append_singleton]
    repeat' split
    case isFalse.isFalse.isFalse.isFalse.isFalse => exact ⟨[], x :: xs, rfl, rfl⟩
    all_goals
      obtain ⟨digits, ys, hshort, hlong⟩ := ih
      exact ⟨x :: digits, ys, by rw [hshort], by rw [hlong]⟩

/-! ## Tags and words -/

/-- A tag holds no blank, so it does not reach over one. -/
theorem dollarTag?_append (hb : b ≠ '$')
    (hk : isBlank b = true ∨ k.head?.all isBlank = true) :
    dollarTag? (xs ++ [b] ++ k) = (dollarTag? (xs ++ [b])).map fun r => (r.1, r.2 ++ k) := by
  unfold dollarTag?
  by_cases hd : (xs ++ [b]).dropWhile (· != '$') = []
  · -- Without a dollar sign the short text has no tag, and a tag in the long one holds a blank.
    have hall := List.dropWhile_eq_nil_iff.mp hd
    rw [hd, List.takeWhile_append_of_pos hall, List.dropWhile_append_of_pos hall]
    dsimp only
    split
    · rfl
    · next y rest hrest =>
      have hblank : (xs ++ [b] ++ k.takeWhile (· != '$')).any isBlank = true := by
        obtain hb | hk := hk
        · simp [hb]
        · cases k with
          | nil => simp at hrest
          | cons x k =>
            have hx : isBlank x = true := by simpa using hk
            have hne : x ≠ '$' := by
              rintro rfl
              exact absurd hx (by decide)
            simp [hx, hne]
      rw [hblank]
      simp
  · obtain ⟨htake, hdrop⟩ := takeWhile_append_of_stop (k := k) hd
    rw [htake, hdrop]
    cases hys : xs.dropWhile (· != '$') with
    | nil =>
      rw [List.dropWhile_append, if_pos (by simp [hys])] at hd
      exact absurd (by simp [hb]) hd
    | cons y ys =>
      have hdrop' : (xs ++ [b]).dropWhile (· != '$') = y :: (ys ++ [b]) := by
        rw [List.dropWhile_append, if_neg (by simp [hys]), hys, List.cons_append]
      have hshort : (ys ++ [b]).isEmpty = false := by simp
      have hlong : (ys ++ [b] ++ k).isEmpty = false := by simp
      simp only [hdrop', List.cons_append, hshort, hlong]
      split <;> rfl

/-- What follows a word in a text and in a longer one: nothing in both, or the same up to the last
character of the first. -/
def SameAfter (b : Char) (k : List Char) (short long : Option (List Char)) : Prop :=
  short = none ∧ long = none ∨ ∃ ys, short = some (ys ++ [b]) ∧ long = some (ys ++ [b] ++ k)

theorem afterWord?_append {w : List Char} (hw : ∀ c ∈ w, Text.upperChar b ≠ [c])
    (xs k : List Char) :
    SameAfter b k (afterWord? w (xs ++ [b])) (afterWord? w (xs ++ [b] ++ k)) := by
  induction w generalizing xs with
  | nil => exact .inr ⟨xs, by simp [afterWord?], by simp [afterWord?]⟩
  | cons c w ih =>
    cases xs with
    | nil =>
      have hne : (Text.upperChar b == [c]) = false := by simpa using hw c (by simp)
      exact .inl (by simp [afterWord?, hne])
    | cons x xs =>
      simp only [List.cons_append, afterWord?]
      split
      · exact ih (fun d hd => hw d (List.mem_cons_of_mem c hd)) xs
      · exact .inl ⟨rfl, rfl⟩

/-- A word does not go on over the character `b`. -/
def EndsWord (b : Char) (w : List Char) : Prop := w ≠ [] ∧ ∀ c ∈ w, Text.upperChar b ≠ [c]

instance (b : Char) (w : List Char) : Decidable (EndsWord b w) :=
  decidable_of_iff ((!w.isEmpty && w.all fun c => Text.upperChar b != [c]) = true)
    (by simp [EndsWord])

/-- A word does not begin after the blank `b`. -/
def NotAfter (b : Char) (k w : List Char) : Prop :=
  isBlank b = true → ∀ x ∈ k.head?, isBlank x = false ∧ ∀ c ∈ w.head?, Text.upperChar x ≠ [c]

instance (b : Char) (k w : List Char) : Decidable (NotAfter b k w) :=
  decidable_of_iff ((!isBlank b || k.head?.all fun x =>
      !isBlank x && w.head?.all fun c => Text.upperChar x != [c]) = true)
    (by cases k <;> cases w <;> cases h : isBlank b <;> simp [NotAfter, h])

/-- A keyword whose first word does not match is not there. -/
theorem afterWords?_eq_none {w : String} {ws : List String} (h : afterWord? w.toList cs = none) :
    afterWords? (w :: ws) cs = none := by
  cases ws with
  | nil => exact h
  | cons v ws => simp [afterWords?, h]

theorem afterWords?_nil {w : String} {ws : List String} (hw : w.toList ≠ []) :
    afterWords? (w :: ws) [] = none := by
  refine afterWords?_eq_none ?_
  cases hc : w.toList with
  | nil => exact absurd hc hw
  | cons c cs => rfl

/-- A keyword does not begin after the blank that ends a word. -/
theorem afterWords?_after {w : String} {ws : List String} (hw : EndsWord b w.toList)
    (hk : NotAfter b k w.toList) (hb : isBlank b = true) :
    afterWords? (w :: ws) (k.dropWhile isBlank) = none := by
  cases k with
  | nil => exact afterWords?_nil hw.1
  | cons x k =>
    obtain ⟨hx, hne⟩ := hk hb x rfl
    rw [List.dropWhile_cons_of_neg (by simp [hx])]
    refine afterWords?_eq_none ?_
    cases hc : w.toList with
    | nil => exact absurd hc hw.1
    | cons c cs =>
      have hne : (Text.upperChar x == [c]) = false := by simpa using hne c (by simp [hc])
      simp [afterWord?, hne]

theorem afterWords?_append {ws : List String} (hw : ∀ w ∈ ws, EndsWord b w.toList)
    (hk : ∀ w ∈ ws.tail, NotAfter b k w.toList) :
    SameAfter b k (afterWords? ws (xs ++ [b])) (afterWords? ws (xs ++ [b] ++ k)) := by
  induction ws generalizing xs with
  | nil => exact .inr ⟨xs, rfl, rfl⟩
  | cons w ws ih =>
    have hfirst := afterWord?_append (hw w (by simp)).2 xs k
    cases ws with
    | nil => exact hfirst
    | cons v ws =>
    obtain ⟨hshort, hlong⟩ | ⟨ys, hshort, hlong⟩ := hfirst
    · exact .inl ⟨afterWords?_eq_none hshort, afterWords?_eq_none hlong⟩
    have hv := hw v (by simp)
    have hafter := hk v (by simp)
    simp only [afterWords?, hshort, hlong]
    -- The blanks between the words end before `b`, or nothing is left of the short text.
    cases ys with
    | nil =>
      simp only [List.nil_append, List.cons_append]
      split
      · next hb => exact .inl ⟨afterWords?_nil hv.1, afterWords?_after hv hafter hb⟩
      · exact .inl ⟨rfl, rfl⟩
    | cons y ys =>
      simp only [List.cons_append]
      split
      · by_cases hd : (ys ++ [b]).dropWhile isBlank = []
        · have hall := List.dropWhile_eq_nil_iff.mp hd
          rw [hd, List.dropWhile_append_of_pos hall]
          exact .inl ⟨afterWords?_nil hv.1, afterWords?_after hv hafter (hall b (by simp))⟩
        · obtain ⟨zs, hzs⟩ := dropWhile_append_singleton hd
          rw [(takeWhile_append_of_stop hd).2, hzs]
          exact ih (fun u hu => hw u (List.mem_cons_of_mem w hu))
            fun u hu => hk u (List.mem_cons_of_mem v hu)
      · exact .inl ⟨rfl, rfl⟩

/-- The keywords of several words at the beginning of a text end before the character `b`. -/
def PhrasesEnd (g : Grammar) (xs : List Char) (b : Char) (k : List Char) : Prop :=
  ∀ ws ∈ g.phrases ++ Vocabulary.phrases,
    SameAfter b k (afterWords? ws (xs ++ [b])) (afterWords? ws (xs ++ [b] ++ k))

theorem PhrasesEnd.phrase? (h : PhrasesEnd g xs b k) :
    phrase? g (xs ++ [b] ++ k) = (phrase? g (xs ++ [b])).map fun r => (r.1, r.2 ++ k) := by
  unfold Lexer.phrase?
  unfold PhrasesEnd at h
  rw [List.map_findSome?]
  generalize g.phrases ++ Vocabulary.phrases = phrases at h ⊢
  induction phrases with
  | nil => rfl
  | cons ws rest ih =>
    rw [List.findSome?_cons, List.findSome?_cons,
      ih fun vs hvs => h vs (List.mem_cons_of_mem ws hvs)]
    obtain ⟨hshort, hlong⟩ | ⟨ys, hshort, hlong⟩ := h ws List.mem_cons_self
    · simp only [Function.comp_apply, hshort, hlong, Option.map_none]
    · simp only [Function.comp_apply, hshort, hlong, head?_append_singleton]
      cases (ys ++ [b]).head?.all fun c => isBlank c || g.isMark c <;> rfl

/-- After a blank stands nothing with which a keyword goes on. -/
theorem PhrasesEnd.of_next (hw : ∀ ws ∈ g.phrases ++ Vocabulary.phrases,
      (∀ w ∈ ws, EndsWord b w.toList) ∧ ∀ w ∈ ws.tail, NotAfter b k w.toList) :
    PhrasesEnd g xs b k :=
  fun ws hws => afterWords?_append (hw ws hws).1 (hw ws hws).2

/-- No keyword of several words begins with the text. -/
theorem PhrasesEnd.of_first (h : ∀ ws ∈ g.phrases ++ Vocabulary.phrases,
      ∃ w ∈ ws.head?, EndsWord b w.toList ∧ afterWord? w.toList (xs ++ [b]) = none) :
    PhrasesEnd g xs b k := by
  intro ws hws
  obtain ⟨w, hw, hends, hnone⟩ := h ws hws
  cases ws with
  | nil => simp at hw
  | cons v ws =>
    obtain rfl : v = w := by simpa using hw
    obtain ⟨-, hlong⟩ | ⟨ys, hshort, -⟩ := afterWord?_append hends.2 xs k
    · exact .inl ⟨afterWords?_eq_none hnone, afterWords?_eq_none hlong⟩
    · exact absurd (hnone.symm.trans hshort) (by simp)

/-! ## Pieces -/

/-- The character `b` is inside no number, mark or comment mark: what stands before it ends there,
or goes on with more than one character. -/
structure EndsPiece (g : Grammar) (b : Char) : Prop where
  digit : isDigit b = false
  number : b ∉ ['.', '-', '+', 'e', 'E', '_']
  dollar : b ≠ '$'
  comment : ∀ m ∈ commentMarks g, b ∉ m.opening.dropLast
  operator : ∀ o ∈ g.operators, b ∉ o.toList.dropLast

theorem numeral_append (hb : EndsPiece g b) {piece : Piece}
    (h : numeral g a (xs ++ [b]) = (piece, r)) (hr : r ≠ []) :
    numeral g a (xs ++ [b] ++ k) = (piece, r ++ k) := by
  obtain ⟨digits, ys, hshort, hlong⟩ : ∃ digits ys,
      number g false 0 (a :: xs ++ [b]) = (digits, ys ++ [b]) ∧
        number g false 0 (a :: xs ++ [b] ++ k) = (digits, ys ++ [b] ++ k) :=
    number_append hb.digit hb.number (a :: xs) k
  simp only [List.cons_append] at hshort hlong
  simp only [numeral, hshort, hlong, head?_append_singleton] at h ⊢
  split at h
  · next hbase =>
    rw [if_pos hbase]
    split at h
    · next htag =>
      obtain ⟨hpiece, hrest⟩ := Prod.mk.inj h
      obtain ⟨htake, hdrop⟩ := takeWhile_append_of_stop (k := k) (hrest ▸ hr)
      rw [if_pos htag, htake, hdrop, hpiece, hrest]
    · next htag =>
      obtain ⟨rfl, rfl⟩ := Prod.mk.inj h
      rw [if_neg htag]
  · next hbase =>
    rw [if_neg hbase]
    split at h
    · next hname =>
      obtain ⟨hpiece, hrest⟩ := Prod.mk.inj h
      obtain ⟨htake, hdrop⟩ := takeWhile_append_of_stop (k := k) (hrest ▸ hr)
      rw [if_pos hname, htake, hdrop, hpiece, hrest]
    · next hname =>
      obtain ⟨rfl, rfl⟩ := Prod.mk.inj h
      rw [if_neg hname]

theorem quotedPiece?_append {q : Quoting} {kind : TokenKind} {piece : Piece}
    (h : quotedPiece? q kind cs = some (piece, r)) (hr : r ≠ []) :
    quotedPiece? q kind (cs ++ k) = some (piece, r ++ k) := by
  obtain ⟨⟨text, rest⟩, htext, heq⟩ := Option.map_eq_some_iff.mp h
  obtain ⟨rfl, rfl⟩ := Prod.mk.inj heq
  simp only [quotedPiece?, quoted?_append htext hr, Option.map_some]

theorem lineComment_append {piece : Piece} (h : lineComment cs = (piece, r)) (hr : r ≠ []) :
    lineComment (cs ++ k) = (piece, r ++ k) := by
  obtain ⟨hpiece, hrest⟩ := Prod.mk.inj h
  obtain ⟨htake, hdrop⟩ := takeWhile_append_of_stop (k := k) (hrest ▸ hr)
  rw [lineComment, htake, hdrop, hpiece, hrest]

theorem markedComment?_append {m : CommentMarks} {piece : Piece}
    (h : markedComment? m cs = some (piece, r)) :
    markedComment? m (cs ++ k) = some (piece, r ++ k) := by
  obtain ⟨⟨text, rest⟩, htext, heq⟩ := Option.map_eq_some_iff.mp h
  obtain ⟨rfl, rfl⟩ := Prod.mk.inj heq
  simp only [markedComment?, commentBody?_append htext, Option.map_some]

theorem dollarString?_append {tag : List Char} {piece : Piece}
    (h : dollarString? tag cs = some (piece, r)) :
    dollarString? tag (cs ++ k) = some (piece, r ++ k) := by
  obtain ⟨⟨text, rest⟩, htext, heq⟩ := Option.map_eq_some_iff.mp h
  obtain ⟨rfl, rfl⟩ := Prod.mk.inj heq
  simp only [dollarString?, upTo?_append htext, Option.map_some]

theorem markOrWord_append (hphrases : PhrasesEnd g (a :: xs) b k) {piece : Piece}
    (h : markOrWord g a (xs ++ [b]) = (piece, r)) (hr : r ≠ []) :
    markOrWord g a (xs ++ [b] ++ k) = (piece, r ++ k) := by
  have hphrase := hphrases.phrase?
  simp only [List.cons_append] at hphrase
  simp only [markOrWord, hphrase] at h ⊢
  split at h
  · next hline => rw [if_pos hline, lineComment_append h hr]
  · next hline =>
    rw [if_neg hline]
    split at h
    · next hmark =>
      obtain ⟨rfl, rfl⟩ := Prod.mk.inj h
      rw [if_pos hmark]
    · next hmark =>
      rw [if_neg hmark]
      split at h
      · next w rest hw =>
        obtain ⟨rfl, rfl⟩ := Prod.mk.inj h
        simp only [hw, Option.map_some]
      · next hw =>
        obtain ⟨hpiece, hrest⟩ := Prod.mk.inj h
        obtain ⟨htake, hdrop⟩ := takeWhile_append_of_stop (k := k) (hrest ▸ hr)
        simp only [hw, Option.map_none]
        rw [htake, hdrop, hpiece, hrest]

/-- What is found at the beginning of a text is not longer than the text. -/
theorem length_le_of_find?_isPrefixOf {α : Type} {f : α → List Char} {as : List α} {m : α}
    (h : as.find? (fun m => (f m).isPrefixOf cs) = some m) : (f m).length ≤ cs.length := by
  have hprefix := List.find?_some h
  exact (List.isPrefixOf_iff_prefix.mp hprefix).length_le

theorem marked?_append (hb : EndsPiece g b) (hphrases : PhrasesEnd g (a :: xs) b k)
    (hk : isBlank b = true ∨ k.head?.all isBlank = true) {piece : Piece}
    (h : marked? g a (xs ++ [b]) = some (piece, r)) (hr : r ≠ []) :
    marked? g a (xs ++ [b] ++ k) = some (piece, r ++ k) := by
  have hcomment : ((commentMarks g).find? fun m => m.opening.isPrefixOf (a :: (xs ++ [b] ++ k))) =
      (commentMarks g).find? fun m => m.opening.isPrefixOf (a :: (xs ++ [b])) :=
    List.find?_congr fun m hm => isPrefixOf_append_singleton (hb.comment m hm) (a :: xs) k
  have hoperator : (g.operators.find? fun o => o.toList.isPrefixOf (a :: (xs ++ [b] ++ k))) =
      g.operators.find? fun o => o.toList.isPrefixOf (a :: (xs ++ [b])) :=
    List.find?_congr fun o ho => isPrefixOf_append_singleton (hb.operator o ho) (a :: xs) k
  simp only [marked?] at h ⊢
  rw [hcomment, hoperator, dollarTag?_append hb.dollar hk]
  split at h
  · next m _ _ hm =>
    simp only [hm]
    rw [← List.cons_append, List.drop_append_of_le_length (length_le_of_find?_isPrefixOf hm)]
    exact markedComment?_append h
  · next o _ hm ho =>
    obtain ⟨rfl, rfl⟩ := Prod.mk.inj (Option.some.inj h)
    simp only [hm, ho]
    rw [← List.cons_append, ← String.length_toList,
      List.drop_append_of_le_length (length_le_of_find?_isPrefixOf ho)]
  · next tag rest hm ho htag =>
    have htag : (if (g.dollarQuotes && a == '$') = true then
        (dollarTag? (xs ++ [b])).map fun r => (r.1, r.2 ++ k) else none) =
        some (tag, rest ++ k) := by
      split at htag
      · rw [if_pos ‹_›, htag, Option.map_some]
      · exact nomatch htag
    simp only [hm, ho, htag]
    exact dollarString?_append h
  · next hm ho htag =>
    have htag : (if (g.dollarQuotes && a == '$') = true then
        (dollarTag? (xs ++ [b])).map fun r => (r.1, r.2 ++ k) else none) = none := by
      split at htag
      · rw [if_pos ‹_›, htag, Option.map_none]
      · rw [if_neg ‹_›]
    simp only [hm, ho, htag]
    rw [markOrWord_append hphrases (Option.some.inj h) hr]

/-- A piece that ends before a separator is the same whatever follows the separator. -/
theorem piece?_append (hb : EndsPiece g b) (hphrases : PhrasesEnd g (a :: xs) b k)
    (hk : isBlank b = true ∨ k.head?.all isBlank = true) {piece : Piece}
    (h : piece? g a (xs ++ [b]) = some (piece, r)) (hr : r ≠ []) :
    piece? g a (xs ++ [b] ++ k) = some (piece, r ++ k) := by
  have hne : b ∉ ['-'] := fun hmem => hb.number (by simp_all)
  have hdash : ['-', '-'].isPrefixOf (a :: (xs ++ [b] ++ k)) =
      ['-', '-'].isPrefixOf (a :: (xs ++ [b])) :=
    isPrefixOf_append_singleton hne (a :: xs) k
  have hdrop : (xs ++ [b] ++ k).drop 1 = (xs ++ [b]).drop 1 ++ k :=
    List.drop_append_of_le_length (by simp)
  have hhead : (xs ++ [b] ++ k).headD a = (xs ++ [b]).headD a := by cases xs <;> rfl
  simp only [piece?, head?_append_singleton, hdash, hdrop, hhead] at h ⊢
  split at h
  · next hblank =>
    obtain ⟨rfl, rfl⟩ := Prod.mk.inj (Option.some.inj h)
    rw [if_pos hblank]
  · next hblank =>
    rw [if_neg hblank]
    split at h
    · next hdigit => rw [if_pos hdigit, numeral_append hb (Option.some.inj h) hr]
    · next hdigit =>
      rw [if_neg hdigit]
      split at h
      · next hname => rw [if_pos hname, quotedPiece?_append h hr]
      · next hname =>
        rw [if_neg hname]
        split at h
        · next hstring => rw [if_pos hstring, quotedPiece?_append h hr]
        · next hstring =>
          rw [if_neg hstring]
          split at h
          · next htag => rw [if_pos htag, quotedPiece?_append h hr]
          · next htag =>
            rw [if_neg htag]
            split at h
            · next hline => rw [if_pos hline, lineComment_append (Option.some.inj h) hr]
            · next hline => rw [if_neg hline, marked?_append hb hphrases hk h hr]

/-! ## What is left of a text -/

theorem quoted?_suffix {q : Quoting} {text : List Char} (h : quoted? q cs = some (text, r)) :
    r <:+ cs := by
  fun_induction quoted? q cs generalizing text r with
  | case1 => exact nomatch h
  | case2 =>
    obtain ⟨-, rfl⟩ := Prod.mk.inj (Option.some.inj h)
    exact List.nil_suffix
  | case3 => exact nomatch h
  | case4 c d cs u hu _ ih =>
    obtain ⟨⟨body, rest⟩, hbody, heq⟩ := Option.map_eq_some_iff.mp h
    obtain ⟨-, rfl⟩ := Prod.mk.inj heq
    exact (ih hbody).trans (List.suffix_append [c, d] cs)
  | case5 c d cs hu hescape _ ih =>
    obtain ⟨⟨body, rest⟩, hbody, heq⟩ := Option.map_eq_some_iff.mp h
    have hrest : rest = r := by split at heq <;> exact (Prod.mk.inj heq).2
    exact hrest ▸ (ih hbody).trans (List.suffix_append [c, d] cs)
  | case6 c d cs plain hu hescape =>
    rename_i ih
    replace h : (if c == q.close then some ([], d :: cs)
      else (quoted? q (d :: cs)).map fun r => (c :: r.1, r.2)) = some (text, r) := h
    split at h
    · obtain ⟨-, rfl⟩ := Prod.mk.inj (Option.some.inj h)
      exact List.suffix_cons c _
    · obtain ⟨⟨body, rest⟩, hbody, heq⟩ := Option.map_eq_some_iff.mp h
      obtain ⟨-, rfl⟩ := Prod.mk.inj heq
      exact (ih hbody).trans (List.suffix_cons c _)

theorem upTo?_suffix {mark text : List Char} (h : upTo? mark cs = some (text, r)) : r <:+ cs := by
  induction cs generalizing text with
  | nil => exact nomatch h
  | cons c cs ih =>
    rw [upTo?] at h
    split at h
    · obtain ⟨-, rfl⟩ := Prod.mk.inj (Option.some.inj h)
      exact List.drop_suffix _ _
    · obtain ⟨⟨body, rest⟩, hbody, heq⟩ := Option.map_eq_some_iff.mp h
      obtain ⟨-, rfl⟩ := Prod.mk.inj heq
      exact (ih hbody).trans (List.suffix_cons c cs)

theorem commentBody?_suffix {m : CommentMarks} {opened : Bool} {depth : Nat} {text : List Char}
    (h : commentBody? m opened depth cs = some (text, r)) : r <:+ cs := by
  fun_induction commentBody? m opened depth cs generalizing text r with
  | case1 opened depth c d cs ho ih =>
    obtain ⟨⟨body, rest⟩, hbody, heq⟩ := Option.map_eq_some_iff.mp h
    obtain ⟨-, rfl⟩ := Prod.mk.inj heq
    exact (ih hbody).trans (List.suffix_append [c, d] cs)
  | case2 opened c d cs ho hclose =>
    obtain ⟨-, rfl⟩ := Prod.mk.inj (Option.some.inj h)
    exact List.suffix_append [c, d] cs
  | case3 opened c d cs ho n hclose ih =>
    obtain ⟨⟨body, rest⟩, hbody, heq⟩ := Option.map_eq_some_iff.mp h
    obtain ⟨-, rfl⟩ := Prod.mk.inj heq
    exact (ih hbody).trans (List.suffix_cons c _)
  | case4 opened c d cs ho depth hclose ih =>
    obtain ⟨⟨body, rest⟩, hbody, heq⟩ := Option.map_eq_some_iff.mp h
    obtain ⟨-, rfl⟩ := Prod.mk.inj heq
    exact (ih hbody).trans (List.suffix_cons c _)
  | case5 => exact nomatch h

theorem number_suffix {point : Bool} {exponent : Nat} : (number g point exponent cs).2 <:+ cs := by
  induction cs generalizing point exponent with
  | nil => exact List.suffix_rfl
  | cons c cs ih =>
    rw [number]
    repeat' split
    case isFalse.isFalse.isFalse.isFalse.isFalse => exact List.suffix_rfl
    all_goals exact ih.trans (List.suffix_cons c cs)

theorem afterWord?_suffix {w : List Char} (h : afterWord? w cs = some r) : r <:+ cs := by
  induction w generalizing cs with
  | nil =>
    obtain rfl := Option.some.inj ((afterWord?.eq_1 cs).symm.trans h)
    exact List.suffix_rfl
  | cons c w ih =>
    cases cs with
    | nil => exact nomatch h
    | cons x cs =>
      rw [afterWord?] at h
      split at h
      · exact (ih h).trans (List.suffix_cons x cs)
      · exact nomatch h

theorem afterWords?_suffix {ws : List String} (h : afterWords? ws cs = some r) : r <:+ cs := by
  fun_induction afterWords? ws cs with
  | case1 cs => exact (Option.some.inj h) ▸ List.suffix_rfl
  | case2 w cs => exact afterWord?_suffix h
  | case3 w ws cs _ c rest hc hblank ih =>
    have hrest := (List.dropWhile_suffix isBlank).trans (List.suffix_cons c rest)
    exact ((ih h).trans hrest).trans (afterWord?_suffix hc)
  | case4 => exact nomatch h
  | case5 => exact nomatch h

theorem phrase?_suffix {w : String} (h : phrase? g cs = some (w, r)) : r <:+ cs := by
  obtain ⟨ws, -, hws⟩ := List.exists_of_findSome?_eq_some h
  split at hws
  · next rest hrest =>
    split at hws
    · obtain ⟨-, rfl⟩ := Prod.mk.inj (Option.some.inj hws)
      exact afterWords?_suffix hrest
    · exact nomatch hws
  · exact nomatch hws

theorem numeral_suffix {piece : Piece} (h : numeral g a cs = (piece, r)) : r <:+ a :: cs := by
  have hnumber : (number g false 0 (a :: cs)).2 <:+ a :: cs := number_suffix
  simp only [numeral] at h
  split at h
  · split at h
    · obtain ⟨-, rfl⟩ := Prod.mk.inj h
      exact (List.dropWhile_suffix _).trans (List.suffix_cons a cs)
    · obtain ⟨-, rfl⟩ := Prod.mk.inj h
      exact List.suffix_cons a cs
  · split at h
    · obtain ⟨-, rfl⟩ := Prod.mk.inj h
      exact (List.dropWhile_suffix _).trans hnumber
    · obtain ⟨-, rfl⟩ := Prod.mk.inj h
      exact hnumber

theorem quotedPiece?_suffix {q : Quoting} {kind : TokenKind} {piece : Piece}
    (h : quotedPiece? q kind cs = some (piece, r)) : r <:+ cs := by
  obtain ⟨⟨text, rest⟩, htext, heq⟩ := Option.map_eq_some_iff.mp h
  obtain ⟨-, rfl⟩ := Prod.mk.inj heq
  exact quoted?_suffix htext

theorem lineComment_suffix {piece : Piece} (h : lineComment cs = (piece, r)) : r <:+ cs := by
  obtain ⟨-, rfl⟩ := Prod.mk.inj h
  exact List.dropWhile_suffix _

theorem markOrWord_suffix {piece : Piece} (h : markOrWord g a cs = (piece, r)) :
    r <:+ a :: cs := by
  simp only [markOrWord] at h
  split at h
  · exact (lineComment_suffix h).trans (List.suffix_cons a cs)
  · split at h
    · obtain ⟨-, rfl⟩ := Prod.mk.inj h
      exact List.suffix_cons a cs
    · split at h
      · next hphrase =>
        obtain ⟨-, rfl⟩ := Prod.mk.inj h
        exact phrase?_suffix hphrase
      · obtain ⟨-, rfl⟩ := Prod.mk.inj h
        exact (List.dropWhile_suffix _).trans (List.suffix_cons a cs)

theorem dollarTag?_suffix {tag : List Char} (h : dollarTag? cs = some (tag, r)) : r <:+ cs := by
  simp only [dollarTag?] at h
  split at h
  · exact nomatch h
  · next x rest hrest =>
    split at h
    · obtain ⟨-, rfl⟩ := Prod.mk.inj (Option.some.inj h)
      exact (hrest ▸ List.suffix_cons x rest).trans (List.dropWhile_suffix _)
    · exact nomatch h

theorem marked?_suffix {piece : Piece} (h : marked? g a cs = some (piece, r)) :
    r <:+ a :: cs := by
  simp only [marked?] at h
  split at h
  · obtain ⟨⟨text, rest⟩, htext, heq⟩ := Option.map_eq_some_iff.mp h
    obtain ⟨-, rfl⟩ := Prod.mk.inj heq
    exact (commentBody?_suffix htext).trans (List.drop_suffix _ _)
  · obtain ⟨-, rfl⟩ := Prod.mk.inj (Option.some.inj h)
    exact List.drop_suffix _ _
  · next htag =>
    obtain ⟨⟨text, rest⟩, htext, heq⟩ := Option.map_eq_some_iff.mp h
    obtain ⟨-, rfl⟩ := Prod.mk.inj heq
    split at htag
    · exact ((upTo?_suffix htext).trans (dollarTag?_suffix htag)).trans (List.suffix_cons a cs)
    · exact nomatch htag
  · exact markOrWord_suffix (Option.some.inj h)

/-- A piece is cut off the beginning of the text. -/
theorem piece?_suffix {piece : Piece} (h : piece? g a cs = some (piece, r)) : r <:+ a :: cs := by
  have hcons := List.suffix_cons a cs
  simp only [piece?] at h
  split at h
  · obtain ⟨-, rfl⟩ := Prod.mk.inj (Option.some.inj h)
    exact hcons
  · split at h
    · exact numeral_suffix (Option.some.inj h)
    · split at h
      · exact (quotedPiece?_suffix h).trans hcons
      · split at h
        · exact (quotedPiece?_suffix h).trans hcons
        · split at h
          · exact ((quotedPiece?_suffix h).trans (List.drop_suffix _ _)).trans hcons
          · split at h
            · have hline := lineComment_suffix (Option.some.inj h)
              exact (hline.trans (List.drop_suffix _ _)).trans hcons
            · exact marked?_suffix h

end SemanticLayer.Sql.Lexer
