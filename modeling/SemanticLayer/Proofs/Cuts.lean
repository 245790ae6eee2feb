import SemanticLayer.Proofs.Fragment
import SemanticLayer.Proofs.Locality

/-!
# Texts in pieces

`Cuts text ps` says that a text without comments is cut into the pieces `ps` in the neutral grammar.
Such a text is read as the tokens of its pieces (`reads_of_cuts`).

Separators at the end of a text can be taken off without a change to the pieces before them
(`Cuts.split`): no piece of several characters ends with a separator (`piece?_ends`), so none
reaches over the end of the shorter text, and no keyword of several words looks for its next word
there (`phrase?_append_separators`).
-/

namespace SemanticLayer.Sql.Lexer

open SemanticLayer.Text (isBlank isDigit)
open SemanticLayer.Sql.Grammar (standard)

variable {a c : Char} {xs r r' text cs e t : List Char} {p : Piece} {ps : List Piece}
  {point : Bool} {exponent : Nat}

/-! ## Where a piece ends -/

theorem number_append_eq {g : Grammar} :
    (number g point exponent cs).1 ++ (number g point exponent cs).2 = cs := by
  induction cs generalizing point exponent with
  | nil => rfl
  | cons c cs ih =>
    rw [number]
    repeat' split
    case isFalse.isFalse.isFalse.isFalse.isFalse => rfl
    all_goals simp [ih]

theorem not_separator_of_mem_number (h : c ∈ (number standard point exponent cs).1) :
    isSeparator c = false := by
  induction cs generalizing point exponent with
  | nil => cases h
  | cons x cs ih =>
    cases htakes : numberTakes? point exponent x (cs.head?.any isDigit) with
    | none =>
      rw [number_of_not_takes htakes] at h
      cases h
    | some seen =>
      rw [number_of_takes htakes] at h
      rcases List.mem_cons.1 h with rfl | hmem
      · refine Bool.eq_false_iff.2 fun hsep => ?_
        rw [numberTakes?_separator hsep] at htakes
        cases htakes
      · exact ih hmem

/-- A text in quotes ends with the quote. -/
theorem getLast?_of_quoted? {q : Quoting} (hq : q.Doubles) {text : List Char}
    (h : quoted? q (xs ++ r) = some (text, r)) : xs.getLast? = some q.close := by
  induction xs using List.twoStepInduction generalizing text with
  | nil => exact absurd (length_of_quoted? h) (Nat.lt_irrefl _)
  | singleton c => rw [(quoted?_singleton hq h).1, List.getLast?_singleton]
  | cons_cons c d xs ih ih' =>
    simp only [List.cons_append] at h
    rw [quoted?_cons_cons hq] at h
    rw [List.getLast?_cons_cons]
    split at h
    · obtain ⟨⟨body, rest⟩, hbody, heq⟩ := Option.map_eq_some_iff.mp h
      obtain rfl : rest = r := (Prod.mk.inj heq).2
      have hlast := ih hbody
      cases xs with
      | nil => cases hlast
      | cons x xs => rwa [List.getLast?_cons_cons]
    · split at h
      · have hlength := congrArg List.length (Prod.mk.inj (Option.some.inj h)).2
        simp at hlength
        omega
      · obtain ⟨⟨body, rest⟩, hbody, heq⟩ := Option.map_eq_some_iff.mp h
        obtain rfl : rest = r := (Prod.mk.inj heq).2
        exact ih' d hbody

/-- A word at the beginning of a text ends with one of its letters. -/
theorem afterWord?_last {w : List Char} (hw : w ≠ []) (h : afterWord? w cs = some r) :
    ∃ ys y, cs = ys ++ y :: r ∧ ∃ x ∈ w, Text.upperChar y = [x] := by
  induction w generalizing cs with
  | nil => exact absurd rfl hw
  | cons x w ih =>
    cases cs with
    | nil => cases h
    | cons y cs =>
      rw [afterWord?] at h
      split at h
      · next hletter =>
        cases w with
        | nil =>
          obtain rfl : cs = r := Option.some.inj h
          exact ⟨[], y, rfl, x, by simp, by simpa using hletter⟩
        | cons x' w =>
          obtain ⟨ys, z, rfl, hz⟩ := ih (by simp) h
          obtain ⟨x'', hx'', hupper⟩ := hz
          exact ⟨y :: ys, z, rfl, x'', List.mem_cons_of_mem x hx'', hupper⟩
      · cases h

theorem afterWords?_last {ws : List String} (hne : ws ≠ []) (hw : ∀ w ∈ ws, w.toList ≠ [])
    (h : afterWords? ws cs = some r) :
    ∃ ys y, cs = ys ++ y :: r ∧ ∃ w ∈ ws, ∃ x ∈ w.toList, Text.upperChar y = [x] := by
  fun_induction afterWords? ws cs with
  | case1 => exact absurd rfl hne
  | case2 w cs =>
    obtain ⟨ys, y, hcs, x, hx, hupper⟩ := afterWord?_last (hw w (by simp)) h
    exact ⟨ys, y, hcs, w, by simp, x, hx, hupper⟩
  | case3 w ws cs hws c rest hc hblank ih =>
    have hws' : ws ≠ [] := fun heq => hws heq
    obtain ⟨ys, y, hcs, v, hv, hletter⟩ := ih hws' (fun v hv => hw v (by simp [hv])) h
    obtain ⟨before, hbefore⟩ := (List.dropWhile_suffix (l := rest) isBlank).trans
      ((List.suffix_cons c rest).trans (afterWord?_suffix hc))
    exact ⟨before ++ ys, y, by rw [← hbefore, hcs, List.append_assoc], v, by simp [hv], hletter⟩
  | case4 => cases h
  | case5 => cases h

/-- A keyword of several words ends with a letter. -/
theorem phrase?_last {w : String} (h : phrase? standard cs = some (w, r)) :
    ∃ ys y, cs = ys ++ y :: r ∧ isSeparator y = false := by
  have hwords : ∀ ws ∈ standard.phrases ++ Vocabulary.phrases,
      ws ≠ [] ∧ ∀ w ∈ ws, w.toList ≠ [] := by
    decide
  obtain ⟨ws, hws, hfound⟩ := List.exists_of_findSome?_eq_some h
  split at hfound
  · next rest hrest =>
    split at hfound
    · obtain ⟨-, rfl⟩ := Prod.mk.inj (Option.some.inj hfound)
      obtain ⟨ys, y, hcs, v, hv, x, hx, hupper⟩ :=
        afterWords?_last (hwords ws hws).1 (hwords ws hws).2 hrest
      refine ⟨ys, y, hcs, Bool.eq_false_iff.2 fun hsep => ?_⟩
      exact (separator_endsWord y hsep ws hws v hv).2 x hx hupper
    · cases hfound
  · cases hfound

/-- How a piece `p` with the characters `a :: xs` ends: after the first character it does not end
with a separator, and a blank or a semicolon is a piece by itself. -/
structure Ends (a : Char) (xs : List Char) (p : Piece) : Prop where
  last : ∀ c ∈ xs.getLast?, isSeparator c = false
  blank : ∀ breaks, p = .blank breaks → isBlank a = true ∧ xs = []
  semicolon : ∀ key, p = .token .symbol ";" key → a = ';' ∧ xs = []

theorem Ends.of_forall (h : ∀ c ∈ xs, isSeparator c = false) (hblank : ∀ b, p ≠ .blank b)
    (hkind : ∀ key, p ≠ .token .symbol ";" key) : Ends a xs p :=
  ⟨fun c hc => h c (List.mem_of_getLast? hc), fun b hp => absurd hp (hblank b),
    fun key hp => absurd hp (hkind key)⟩

theorem Ends.of_nil (h : xs ++ r = r) (hblank : ∀ b, p = .blank b → isBlank a = true)
    (hkind : ∀ key, p = .token .symbol ";" key → a = ';') : Ends a xs p := by
  obtain rfl : xs = [] := List.append_left_eq_self.1 h
  exact ⟨by simp, fun b hp => ⟨hblank b hp, rfl⟩, fun key hp => ⟨hkind key hp, rfl⟩⟩

theorem numeral_ends (h : numeral standard a (xs ++ r) = (p, r)) : Ends a xs p := by
  have hbases : standard.stringTags.contains 'x' = false := by decide
  have hnames : standard.digitNames = false := rfl
  unfold numeral at h
  simp only [hbases, hnames, Bool.false_and, Bool.false_eq_true, if_false] at h
  split at h
  · obtain ⟨rfl, hrest⟩ := Prod.mk.inj h
    exact .of_nil hrest (by simp) (by simp)
  · obtain ⟨rfl, hrest⟩ := Prod.mk.inj h
    have hsplit : (number standard false 0 (a :: (xs ++ r))).1 = a :: xs := by
      have happend : (number standard false 0 (a :: (xs ++ r))).1 ++
          (number standard false 0 (a :: (xs ++ r))).2 = a :: (xs ++ r) := number_append_eq
      rw [hrest, ← List.cons_append] at happend
      exact List.append_cancel_right happend
    refine .of_forall (fun c hc => ?_) (by simp) (by simp)
    have hmem : c ∈ (number standard false 0 (a :: (xs ++ r))).1 := by
      rw [hsplit]
      exact List.mem_cons_of_mem a hc
    exact not_separator_of_mem_number hmem

theorem quotedPiece?_ends {q : Quoting} (hq : q.Doubles) {kind : TokenKind} (hkind : kind ≠ .symbol)
    (h : quotedPiece? q kind (xs ++ r) = some (p, r)) (ys : List Char) : Ends a (ys ++ xs) p := by
  obtain ⟨⟨text, rest⟩, htext, heq⟩ := Option.map_eq_some_iff.mp h
  obtain ⟨rfl, rfl⟩ := Prod.mk.inj heq
  refine ⟨fun c hc => ?_, by simp, fun key hp => absurd (Piece.token.inj hp).1 hkind⟩
  rw [List.getLast?_append, getLast?_of_quoted? hq htext] at hc
  obtain rfl : q.close = c := by simpa using hc
  exact hq.close

theorem symbol_ne_semicolon : ∀ o ∈ standard.operators, o ≠ ";" := by decide

theorem markOrWord_ends (h : markOrWord standard a (xs ++ r) = (p, r)) : Ends a xs p := by
  have hhash : (a == '#' && standard.lineComments.contains "#") = false := by
    rw [show standard.lineComments.contains "#" = false by decide, Bool.and_false]
  unfold markOrWord at h
  rw [hhash, if_neg Bool.false_ne_true] at h
  split at h
  · obtain ⟨rfl, hrest⟩ := Prod.mk.inj h
    refine .of_nil hrest (by simp [symbol]) fun key hp => ?_
    have htext := congrArg String.toList (Piece.token.inj hp).2.1
    simpa using htext
  · cases hfound : phrase? standard (a :: (xs ++ r)) with
    | some q =>
      rw [hfound] at h
      obtain ⟨rfl, hrest⟩ := Prod.mk.inj h
      obtain ⟨ys, y, hcs, hy⟩ := phrase?_last (w := q.1) (r := r) (by rw [hfound, ← hrest])
      refine ⟨fun c hc => ?_, by simp, by simp⟩
      have hsource : a :: xs = ys ++ [y] := by
        have happend : (a :: xs) ++ r = (ys ++ [y]) ++ r := by simpa using hcs
        exact List.append_cancel_right happend
      have hlast : (a :: xs).getLast? = some y := by rw [hsource, List.getLast?_concat]
      cases xs with
      | nil => cases hc
      | cons x xs =>
        rw [List.getLast?_cons_cons] at hlast
        obtain rfl : y = c := by simpa [hlast] using hc
        exact hy
    | none =>
      rw [hfound] at h
      obtain ⟨rfl, hrest⟩ := Prod.mk.inj h
      have hself : Continues r r := fun x hx => .inr ⟨hx, fun y hy => .inr hy⟩
      obtain ⟨-, -, htake⟩ := hself.takeWhile separator_not_inWord hrest
      refine .of_forall (fun c hc => Bool.eq_false_iff.2 fun hsep => ?_) (by simp) (by simp)
      rw [← htake] at hc
      have hword := List.mem_takeWhile_imp hc
      rw [separator_not_inWord c hsep] at hword
      cases hword

theorem marked?_ends (h : marked? standard a (xs ++ r) = some (p, r))
    (hcomment : p.isComment = false) : Ends a xs p := by
  have hdollar (cs : List Char) :
      (if (standard.dollarQuotes && a == '$') = true then dollarTag? cs else none) = none := rfl
  unfold marked? at h
  rw [hdollar] at h
  split at h
  · rw [comment_of_markedComment? h] at hcomment
    cases hcomment
  · next ho =>
    obtain ⟨rfl, hrest⟩ := Prod.mk.inj (Option.some.inj h)
    have hmem := List.mem_of_find?_eq_some ho
    have hequal := operator_eq_source (List.find?_eq_some_iff_append.1 ho).1 hrest
    refine .of_forall (fun c hc => ?_) (by simp [symbol]) fun key hp => ?_
    · refine not_separator_of_mem_operator _ hmem c ?_
      rw [hequal]
      exact List.mem_cons_of_mem a hc
    · exact symbol_ne_semicolon _ hmem (Piece.token.inj hp).2.1
  · next htag => cases htag
  · exact markOrWord_ends (Option.some.inj h)

theorem piece?_ends (h : piece? standard a (xs ++ r) = some (p, r))
    (hcomment : p.isComment = false) : Ends a xs p := by
  unfold piece? at h
  split at h
  · next hblank =>
    obtain ⟨rfl, hrest⟩ := Prod.mk.inj (Option.some.inj h)
    exact .of_nil hrest (fun _ _ => hblank) (by simp)
  · split at h
    · exact numeral_ends (Option.some.inj h)
    · split at h
      · next hname => exact quotedPiece?_ends (doubles_nameQuoting hname) (by decide) h []
      · split at h
        · next hstring => exact quotedPiece?_ends (doubles_stringQuoting hstring) (by decide) h []
        · split at h
          · next htag =>
            cases xs with
            | nil => exact absurd h quotedPiece?_drop_ne
            | cons q xs =>
              have hq : standard.stringQuotes.contains q = true := (Bool.and_eq_true_iff.1 htag).2
              exact quotedPiece?_ends (doubles_stringQuoting hq) (by simp) h [q]
          · split at h
            · obtain ⟨rfl, -⟩ := Prod.mk.inj (Option.some.inj h)
              cases hcomment
            · exact marked?_ends h hcomment

/-! ## Separators at the end of a text -/

section

variable (he : ∀ c ∈ e, isSeparator c = true)
include he

theorem afterWord?_append_separators {w : List Char}
    (hw : ∀ c, isSeparator c = true → ∀ x ∈ w, Text.upperChar c ≠ [x]) (ys : List Char) :
    afterWord? w (ys ++ e) = (afterWord? w ys).map (· ++ e) := by
  induction w generalizing ys with
  | nil => simp [afterWord?]
  | cons x w ih =>
    have ih := ih fun c hc x hx => hw c hc x (List.mem_cons_of_mem _ hx)
    cases ys with
    | cons y ys =>
      simp only [List.cons_append, afterWord?]
      split
      · exact ih ys
      · rfl
    | nil =>
      cases e with
      | nil => rfl
      | cons b e =>
        have hne : (Text.upperChar b == [x]) = false :=
          beq_false_of_ne (hw b (he b (by simp)) x (by simp))
        simp [afterWord?, hne]

/-- No keyword begins with separators. -/
theorem afterWords?_separators {w : String} {ws : List String}
    (hw : ∀ c, isSeparator c = true → EndsWord c w.toList) : afterWords? (w :: ws) e = none := by
  refine afterWords?_eq_none ?_
  have hnone := afterWord?_append_separators he (fun c hc => (hw c hc).2) []
  rw [List.nil_append] at hnone
  rw [hnone]
  cases hchars : w.toList with
  | nil => exact absurd hchars (hw ' ' (by decide)).1
  | cons x xs => rfl

theorem afterWords?_append_separators {ws : List String}
    (hw : ∀ w ∈ ws, ∀ c, isSeparator c = true → EndsWord c w.toList) (ys : List Char) :
    afterWords? ws (ys ++ e) = (afterWords? ws ys).map (· ++ e) := by
  induction ws generalizing ys with
  | nil => rfl
  | cons w ws ih =>
    have hfirst := afterWord?_append_separators he (fun c hc => (hw w (by simp) c hc).2) ys
    cases ws with
    | nil => exact hfirst
    | cons v ws =>
      have ih := ih fun u hu => hw u (List.mem_cons_of_mem w hu)
      have hv := hw v (by simp)
      have hnone {e' : List Char} (he' : e' <:+ e) : afterWords? (v :: ws) e' = none :=
        afterWords?_separators (fun c hc => he c (he'.mem hc)) hv
      simp only [afterWords?, hfirst]
      cases hys : afterWord? w.toList ys with
      | none => rfl
      | some t =>
        simp only [Option.map_some]
        cases t with
        | nil =>
          -- Nothing but separators follows the first word.
          cases e with
          | nil => rfl
          | cons b e =>
            simp only [List.nil_append]
            split
            · exact hnone ((List.dropWhile_suffix _).trans (List.suffix_cons b e))
            · rfl
        | cons b t =>
          simp only [List.cons_append]
          split
          · by_cases hblank : t.dropWhile isBlank = []
            · have hall := List.dropWhile_eq_nil_iff.1 hblank
              rw [List.dropWhile_append_of_pos hall, hblank, hnone (List.dropWhile_suffix _),
                afterWords?_nil (hv ' ' (by decide)).1]
              rfl
            · rw [List.dropWhile_append, if_neg (by simpa using hblank)]
              exact ih _
          · rfl

/-- The keywords of several words at the beginning of a text are the same without the separators at
its end. -/
theorem phrase?_append_separators (ys : List Char) :
    phrase? standard (ys ++ e) = (phrase? standard ys).map fun q => (q.1, q.2 ++ e) := by
  have hmark : ∀ c, isSeparator c = true → (isBlank c || standard.isMark c) = true :=
    forall_separator (by decide)
  have hends := separator_endsWord
  unfold phrase?
  rw [List.map_findSome?]
  generalize standard.phrases ++ Vocabulary.phrases = phrases at hends ⊢
  induction phrases with
  | nil => rfl
  | cons ws phrases ih =>
    have ih := ih fun c hc vs hvs => hends c hc vs (List.mem_cons_of_mem ws hvs)
    have hafter := afterWords?_append_separators he
      (fun w hw c hc => hends c hc ws List.mem_cons_self w hw) ys
    rw [List.findSome?_cons, List.findSome?_cons, ih]
    simp only [Function.comp_apply, hafter]
    cases afterWords? ws ys with
    | none => rfl
    | some rest =>
      have hhead : ((rest ++ e).head?.all fun c => isBlank c || standard.isMark c) =
          rest.head?.all fun c => isBlank c || standard.isMark c := by
        cases rest with
        | cons x rest => rfl
        | nil =>
          cases e with
          | nil => rfl
          | cons b e => exact hmark b (he b (by simp))
      simp only [Option.map_some, hhead]
      cases rest.head?.all fun c => isBlank c || standard.isMark c <;> rfl

end

/-! ## A piece takes a character -/

theorem numeral_suffix_tail (ha : isDigit a = true) (h : numeral standard a cs = (p, r)) :
    r <:+ cs := by
  have hnumber : (number standard false 0 (a :: cs)).2 <:+ cs := by
    rw [number, if_pos ha]
    exact number_suffix
  simp only [numeral] at h
  split at h
  · split at h
    · obtain ⟨-, rfl⟩ := Prod.mk.inj h
      exact List.dropWhile_suffix _
    · obtain ⟨-, rfl⟩ := Prod.mk.inj h
      exact List.suffix_rfl
  · split at h
    · obtain ⟨-, rfl⟩ := Prod.mk.inj h
      exact (List.dropWhile_suffix _).trans hnumber
    · obtain ⟨-, rfl⟩ := Prod.mk.inj h
      exact hnumber

theorem markOrWord_suffix_tail (h : markOrWord standard a cs = (p, r)) : r <:+ cs := by
  simp only [markOrWord] at h
  split at h
  · exact lineComment_suffix h
  · split at h
    · obtain ⟨-, rfl⟩ := Prod.mk.inj h
      exact List.suffix_rfl
    · split at h
      · next hphrase =>
        obtain ⟨-, rfl⟩ := Prod.mk.inj h
        obtain ⟨ys, y, hcs, -⟩ := phrase?_last hphrase
        cases ys with
        | nil => exact (List.cons.inj hcs).2 ▸ List.suffix_rfl
        | cons b ys =>
          rw [(List.cons.inj hcs).2]
          exact (List.suffix_cons y _).trans (List.suffix_append ys _)
      · obtain ⟨-, rfl⟩ := Prod.mk.inj h
        exact List.dropWhile_suffix _

theorem marked?_suffix_tail (h : marked? standard a cs = some (p, r)) : r <:+ cs := by
  have hdrop (n : Nat) (hn : 0 < n) : (a :: cs).drop n <:+ cs := by
    obtain ⟨m, rfl⟩ := Nat.exists_eq_succ_of_ne_zero hn.ne'
    exact List.drop_suffix m cs
  simp only [marked?] at h
  split at h
  · next hm =>
    obtain ⟨⟨text, rest⟩, htext, heq⟩ := Option.map_eq_some_iff.mp h
    obtain ⟨-, rfl⟩ := Prod.mk.inj heq
    have hne := opening_ne_nil _ (List.mem_of_find?_eq_some hm)
    exact (commentBody?_suffix htext).trans (hdrop _ (List.length_pos_iff.2 hne))
  · next ho =>
    obtain ⟨-, rfl⟩ := Prod.mk.inj (Option.some.inj h)
    have hne := operator_ne_nil _ (List.mem_of_find?_eq_some ho)
    refine hdrop _ ?_
    rw [← String.length_toList]
    exact List.length_pos_iff.2 hne
  · next htag => cases htag
  · exact markOrWord_suffix_tail (Option.some.inj h)

/-- Every piece takes the first character of the text. -/
theorem piece?_suffix_tail (h : piece? standard a cs = some (p, r)) : r <:+ cs := by
  simp only [piece?] at h
  split at h
  · obtain ⟨-, rfl⟩ := Prod.mk.inj (Option.some.inj h)
    exact List.suffix_rfl
  · split at h
    · next hdigit => exact numeral_suffix_tail hdigit (Option.some.inj h)
    · split at h
      · exact quotedPiece?_suffix h
      · split at h
        · exact quotedPiece?_suffix h
        · split at h
          · exact (quotedPiece?_suffix h).trans (List.drop_suffix _ _)
          · split at h
            · exact (lineComment_suffix (Option.some.inj h)).trans (List.drop_suffix _ _)
            · exact marked?_suffix_tail h

/-! ## Pieces of a text without comments -/

/-- The text is cut into the pieces, none of them a comment. -/
inductive Cuts : List Char → List Piece → Prop
  | nil : Cuts [] []
  | cons {a : Char} {xs rest : List Char} {p : Piece} {ps : List Piece}
      (head : piece? standard a (xs ++ rest) = some (p, rest)) (comment : p.isComment = false)
      (tail : Cuts rest ps) : Cuts (a :: (xs ++ rest)) (p :: ps)

/-- The tokens of pieces without comments. -/
def tokensOf (ps : List Piece) : List Token := ps.filterMap (Piece.token? standard none)

/-- No token begins a statement that is kept as plain text, after a token with the key `last`. -/
def NonePlain : Option String → List Token → Prop
  | _, [] => True
  | last, t :: ts => beginsPlain last t = false ∧ NonePlain (some t.key) ts

@[simp] theorem tokensOf_nil : tokensOf [] = [] := rfl

theorem tokensOf_cons : tokensOf (p :: ps) = (p.token? standard none).toList ++ tokensOf ps := by
  unfold tokensOf
  rw [List.filterMap_cons]
  cases p.token? standard none <;> rfl

theorem tokensOf_append {qs : List Piece} : tokensOf (ps ++ qs) = tokensOf ps ++ tokensOf qs :=
  List.filterMap_append

/-- Only a hint depends on the token before it. -/
theorem token?_eq_of_isComment (h : p.isComment = false) (last : Option String) :
    p.token? standard last = p.token? standard none := by
  cases p with
  | hint s => cases h
  | _ => rfl

theorem NonePlain.of_append {last : Option String} {ts us : List Token}
    (h : NonePlain last (ts ++ us)) : NonePlain last ts := by
  induction ts generalizing last with
  | nil => trivial
  | cons t ts ih => exact ⟨h.1, ih h.2⟩

theorem NonePlain.toList_append {last : Option String} {t : Option Token} {ts : List Token} :
    NonePlain last (t.toList ++ ts) ↔
      (∀ u ∈ t, beginsPlain last u = false) ∧ NonePlain ((t.map Token.key).or last) ts := by
  cases t with
  | none => simp
  | some t => simp [NonePlain]

/-- A text without comments is read as the tokens of its pieces. -/
theorem reads_of_cuts {ts : List Token} (h : Cuts text ps)
    (hplain : NonePlain (lastKey ts) (tokensOf ps)) :
    Reads standard ts text (ts ++ tokensOf ps) [] := by
  induction h generalizing ts with
  | nil => exact fun c hc => ⟨0, c, rfl, by simpa using hc, Nat.le_refl _⟩
  | @cons a xs rest p ps hp hcomment htail ih =>
    have htoken := token?_eq_of_isComment hcomment (lastKey ts)
    rw [tokensOf_cons, NonePlain.toList_append] at hplain
    obtain ⟨hfirst, hrest⟩ := hplain
    rw [← htoken] at hfirst hrest
    have hread := reads_piece hp (by simp) hfirst
    rw [← lastKey_append] at hrest
    have hreads := hread.trans (ih hrest)
    rwa [List.append_assoc, htoken, ← tokensOf_cons] at hreads

/-! ## Blanks and separators around a text -/

def separatorPiece (c : Char) : Piece :=
  if isBlank c then .blank (isBreak c) else symbol (String.singleton c)

theorem Cuts.of_separator (hc : isSeparator c = true) (h : Cuts (c :: cs) ps) :
    ∃ qs, ps = separatorPiece c :: qs ∧ Cuts cs qs := by
  generalize htext : c :: cs = text at h
  cases h with
  | nil => cases htext
  | @cons a xs rest p ps hp hcomment htail =>
    obtain ⟨rfl, rfl⟩ := List.cons.inj htext
    rw [piece?_separator hc] at hp
    obtain ⟨rfl, hrest⟩ := Prod.mk.inj (Option.some.inj hp)
    rw [hrest]
    exact ⟨ps, rfl, htail⟩

/-- Blanks at the beginning of a text are no tokens. -/
theorem Cuts.of_blanks {blanks : List Char} (hb : ∀ c ∈ blanks, isBlank c = true)
    (h : Cuts (blanks ++ text) ps) : ∃ qs, Cuts text qs ∧ tokensOf qs = tokensOf ps := by
  induction blanks generalizing ps with
  | nil => exact ⟨ps, h, rfl⟩
  | cons b blanks ih =>
    have hblank := hb b (by simp)
    have hseparator : isSeparator b = true := by rw [isSeparator, hblank, Bool.true_or]
    obtain ⟨qs, rfl, hqs⟩ := Cuts.of_separator hseparator h
    obtain ⟨rs, hrs, htokens⟩ := ih (fun c hc => hb c (by simp [hc])) hqs
    refine ⟨rs, hrs, ?_⟩
    rw [htokens, tokensOf_cons, separatorPiece, if_pos hblank]
    rfl

theorem continues_append : Continues (t ++ e) t := by
  intro x hx
  cases t with
  | nil => cases hx
  | cons y t =>
    refine .inr ⟨hx, fun z hz => .inr ?_⟩
    cases t with
    | nil => cases hz
    | cons w t => exact hz

theorem samePhrase_append (he : ∀ c ∈ e, isSeparator c = true) : SamePhrase text (t ++ e) t := by
  have hphrase := phrase?_append_separators he (text ++ t)
  rw [List.append_assoc] at hphrase
  refine ⟨fun w hw => ?_, fun hnone => ?_⟩
  · rw [hphrase] at hw
    obtain ⟨⟨v, rest⟩, hq, heq⟩ := Option.map_eq_some_iff.1 hw
    obtain ⟨rfl, hrest⟩ := Prod.mk.inj heq
    obtain rfl := List.append_cancel_right hrest
    exact hq
  · rwa [hphrase, Option.map_eq_none_iff] at hnone

/-- A text is cut in the same way with and without separators after it. -/
theorem Cuts.split (he : ∀ c ∈ e, isSeparator c = true) (h : Cuts (t ++ e) ps) :
    ∃ qs rs, ps = qs ++ rs ∧ Cuts t qs ∧ Cuts e rs := by
  generalize htext : t ++ e = text at h
  induction h generalizing t with
  | nil =>
    obtain ⟨rfl, rfl⟩ := List.append_eq_nil_iff.1 htext
    exact ⟨[], [], rfl, .nil, .nil⟩
  | @cons a xs rest p ps hp hcomment htail ih =>
    cases t with
    | nil =>
      obtain rfl : e = a :: (xs ++ rest) := htext
      exact ⟨[], p :: ps, rfl, .nil, .cons hp hcomment htail⟩
    | cons b t =>
      obtain ⟨rfl, hsource⟩ := List.cons.inj htext
      -- The piece ends inside the text: reaching over its end, it would end with a separator.
      obtain ⟨s, rfl, rfl⟩ : ∃ s, t = xs ++ s ∧ rest = s ++ e := by
        obtain ⟨beyond, hxs, hbeyond⟩ | ⟨s, ht, hrest⟩ := List.append_eq_append_iff.1 hsource
        · cases hlast : beyond.getLast? with
          | none =>
            obtain rfl := List.getLast?_eq_none_iff.1 hlast
            exact ⟨[], by simpa using hxs.symm, by simpa using hbeyond.symm⟩
          | some c =>
            have hmem : c ∈ e := by
              rw [hbeyond]
              exact List.mem_append_left rest (List.mem_of_getLast? hlast)
            have hends := (piece?_ends hp hcomment).last c (by simp [hxs, hlast])
            rw [he c hmem] at hends
            cases hends
        · exact ⟨s, ht, hrest⟩
      obtain ⟨qs, rs, rfl, hqs, hrs⟩ := ih rfl
      have hpiece := piece?_local hp hcomment continues_append (samePhrase_append he)
      exact ⟨p :: qs, rs, rfl, .cons hpiece hcomment hqs, hrs⟩

/-- Trimming a text keeps its tokens. -/
theorem Cuts.trim (h : Cuts text ps) :
    ∃ qs, Cuts (Text.trim text) qs ∧ tokensOf qs = tokensOf ps := by
  have hleft (cs : List Char) : ∀ c ∈ cs.takeWhile isBlank, isBlank c = true :=
    fun c hc => List.mem_takeWhile_imp hc
  rw [← List.takeWhile_append_dropWhile (p := isBlank) (l := text)] at h
  obtain ⟨qs, hqs, htokens⟩ := h.of_blanks (hleft text)
  generalize hbody : text.dropWhile isBlank = body at hqs
  -- The blanks at the end are the first ones of the text backwards.
  have hright : ∀ c ∈ (body.reverse.takeWhile isBlank).reverse, isBlank c = true :=
    fun c hc => hleft _ c (List.mem_reverse.1 hc)
  have hsplit : Text.trimRight body ++ (body.reverse.takeWhile isBlank).reverse = body := by
    rw [Text.trimRight, ← List.reverse_append, List.takeWhile_append_dropWhile,
      List.reverse_reverse]
  rw [← hsplit] at hqs
  obtain ⟨rs, ss, rfl, hrs, hss⟩ :=
    hqs.split fun c hc => by rw [isSeparator, hright c hc, Bool.true_or]
  rw [← List.append_nil (body.reverse.takeWhile isBlank).reverse] at hss
  obtain ⟨us, hus, hblanks⟩ := hss.of_blanks hright
  generalize hnil : [] = rest at hus
  cases hus with
  | cons => cases hnil
  | nil =>
    refine ⟨rs, by rwa [Text.trim, hbody], ?_⟩
    rw [← htokens, tokensOf_append, ← hblanks, tokensOf_nil, List.append_nil]

/-! ## The last token -/

def isSemicolon (t : Token) : Bool := t.kind == .symbol && t.text == ";"

/-- The tokens without one semicolon at their end. -/
def withoutFinal (ts : List Token) : List Token :=
  if ts.getLast?.any isSemicolon then ts.dropLast else ts

theorem Cuts.exists_last (h : Cuts text ps) (htext : text ≠ []) :
    ∃ ys a xs qs p, text = ys ++ a :: xs ∧ ps = qs ++ [p] ∧ Ends a xs p ∧ p.isComment = false := by
  induction h with
  | nil => exact absurd rfl htext
  | @cons a xs rest p ps hp hcomment htail ih =>
    by_cases hrest : rest = []
    · subst hrest
      generalize hnil : [] = rest at htail
      cases htail with
      | cons => cases hnil
      | nil => exact ⟨[], a, xs, [], p, by simp, rfl, piece?_ends hp hcomment, hcomment⟩
    · obtain ⟨ys, b, zs, qs, q, rfl, rfl, hends, hq⟩ := ih hrest
      exact ⟨a :: (xs ++ ys), b, zs, p :: qs, q, by simp, rfl, hends, hq⟩

/-- A text that ends with neither a blank nor a semicolon has no semicolon as its last token. -/
theorem Cuts.withoutFinal_eq (h : Cuts text ps) (hlast : ∀ c ∈ text.getLast?, isBlank c = false)
    (hfinal : text.getLast? ≠ some ';') : withoutFinal (tokensOf ps) = tokensOf ps := by
  refine if_neg ?_
  by_cases htext : text = []
  · subst htext
    generalize hnil : [] = rest at h
    cases h with
    | cons => cases hnil
    | nil => simp
  · obtain ⟨ys, a, xs, qs, p, rfl, rfl, hends, hcomment⟩ := h.exists_last htext
    -- The last character belongs to the last piece.
    have hchar (hxs : xs = []) : (ys ++ a :: xs).getLast? = some a := by
      rw [hxs, List.getLast?_concat]
    rw [tokensOf_append, tokensOf_cons, tokensOf_nil, List.append_nil]
    cases p with
    | comment => cases hcomment
    | hint => cases hcomment
    | blank breaks =>
      obtain ⟨hblank, hxs⟩ := hends.blank breaks rfl
      rw [hlast a (hchar hxs)] at hblank
      cases hblank
    | word s => simp [Piece.token?, isSemicolon]
    | token kind s key =>
      simp only [Piece.token?, Option.toList_some, List.getLast?_concat, Option.any_some,
        isSemicolon, Bool.and_eq_true, beq_iff_eq]
      rintro ⟨rfl, rfl⟩
      obtain ⟨rfl, hxs⟩ := hends.semicolon key rfl
      exact hfinal (hchar hxs)

/-- A semicolon at the end of a text is its last token. -/
theorem Cuts.of_semicolon (h : Cuts (t ++ [';']) ps) :
    ∃ qs, Cuts t qs ∧ withoutFinal (tokensOf ps) = tokensOf qs ∧
      ∃ ts, tokensOf ps = tokensOf qs ++ ts := by
  have hsemicolon : isSeparator ';' = true := by decide
  obtain ⟨qs, rs, rfl, hqs, hrs⟩ := h.split fun c hc => by
    rw [List.mem_singleton.1 hc]
    exact hsemicolon
  obtain ⟨ss, rfl, hss⟩ := Cuts.of_separator hsemicolon hrs
  generalize hnil : [] = rest at hss
  cases hss with
  | cons => cases hnil
  | nil =>
    refine ⟨qs, hqs, ?_, _, tokensOf_append⟩
    have hlast :
        tokensOf [separatorPiece ';'] = [{ kind := .symbol, text := ";", key := ";" }] := by
      decide
    rw [tokensOf_append, hlast, withoutFinal, List.getLast?_concat, if_pos (by decide),
      List.dropLast_concat]

end SemanticLayer.Sql.Lexer
