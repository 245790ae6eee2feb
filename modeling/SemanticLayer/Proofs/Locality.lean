import Mathlib.Data.Bool.AllAny
import Mathlib.Data.List.Infix
import SemanticLayer.Proofs.Piece

/-!
# What a piece of text depends on

A *separator* is a blank, a comma, a semicolon, a parenthesis or a bracket: a piece of its own that
ends the piece before it. In the neutral grammar a piece depends on the characters that it takes and
on the next two, and of these only on what they are if they are no separators. So a piece stays the
same if what follows it is replaced by something that begins with a separator, or by something that
begins in the same way (`piece?_local`).

Keywords of several words are the exception: a keyword looks over blanks for its next word. That
they stay the same is a condition of its own (`SamePhrase`).
-/

namespace SemanticLayer.Sql.Lexer

open SemanticLayer.Text (isBlank isDigit)
open SemanticLayer.Sql.Grammar (standard)

variable {a c : Char} {xs r r' o src cs : List Char} {p : Piece}

/-! ## Separators -/

def separatorMarks : List Char := [',', ';', '(', ')', '[', ']']

/-- A character that is a piece of its own and ends the piece before it. -/
def isSeparator (c : Char) : Bool := isBlank c || separatorMarks.contains c

/-- All separators. -/
def separatorList : List Char :=
  (Text.blankRanges.flatMap fun range =>
    (List.range' range.1 (range.2 + 1 - range.1)).map Char.ofNat) ++ separatorMarks

theorem mem_separatorList (h : isSeparator c = true) : c ∈ separatorList := by
  rcases Bool.or_eq_true_iff.1 h with hblank | hmark
  · obtain ⟨range, hrange, hfirst, hlast⟩ := Text.inRanges_iff.1 hblank
    refine List.mem_append_left _ (List.mem_flatMap.2 ⟨range, hrange, List.mem_map.2 ?_⟩)
    exact ⟨c.toNat, List.mem_range'_1.2 ⟨hfirst, by omega⟩, Char.ofNat_toNat c⟩
  · exact List.mem_append_right _ (List.contains_iff_mem.1 hmark)

/-- What is so for each separator in the list is so for every separator. -/
theorem forall_separator {P : Char → Prop} [DecidablePred P]
    (h : (separatorList.all fun c => decide (P c)) = true) : ∀ c, isSeparator c = true → P c :=
  fun c hc => List.all_iff_forall_prop.1 h c (mem_separatorList hc)

/-- A separator is in no number, word or quoted text, and opens none. -/
theorem separator_apart : ∀ c, isSeparator c = true →
    isDigit c = false ∧ c ∉ ['.', '-', '+', 'e', 'E', '_'] ∧ inWord standard c = false ∧
      c ∉ ['\x22', '\x27'] :=
  forall_separator (by decide)

/-- A separator is in no operator and opens no comment. -/
theorem separator_not_mem_mark : ∀ c, isSeparator c = true →
    (∀ o ∈ standard.operators, c ∉ o.toList) ∧ ∀ m ∈ commentMarks standard, c ∉ m.opening :=
  forall_separator (by decide +kernel)

/-- A separator is in no keyword of several words. -/
theorem separator_endsWord : ∀ c, isSeparator c = true →
    ∀ ws ∈ standard.phrases ++ Vocabulary.phrases, ∀ w ∈ ws, EndsWord c w.toList :=
  forall_separator (by decide +kernel)

/-- What holds no separator does not begin with one. -/
theorem isPrefixOf_separator (ho : o ≠ []) (h : a ∉ o) : o.isPrefixOf (a :: cs) = false := by
  cases o with
  | nil => exact absurd rfl ho
  | cons x o =>
    have hne : (x == a) = false := beq_false_of_ne fun heq => h (by simp [heq])
    rw [List.isPrefixOf, hne, Bool.false_and]

theorem opening_ne_nil : ∀ m ∈ commentMarks standard, m.opening ≠ [] := by decide

theorem operator_ne_nil : ∀ o ∈ standard.operators, o.toList ≠ [] := by decide

/-- No comment and no operator begins with a separator. -/
theorem marked?_separator (h : isSeparator a = true) (cs : List Char) :
    marked? standard a cs = some (markOrWord standard a cs) := by
  obtain ⟨hoperator, hcomment⟩ := separator_not_mem_mark a h
  have hnocomment : ((commentMarks standard).find? fun m => m.opening.isPrefixOf (a :: cs)) =
      none := by
    rw [List.find?_eq_none]
    intro m hm
    simp [isPrefixOf_separator (opening_ne_nil m hm) (hcomment m hm)]
  have hnooperator : (standard.operators.find? fun o => o.toList.isPrefixOf (a :: cs)) = none := by
    rw [List.find?_eq_none]
    intro o ho
    simp [isPrefixOf_separator (operator_ne_nil o ho) (hoperator o ho)]
  have hdollar : (if (standard.dollarQuotes && a == '$') = true then dollarTag? cs else none) =
      none := rfl
  rw [marked?, hnocomment, hnooperator, hdollar]

theorem separatorMarks_apart : ∀ c ∈ separatorMarks,
    isBlank c = false ∧ standard.stringTags.contains c = false ∧ c ≠ '-' ∧ c ≠ '#' ∧
      standard.isMark c = true :=
  List.all_iff_forall_prop.1 (by decide)

/-- A separator is a piece by itself. -/
theorem piece?_separator (h : isSeparator a = true) (cs : List Char) :
    piece? standard a cs =
      some (if isBlank a then .blank (isBreak a) else symbol (String.singleton a), cs) := by
  unfold piece?
  by_cases hblank : isBlank a = true
  · rw [if_pos hblank, if_pos hblank]
  · have hmark : a ∈ separatorMarks := by
      have hor := Bool.or_eq_true_iff.1 h
      simpa using hor.resolve_left hblank
    obtain ⟨-, htags, hdash, hhash, hisMark⟩ := separatorMarks_apart a hmark
    obtain ⟨hdigit, -, -, hquotes⟩ := separator_apart a h
    have hname : standard.nameQuotes.contains a = false := by
      simpa [standard] using fun heq => hquotes (by simp [heq])
    have hstring : standard.stringQuotes.contains a = false := by
      simpa [standard] using fun heq => hquotes (by simp [heq])
    have hline : ['-', '-'].isPrefixOf (a :: cs) = false :=
      isPrefixOf_separator (by decide) (by simp [hdash])
    have hword : markOrWord standard a cs = (symbol (String.singleton a), cs) := by
      rw [markOrWord, if_neg (by simp [hhash]), if_pos hisMark]
    simp only [hblank, hdigit, hname, hstring, htags, hline, marked?_separator h, hword,
      Bool.false_and, if_false, Bool.false_eq_true]

/-! ## What follows a piece -/

/-- What follows a piece in `r'` is a separator or what follows it in `r`, and so is what follows
that. -/
def Continues (r r' : List Char) : Prop :=
  ∀ x ∈ r'.head?, isSeparator x = true ∨ r.head? = some x ∧
    ∀ y ∈ r'.tail.head?, isSeparator y = true ∨ r.tail.head? = some y

/-- What begins the text with `r'` after it, and takes at most two characters of it, begins the text
with `r` after it. -/
theorem Continues.begins (h : Continues r r') (ho : ∀ c ∈ o, isSeparator c = false)
    (hlength : o.length ≤ src.length + 2) (hbegins : o <+: src ++ r') : o <+: src ++ r := by
  rcases Nat.le_total o.length src.length with hle | hle
  · have hsrc : o <+: src :=
      List.prefix_of_prefix_length_le hbegins (List.prefix_append src r') hle
    exact hsrc.trans (List.prefix_append src r)
  · obtain ⟨o', rfl⟩ : src <+: o :=
      List.prefix_of_prefix_length_le (List.prefix_append src r') hbegins hle
    rw [List.prefix_append_right_inj] at hbegins ⊢
    have hshort : o'.length ≤ 2 := by
      rw [List.length_append] at hlength
      omega
    have hplain : ∀ c ∈ o', isSeparator c = false := fun c hc => ho c (List.mem_append_right src hc)
    obtain ⟨t, rfl⟩ := hbegins
    -- At most two characters are left, and none of them is a separator.
    cases o' with
    | nil => exact List.nil_prefix
    | cons x o' =>
      have hx := (h x (by simp)).resolve_left (by simp [hplain x])
      obtain ⟨r1, rfl⟩ : ∃ r1, r = x :: r1 := by
        cases r with
        | nil => simp at hx
        | cons z r1 => exact ⟨r1, by simpa using hx.1⟩
      cases o' with
      | nil => exact ⟨r1, rfl⟩
      | cons y o' =>
        obtain rfl : o' = [] := by
          rw [← List.length_eq_zero_iff]
          simpa using hshort
        have hy := (hx.2 y (by simp)).resolve_left (by simp [hplain y])
        cases r1 with
        | nil => simp at hy
        | cons z r2 =>
          obtain rfl : z = y := by simpa using hy
          exact ⟨r2, rfl⟩

/-- A run of characters that holds no separator ends in the same place. -/
theorem Continues.takeWhile (h : Continues r r') {q : Char → Bool}
    (hq : ∀ c, isSeparator c = true → q c = false) (hdrop : (xs ++ r).dropWhile q = r) :
    (xs ++ r').takeWhile q = xs ∧ (xs ++ r').dropWhile q = r' ∧ (xs ++ r).takeWhile q = xs := by
  have htake : (xs ++ r).takeWhile q = xs := by
    have hsplit := List.takeWhile_append_dropWhile (p := q) (l := xs ++ r)
    rw [hdrop] at hsplit
    exact List.append_cancel_right hsplit
  have hall : ∀ x ∈ xs, q x = true := fun x hx => by
    rw [← htake] at hx
    exact List.mem_takeWhile_imp hx
  have hstop : ∀ x ∈ r'.head?, q x = false := by
    intro x hx
    rcases h x hx with hsep | ⟨hhead, -⟩
    · exact hq x hsep
    · rw [← hdrop] at hhead
      exact Bool.eq_false_iff.2 fun hqx => by
        have := List.head?_dropWhile_not q (xs ++ r)
        simp [hhead, hqx] at this
  have hrest : r'.takeWhile q = [] ∧ r'.dropWhile q = r' := by
    cases r' with
    | nil => exact ⟨rfl, rfl⟩
    | cons x r' =>
      have hx := hstop x rfl
      exact ⟨List.takeWhile_cons_of_neg (by simp [hx]), List.dropWhile_cons_of_neg (by simp [hx])⟩
  refine ⟨?_, ?_, htake⟩
  · rw [List.takeWhile_append_of_pos hall, hrest.1, List.append_nil]
  · rw [List.dropWhile_append_of_pos hall, hrest.2]

/-! ## Numbers -/

/-- Whether a number takes a character, and what it has seen then. It looks ahead only to see
whether a digit follows. -/
def numberTakes? (point : Bool) (exponent : Nat) (c : Char) (digitNext : Bool) :
    Option (Bool × Nat) :=
  if isDigit c then some (point, exponent)
  else if c == '.' && !point then some (true, exponent)
  else if (c == '-' || c == '+') && exponent == 1 && digitNext then some (point, 2)
  else if (c == 'e' || c == 'E') && exponent == 0 then some (point, 1)
  else none

variable {point : Bool} {exponent : Nat} {ds : List Char}

theorem number_of_takes {seen : Bool × Nat}
    (h : numberTakes? point exponent c (cs.head?.any isDigit) = some seen) :
    number standard point exponent (c :: cs) =
      (c :: (number standard seen.1 seen.2 cs).1, (number standard seen.1 seen.2 cs).2) := by
  unfold numberTakes? at h
  rw [number]
  repeat' split at h
  all_goals first | (cases h; simp [*]) | cases h

theorem number_of_not_takes
    (h : numberTakes? point exponent c (cs.head?.any isDigit) = none) :
    number standard point exponent (c :: cs) = ([], c :: cs) := by
  unfold numberTakes? at h
  rw [number]
  repeat' split at h
  all_goals first | (cases h; done) | simp [*, standard]

theorem numberTakes?_digit {next : Bool} (h : isDigit c = true) :
    numberTakes? point exponent c next = some (point, exponent) := if_pos h

theorem numberTakes?_separator {next : Bool} (h : isSeparator c = true) :
    numberTakes? point exponent c next = none := by
  obtain ⟨hdigit, hnumber, -⟩ := separator_apart c h
  simp only [List.mem_cons, List.not_mem_nil, or_false, not_or] at hnumber
  simp [numberTakes?, hdigit, hnumber]

/-- Without a digit after it less is taken. -/
theorem numberTakes?_of_no_digit {next : Bool} (h : numberTakes? point exponent c next = none) :
    numberTakes? point exponent c false = none := by
  unfold numberTakes? at h ⊢
  repeat' split at h
  all_goals first | (cases h; done) | simp [*]

/-- A number that leaves all of a text takes none of it. -/
theorem number_eq_self (h : number standard point exponent r = (ds, r)) :
    ds = [] ∧ ∀ z t, r = z :: t → numberTakes? point exponent z (t.head?.any isDigit) = none := by
  cases r with
  | nil => exact ⟨(Prod.mk.inj h).1.symm, by simp⟩
  | cons z t =>
    cases htakes : numberTakes? point exponent z (t.head?.any isDigit) with
    | none =>
      rw [number_of_not_takes htakes] at h
      refine ⟨(Prod.mk.inj h).1.symm, fun z' t' heq => ?_⟩
      obtain ⟨rfl, rfl⟩ := List.cons.inj heq
      exact htakes
    | some seen =>
      rw [number_of_takes htakes] at h
      have hlength : (number standard seen.1 seen.2 t).2.length ≤ t.length :=
        number_suffix.length_le
      rw [(Prod.mk.inj h).2, List.length_cons] at hlength
      omega

/-- A digit that follows in the other text follows in this one. -/
theorem Continues.head?_any_isDigit (h : Continues r r') (hr : r.head?.any isDigit = false) :
    r'.head?.any isDigit = false := by
  cases r' with
  | nil => rfl
  | cons x t =>
    rcases h x rfl with hsep | ⟨hhead, -⟩
    · exact (separator_apart x hsep).1
    · rw [hhead] at hr
      exact hr

theorem number_local (h : number standard point exponent (xs ++ r) = (ds, r))
    (hc : Continues r r') : number standard point exponent (xs ++ r') = (ds, r') := by
  induction xs generalizing point exponent ds with
  | nil =>
    obtain ⟨rfl, hstop⟩ := number_eq_self h
    cases r' with
    | nil => rfl
    | cons x t =>
      refine number_of_not_takes ?_
      rcases hc x rfl with hsep | ⟨hhead, hnext⟩
      · exact numberTakes?_separator hsep
      · cases r with
        | nil => cases hhead
        | cons z t0 =>
          obtain rfl : z = x := by simpa using hhead
          have hz := hstop z t0 rfl
          cases hdigit : t.head?.any isDigit with
          | false => exact numberTakes?_of_no_digit hz
          | true =>
            -- The digit is no separator, so it follows in both texts.
            cases t with
            | nil => cases hdigit
            | cons y t =>
              have hsep : isSeparator y ≠ true := fun hsep => by
                have hno := (separator_apart y hsep).1
                simp [hno] at hdigit
              have hy : t0.head? = some y := (hnext y rfl).resolve_left hsep
              rwa [hy, Option.any_some, show isDigit y = true by simpa using hdigit] at hz
  | cons x xs ih =>
    cases htakes : numberTakes? point exponent x ((xs ++ r).head?.any isDigit) with
    | none =>
      rw [List.cons_append, number_of_not_takes htakes] at h
      have hlength := congrArg List.length (Prod.mk.inj h).2
      simp at hlength
      omega
    | some seen =>
      rw [List.cons_append, number_of_takes htakes] at h
      obtain ⟨hds, hrest⟩ := Prod.mk.inj h
      have hleft : number standard seen.1 seen.2 (xs ++ r) =
          ((number standard seen.1 seen.2 (xs ++ r)).1, r) := Prod.ext rfl hrest
      have hnumber := ih hleft
      have hsame : (xs ++ r').head?.any isDigit = (xs ++ r).head?.any isDigit := by
        cases xs with
        | cons y xs => rfl
        | nil =>
          -- A digit after a number belongs to the number.
          have hno : r.head?.any isDigit = false := by
            cases r with
            | nil => rfl
            | cons z t =>
              have hz := (number_eq_self hleft).2 z t rfl
              by_contra hdigit
              rw [numberTakes?_digit (by simpa using hdigit)] at hz
              cases hz
          rw [List.nil_append, List.nil_append, hno, hc.head?_any_isDigit hno]
      rw [← hsame] at htakes
      rw [List.cons_append, number_of_takes htakes, hnumber, ← hds]

/-- A character of a class without separators that follows in the other text follows in this one. -/
theorem Continues.head?_any (h : Continues r r') {q : Char → Bool}
    (hq : ∀ c, isSeparator c = true → q c = false) (hr : (xs ++ r).head?.any q = false) :
    (xs ++ r').head?.any q = false := by
  cases xs with
  | cons y xs => exact hr
  | nil =>
    cases r' with
    | nil => rfl
    | cons x t =>
      rcases h x rfl with hsep | ⟨hhead, -⟩
      · exact hq x hsep
      · rwa [List.nil_append, hhead] at hr

theorem separator_not_base : ∀ c, isSeparator c = true → ['b', 'B', 'x', 'X'].contains c = false :=
  forall_separator (by decide)

theorem numeral_local (h : numeral standard a (xs ++ r) = (p, r)) (hc : Continues r r') :
    numeral standard a (xs ++ r') = (p, r') := by
  have hbases : standard.stringTags.contains 'x' = false := by decide
  have hnames : standard.digitNames = false := rfl
  unfold numeral at h ⊢
  simp only [hbases, hnames, Bool.false_and, Bool.false_eq_true, if_false] at h ⊢
  by_cases hbase : (a == '0' && (xs ++ r).head?.any ['b', 'B', 'x', 'X'].contains) = true
  · -- A zero before a base is a number by itself, as it is before a separator.
    rw [if_pos hbase] at h
    obtain ⟨rfl, hrest⟩ := Prod.mk.inj h
    obtain rfl : xs = [] := List.append_left_eq_self.1 hrest
    obtain ⟨hzero, hany⟩ := Bool.and_eq_true_iff.1 hbase
    obtain rfl : a = '0' := by simpa using hzero
    by_cases hbase' : r'.head?.any ['b', 'B', 'x', 'X'].contains = true
    · simp [hbase']
    · have hzero : number standard false 0 (['0'] ++ []) = (['0'], []) := by decide
      have hnumber : number standard false 0 (['0'] ++ r') = (['0'], r') := by
        refine number_local hzero fun x hx => ?_
        refine .inl ((hc x hx).resolve_right fun hhead => hbase' ?_)
        have hr' : r'.head? = some x := hx
        rw [hr', ← hhead.1]
        exact hany
      rw [List.singleton_append] at hnumber
      simp [hbase', hnumber]
  · rw [if_neg hbase] at h
    obtain ⟨rfl, hrest⟩ := Prod.mk.inj h
    have hnumber : number standard false 0 ((a :: xs) ++ r') = (_, r') :=
      number_local (Prod.ext rfl hrest) hc
    have hbase' : ¬ (a == '0' && (xs ++ r').head?.any ['b', 'B', 'x', 'X'].contains) = true := by
      rw [Bool.and_eq_true_iff, not_and] at hbase ⊢
      intro hzero
      have hno := Bool.eq_false_iff.2 (hbase hzero)
      exact Bool.eq_false_iff.1 (hc.head?_any separator_not_base hno)
    rw [if_neg hbase']
    rw [List.cons_append] at hnumber
    rw [hnumber]
    rfl

/-! ## Quoted texts -/

theorem length_of_quoted? {q : Quoting} {text : List Char} (h : quoted? q cs = some (text, r)) :
    r.length < cs.length := by
  fun_induction quoted? q cs generalizing text r with
  | case1 => cases h
  | case2 c hc =>
    obtain ⟨-, rfl⟩ := Prod.mk.inj (Option.some.inj h)
    simp
  | case3 => cases h
  | case4 c d cs u hu _ ih =>
    obtain ⟨⟨body, rest⟩, hbody, heq⟩ := Option.map_eq_some_iff.mp h
    obtain ⟨-, rfl⟩ := Prod.mk.inj heq
    have := ih hbody
    simp only [List.length_cons]
    omega
  | case5 c d cs hu hescape _ ih =>
    obtain ⟨⟨body, rest⟩, hbody, heq⟩ := Option.map_eq_some_iff.mp h
    have hrest : rest = r := by split at heq <;> exact (Prod.mk.inj heq).2
    have := ih hbody
    rw [hrest] at this
    simp only [List.length_cons]
    omega
  | case6 c d cs plain hu hescape =>
    rename_i ih
    replace h : (if c == q.close then some ([], d :: cs)
      else (quoted? q (d :: cs)).map fun r => (c :: r.1, r.2)) = some (text, r) := h
    split at h
    · obtain ⟨-, rfl⟩ := Prod.mk.inj (Option.some.inj h)
      simp
    · obtain ⟨⟨body, rest⟩, hbody, heq⟩ := Option.map_eq_some_iff.mp h
      obtain ⟨-, rfl⟩ := Prod.mk.inj heq
      have := ih hbody
      simp only [List.length_cons] at this ⊢
      omega

/-- A text in quotes leaves less than was there. -/
theorem quotedPiece?_drop_ne {q : Quoting} {kind : TokenKind} :
    quotedPiece? q kind (r.drop 1) ≠ some (p, r) := by
  intro h
  obtain ⟨⟨text, rest⟩, htext, heq⟩ := Option.map_eq_some_iff.mp h
  obtain rfl : rest = r := (Prod.mk.inj heq).2
  have hlength := length_of_quoted? htext
  rw [List.length_drop] at hlength
  omega

/-- Quotes that are doubled inside a text and escaped in no other way. -/
structure Quoting.Doubles (q : Quoting) : Prop where
  backslash : q.backslash = false
  escapes : q.escapes = [q.close]
  close : isSeparator q.close = false

theorem doubles_nameQuoting {q : Char} (h : standard.nameQuotes.contains q = true) :
    (nameQuoting standard q).Doubles := by
  obtain rfl : q = '\x22' := by simpa [standard] using h
  exact ⟨rfl, rfl, by decide⟩

theorem doubles_stringQuoting {q : Char} (h : standard.stringQuotes.contains q = true) :
    (stringQuoting standard q).Doubles := by
  obtain rfl : q = '\x27' := by simpa [standard] using h
  exact ⟨rfl, rfl, by decide⟩

theorem quoted?_cons_cons {q : Quoting} (hq : q.Doubles) {c d : Char} :
    quoted? q (c :: d :: cs) =
      if c = q.close ∧ d = q.close then (quoted? q cs).map fun r => (d :: r.1, r.2)
      else if c = q.close then some ([], d :: cs)
      else (quoted? q (d :: cs)).map fun r => (c :: r.1, r.2) := by
  rw [quoted?, hq.backslash, hq.escapes]
  by_cases hc : c = q.close
  · by_cases hd : d = q.close
    · simp [hc, hd]
    · simp [hc, hd]
  · simp [hc]

/-- A quote that ends a text in quotes is followed by no other one. -/
theorem quoted?_singleton {q : Quoting} (hq : q.Doubles) {text : List Char}
    (h : quoted? q ([c] ++ r) = some (text, r)) :
    c = q.close ∧ text = [] ∧ ∀ d ∈ r.head?, d ≠ q.close := by
  cases r with
  | nil =>
    rw [List.append_nil, quoted?] at h
    split at h
    · next hclose =>
      exact ⟨by simpa using hclose, (Prod.mk.inj (Option.some.inj h)).1.symm, by simp⟩
    · cases h
  | cons d cs =>
    rw [List.cons_append, List.nil_append, quoted?_cons_cons hq] at h
    split at h
    · -- Two quotes would be taken together, and less than the rest left.
      obtain ⟨⟨body, rest⟩, hbody, heq⟩ := Option.map_eq_some_iff.mp h
      obtain rfl : rest = d :: cs := (Prod.mk.inj heq).2
      have hlength := length_of_quoted? hbody
      rw [List.length_cons] at hlength
      omega
    · next hpair =>
      split at h
      · next hclose =>
        refine ⟨hclose, (Prod.mk.inj (Option.some.inj h)).1.symm, ?_⟩
        intro d' hd' hd
        obtain rfl : d = d' := by simpa using hd'
        exact hpair ⟨hclose, hd⟩
      · obtain ⟨⟨body, rest⟩, hbody, heq⟩ := Option.map_eq_some_iff.mp h
        obtain rfl : rest = d :: cs := (Prod.mk.inj heq).2
        exact absurd (length_of_quoted? hbody) (Nat.lt_irrefl _)

theorem quoted?_local {q : Quoting} (hq : q.Doubles) {text : List Char}
    (h : quoted? q (xs ++ r) = some (text, r)) (hc : Continues r r') :
    quoted? q (xs ++ r') = some (text, r') := by
  induction xs using List.twoStepInduction generalizing text with
  | nil => exact absurd (length_of_quoted? h) (Nat.lt_irrefl _)
  | singleton c =>
    obtain ⟨rfl, rfl, hnext⟩ := quoted?_singleton hq h
    cases r' with
    | nil => simp [quoted?]
    | cons x t =>
      have hx : x ≠ q.close := by
        rcases hc x rfl with hsep | ⟨hhead, -⟩
        · rintro rfl
          rw [hq.close] at hsep
          cases hsep
        · exact hnext x hhead
      rw [List.cons_append, List.nil_append, quoted?_cons_cons hq, if_neg (by simp [hx]),
        if_pos rfl]
  | cons_cons c d xs ih ih' =>
    simp only [List.cons_append] at h ⊢
    rw [quoted?_cons_cons hq] at h ⊢
    split at h
    · next hpair =>
      obtain ⟨⟨body, rest⟩, hbody, heq⟩ := Option.map_eq_some_iff.mp h
      obtain ⟨rfl, rfl⟩ := Prod.mk.inj heq
      rw [if_pos hpair, ih hbody, Option.map_some]
    · next hpair =>
      rw [if_neg hpair]
      split at h
      · have hlength := congrArg List.length (Prod.mk.inj (Option.some.inj h)).2
        simp at hlength
        omega
      · next hclose =>
        obtain ⟨⟨body, rest⟩, hbody, heq⟩ := Option.map_eq_some_iff.mp h
        obtain ⟨rfl, rfl⟩ := Prod.mk.inj heq
        have hrest := ih' d hbody
        rw [List.cons_append] at hrest
        rw [if_neg hclose, hrest, Option.map_some]

theorem quotedPiece?_local {q : Quoting} (hq : q.Doubles) {kind : TokenKind}
    (h : quotedPiece? q kind (xs ++ r) = some (p, r)) (hc : Continues r r') :
    quotedPiece? q kind (xs ++ r') = some (p, r') := by
  obtain ⟨⟨text, rest⟩, htext, heq⟩ := Option.map_eq_some_iff.mp h
  obtain ⟨rfl, rfl⟩ := Prod.mk.inj heq
  rw [quotedPiece?, quoted?_local hq htext hc, Option.map_some]

/-! ## Marks and words -/

/-- Whether a piece is a comment. A hint is one, too. -/
def Piece.isComment : Piece → Bool
  | .comment _ => true
  | .hint _ => true
  | _ => false

/-- Whether a text is a keyword of several words, or begins with one, does not change with `r'`
after it instead of `r`. -/
structure SamePhrase (text r r' : List Char) : Prop where
  found : ∀ w, phrase? standard (text ++ r) = some (w, r) →
    phrase? standard (text ++ r') = some (w, r')
  none : phrase? standard (text ++ r) = none → phrase? standard (text ++ r') = none

theorem separator_not_inWord : ∀ c, isSeparator c = true → inWord standard c = false :=
  fun c h => (separator_apart c h).2.2.1

theorem markOrWord_local (h : markOrWord standard a (xs ++ r) = (p, r)) (hc : Continues r r')
    (hphrase : SamePhrase (a :: xs) r r') : markOrWord standard a (xs ++ r') = (p, r') := by
  have hhash : (a == '#' && standard.lineComments.contains "#") = false := by
    rw [show standard.lineComments.contains "#" = false by decide, Bool.and_false]
  obtain ⟨hfound, hnone⟩ := hphrase
  rw [List.cons_append, List.cons_append] at hnone
  simp only [List.cons_append] at hfound
  unfold markOrWord at h ⊢
  rw [hhash, if_neg Bool.false_ne_true] at h ⊢
  by_cases hmark : standard.isMark a = true
  · rw [if_pos hmark] at h ⊢
    obtain ⟨rfl, hrest⟩ := Prod.mk.inj h
    obtain rfl : xs = [] := List.append_left_eq_self.1 hrest
    rfl
  · rw [if_neg hmark] at h ⊢
    cases hphrase : phrase? standard (a :: (xs ++ r)) with
    | some q =>
      rw [hphrase] at h
      obtain ⟨rfl, rfl⟩ := Prod.mk.inj h
      rw [hfound q.1 hphrase]
    | none =>
      rw [hphrase] at h
      obtain ⟨rfl, hrest⟩ := Prod.mk.inj h
      obtain ⟨htake, hdrop, hsame⟩ := hc.takeWhile separator_not_inWord hrest
      simp only [hnone hphrase, htake, hdrop, hsame]

theorem comment_of_markedComment? {m : CommentMarks} (h : markedComment? m cs = some (p, r)) :
    p.isComment = true := by
  obtain ⟨body, -, heq⟩ := Option.map_eq_some_iff.mp h
  rw [← (Prod.mk.inj heq).1]
  split <;> rfl

theorem mark_lengths : (∀ m ∈ commentMarks standard, m.opening.length ≤ 3) ∧
    ∀ o ∈ standard.operators, o.toList.length ≤ 3 := by
  decide

theorem not_separator_of_mem_opening : ∀ m ∈ commentMarks standard, ∀ c ∈ m.opening,
    isSeparator c = false :=
  fun m hm c hc => Bool.eq_false_iff.2 fun hsep => (separator_not_mem_mark c hsep).2 m hm hc

theorem not_separator_of_mem_operator : ∀ o ∈ standard.operators, ∀ c ∈ o.toList,
    isSeparator c = false :=
  fun o ho c hc => Bool.eq_false_iff.2 fun hsep => (separator_not_mem_mark c hsep).1 o ho hc

/-- A mark that does not stand at the beginning of one text does not stand there in the other. -/
theorem Continues.isPrefixOf (hc : Continues r r') (ho : ∀ c ∈ o, isSeparator c = false)
    (hlength : o.length ≤ 3) (h : o.isPrefixOf (a :: (xs ++ r)) = false) :
    o.isPrefixOf (a :: (xs ++ r')) = false := by
  refine Bool.eq_false_iff.2 fun hbegins => Bool.eq_false_iff.1 h ?_
  rw [ List.isPrefixOf_iff_prefix, ← List.cons_append] at hbegins ⊢
  refine hc.begins ho ?_ hbegins
  rw [List.length_cons]
  omega

/-- An operator that leaves `r` is what stands before `r`. -/
theorem operator_eq_source {o : String} (hbegins : o.toList.isPrefixOf (a :: (xs ++ r)) = true)
    (hrest : (a :: (xs ++ r)).drop o.length = r) : o.toList = a :: xs := by
  have hpre := List.isPrefixOf_iff_prefix.1 hbegins
  have hlength : o.toList.length = (a :: xs).length := by
    have hle := hpre.length_le
    have hsum := congrArg List.length hrest
    rw [List.length_drop, ← String.length_toList] at hsum
    simp only [List.length_cons, List.length_append] at hle hsum ⊢
    omega
  rw [← List.cons_append] at hpre
  exact (List.prefix_of_prefix_length_le hpre (List.prefix_append (a :: xs) r)
    hlength.le).eq_of_length hlength

theorem marked?_local (h : marked? standard a (xs ++ r) = some (p, r))
    (hcomment : p.isComment = false) (hc : Continues r r')
    (hphrase : SamePhrase (a :: xs) r r') : marked? standard a (xs ++ r') = some (p, r') := by
  have hdollar (cs : List Char) :
      (if (standard.dollarQuotes && a == '$') = true then dollarTag? cs else none) = none := rfl
  unfold marked? at h ⊢
  rw [hdollar] at h ⊢
  cases hm : (commentMarks standard).find? fun m => m.opening.isPrefixOf (a :: (xs ++ r)) with
  | some m =>
    rw [hm] at h
    rw [comment_of_markedComment? h] at hcomment
    cases hcomment
  | none =>
    have hm' : ((commentMarks standard).find? fun m => m.opening.isPrefixOf (a :: (xs ++ r'))) =
        none := by
      rw [List.find?_eq_none] at hm ⊢
      intro m hmem
      have hno := hc.isPrefixOf (not_separator_of_mem_opening m hmem) (mark_lengths.1 m hmem)
        (Bool.eq_false_iff.2 (hm m hmem))
      simp [hno]
    rw [hm] at h
    rw [hm']
    have hnot (o : String) (ho : o ∈ standard.operators)
        (hno : o.toList.isPrefixOf (a :: (xs ++ r)) = false) :
        o.toList.isPrefixOf (a :: (xs ++ r')) = false :=
      hc.isPrefixOf (not_separator_of_mem_operator o ho) (mark_lengths.2 o ho) hno
    cases ho : standard.operators.find? fun o => o.toList.isPrefixOf (a :: (xs ++ r)) with
    | none =>
      have ho' : (standard.operators.find? fun o => o.toList.isPrefixOf (a :: (xs ++ r'))) =
          none := by
        rw [List.find?_eq_none] at ho ⊢
        exact fun o hmem => Bool.eq_false_iff.1 (hnot o hmem (Bool.eq_false_iff.2 (ho o hmem)))
      rw [ho] at h
      rw [ho']
      exact congrArg some (markOrWord_local (Option.some.inj h) hc hphrase)
    | some o =>
      rw [ho] at h
      obtain ⟨rfl, hrest⟩ := Prod.mk.inj (Option.some.inj h)
      -- The operator is what the piece takes, so it stands in both texts.
      obtain ⟨hbegins, before, after, hsplit, hbefore⟩ := List.find?_eq_some_iff_append.1 ho
      have hequal := operator_eq_source hbegins hrest
      have ho' : (standard.operators.find? fun o => o.toList.isPrefixOf (a :: (xs ++ r'))) =
          some o := by
        rw [List.find?_eq_some_iff_append]
        refine ⟨?_, before, after, hsplit, fun o' hmem => ?_⟩
        · rw [hequal, List.isPrefixOf_iff_prefix, ← List.cons_append]
          exact List.prefix_append _ _
        · have hmem' : o' ∈ standard.operators := by
            rw [hsplit]
            exact List.mem_append_left _ hmem
          rw [hnot o' hmem' ((Bool.not_eq_true' _).mp (hbefore o' hmem))]
          rfl
      rw [ho']
      have hdrop : (a :: (xs ++ r')).drop o.length = r' := by
        rw [← String.length_toList, hequal, ← List.cons_append, List.drop_left]
      exact congrArg (fun t => some (symbol o, t)) hdrop

/-- A piece that is no comment is the same before `r` and before `r'`. -/
theorem piece?_local (h : piece? standard a (xs ++ r) = some (p, r))
    (hcomment : p.isComment = false) (hc : Continues r r')
    (hphrase : SamePhrase (a :: xs) r r') : piece? standard a (xs ++ r') = some (p, r') := by
  have hquote : ∀ c, isSeparator c = true → standard.stringQuotes.contains c = false :=
    forall_separator (by decide)
  unfold piece? at h ⊢
  split at h
  · next hblank =>
    obtain ⟨rfl, hrest⟩ := Prod.mk.inj (Option.some.inj h)
    obtain rfl : xs = [] := List.append_left_eq_self.1 hrest
    rw [if_pos hblank, List.nil_append]
  · next hblank =>
    rw [if_neg hblank]
    split at h
    · next hdigit => rw [if_pos hdigit, numeral_local (Option.some.inj h) hc]
    · next hdigit =>
      rw [if_neg hdigit]
      split at h
      · next hname =>
        rw [if_pos hname]
        exact quotedPiece?_local (doubles_nameQuoting hname) h hc
      · next hname =>
        rw [if_neg hname]
        split at h
        · next hstring =>
          rw [if_pos hstring]
          exact quotedPiece?_local (doubles_stringQuoting hstring) h hc
        · next hstring =>
          rw [if_neg hstring]
          split at h
          · next htag =>
            -- The quote after the letter belongs to the piece.
            cases xs with
            | nil => exact absurd h quotedPiece?_drop_ne
            | cons q xs =>
              rw [if_pos (by simpa using htag)]
              have hq : standard.stringQuotes.contains q = true := (Bool.and_eq_true_iff.1 htag).2
              exact quotedPiece?_local (doubles_stringQuoting hq) h hc
          · next htag =>
            have htag' : ¬ (standard.stringTags.contains a &&
                (xs ++ r').head?.any standard.stringQuotes.contains) = true := by
              rw [Bool.and_eq_true_iff, not_and] at htag ⊢
              intro hletter
              have hno := Bool.eq_false_iff.2 (htag hletter)
              exact Bool.eq_false_iff.1 (hc.head?_any hquote hno)
            rw [if_neg htag']
            split at h
            · next hline =>
              obtain ⟨rfl, -⟩ := Prod.mk.inj (Option.some.inj h)
              cases hcomment
            · next hline =>
              have hdash : ∀ c ∈ ['-', '-'], isSeparator c = false :=
                List.all_iff_forall_prop.1 (by decide)
              have hline' := hc.isPrefixOf hdash (by decide) (Bool.eq_false_iff.2 hline)
              rw [hline', if_neg Bool.false_ne_true]
              exact marked?_local h hcomment hc hphrase

end SemanticLayer.Sql.Lexer
