import Mathlib.Data.Bool.AllAny
import Mathlib.Data.List.Infix
import SemanticLayer.Proofs.Cleaning
import SemanticLayer.Proofs.Model
import SemanticLayer.Schema.Basic

/-!
# The forms of a model

The text of a model is a reference, a SELECT statement or the name of a table. The three forms are
written down here without a look at the reader: `IsReference`, `IsSelect` and `IsTable`. The reader
finds exactly them (`referenced?_eq_some_iff`, `beginsWithSelect_iff`, `isTableName_iff`), a
reference is none of the other two, and `resolve_forms` says what each of them stands for and which
error a text without a form gives.
-/

namespace SemanticLayer

open Text (isBlank trim trimRight)

variable {c x : Char} {cs ds first rest word : List Char} {s : String}

/-! ## Letters of ASCII -/

namespace Text

theorem eq_toNat_of_ofNat {n : Nat} (h : Char.ofNat n = x) (hx : 0 < x.toNat) : n = x.toNat := by
  subst h
  by_cases hn : n.isValidChar
  · have hchar : Char.ofNat n = Char.ofNatAux n hn := dif_pos hn
    rw [hchar]
    rfl
  · have hzero : Char.ofNat n = Char.ofNat 0 := dif_neg hn
    rw [hzero] at hx
    exact absurd hx (by decide)

/-- The long s and the dotless i are the only characters beyond ASCII that have one letter of ASCII
as upper case. -/
theorem shiftCase_upperRuns {n : Nat} (hn : 128 ≤ n) (hx : x.isUpper = true)
    (h : shiftCase upperRuns n = x) : n = 383 ∨ n = 305 := by
  have hcapital := toNat_of_isUpper hx
  unfold shiftCase at h
  split at h
  · next r hr =>
    have hruns : upperRuns.all (fun r => decide (128 ≤ (r.first : Int) + r.offset) ||
        r.first == 383 && r.last == 383 || r.first == 305 && r.last == 305) = true := by
      decide
    have hfar := List.all_eq_true.1 hruns r (List.mem_of_find?_eq_some hr)
    have hholds := List.find?_some hr
    have hcode := eq_toNat_of_ofNat h (by omega)
    simp only [CaseRun.holds, Bool.and_eq_true, Bool.or_eq_true, decide_eq_true_eq,
      beq_iff_eq] at hholds hfar
    omega
  · have := eq_toNat_of_ofNat h (by omega)
    omega

/-- The upper case of a character is one character, unless it is an expansion. -/
theorem upperChar_cases (c : Char) :
    (∃ e ∈ upperExpansions, upperChar c = e.2.map Char.ofNat) ∨ ∃ x, upperChar c = [x] := by
  unfold upperChar
  split_ifs
  · exact .inr ⟨_, rfl⟩
  · split
    · next ns hns =>
      obtain ⟨before, after, htable, -⟩ := List.lookup_eq_some_iff.1 hns
      exact .inl ⟨(c.toNat, ns), by simp [htable], rfl⟩
    · exact .inr ⟨_, rfl⟩

/-- The characters whose upper case is a capital letter of ASCII. -/
theorem eq_of_upperChar (hx : x.isUpper = true) (h : upperChar c = [x]) :
    c.toUpper = x ∨ c = 'ſ' ∨ c = 'ı' := by
  unfold upperChar at h
  split_ifs at h with hascii
  · exact .inl (List.cons.inj h).1
  · split at h
    · next ns hns =>
      obtain ⟨before, after, htable, -⟩ := List.lookup_eq_some_iff.1 hns
      have hlong : upperExpansions.all (fun e => e.2.length != 1) = true := by decide
      have := List.all_eq_true.1 hlong (c.toNat, ns) (by simp [htable])
      have hlength := congrArg List.length h
      simp only [List.length_map, List.length_singleton] at hlength
      simp [hlength] at this
    · right
      rcases shiftCase_upperRuns (by omega) hx (List.cons.inj h).1 with hc | hc
      · exact .inl (Char.toNat_inj.1 hc)
      · exact .inr (Char.toNat_inj.1 hc)

/-- No character becomes several at once on the way to the word. -/
def Unexpanded (word : List Char) : Prop :=
  ∀ tail ∈ word.tails, ∀ e ∈ upperExpansions, ¬ e.2.map Char.ofNat <+: tail

/-- A text with such a word as upper case has it letter by letter. -/
theorem map_upperChar_of_flatMap (hword : Unexpanded word) (h : cs.flatMap upperChar = word) :
    cs.map upperChar = word.map fun x => [x] := by
  induction cs generalizing word with
  | nil =>
    subst h
    rfl
  | cons c cs ih =>
    rw [List.flatMap_cons] at h
    rcases upperChar_cases c with ⟨e, he, hc⟩ | ⟨x, hc⟩
    · exact absurd ⟨_, hc ▸ h⟩ (hword word ((List.mem_tails ..).2 List.suffix_rfl) e he)
    · subst h
      rw [hc, List.singleton_append] at hword ⊢
      rw [List.map_cons, List.map_cons, hc]
      congr 1
      refine ih (fun tail htail => hword tail ?_) rfl
      rw [List.tails_cons]
      exact List.mem_cons_of_mem _ htail

end Text

/-- A text without the first character of a mark has no mark. -/
theorem Cleaning.opensIn_of_not_mem {y : Char} (h : x ∉ cs) : opensIn x y cs rest = false := by
  induction cs with
  | nil => rfl
  | cons c cs ih =>
    rw [List.mem_cons, not_or] at h
    have := ih h.2
    cases cs with
    | nil => simp [opensIn, hasPair, Ne.symm h.1]
    | cons d cs =>
      simp only [opensIn, hasPair, List.getLast?_cons_cons, Bool.or_eq_false_iff] at this ⊢
      exact ⟨⟨by simp [Ne.symm h.1], this.1⟩, this.2⟩

namespace ModelSource

/-! ## References -/

theorem after?_eq_some_iff : after? first cs = some rest ↔ cs = first ++ rest := by
  unfold after?
  split_ifs with h
  · obtain ⟨ds, rfl⟩ := List.isPrefixOf_iff_prefix.1 h
    simp
  · simp only [false_iff]
    rintro rfl
    exact h (by simp)

theorem drop_length_takeWhile (p : Char → Bool) (cs : List Char) :
    cs.drop (cs.takeWhile p).length = cs.dropWhile p := by
  calc cs.drop (cs.takeWhile p).length
      = (cs.takeWhile p ++ cs.dropWhile p).drop (cs.takeWhile p).length := by
        rw [List.takeWhile_append_dropWhile]
    _ = cs.dropWhile p := List.drop_left

/-- A name in quotes, and what follows. -/
theorem quotedName?_eq_some_iff {name : List Char} :
    quotedName? cs = some (name, rest) ↔
      ∃ q q', cs = q :: (name ++ q' :: rest) ∧ isQuote q = true ∧ isQuote q' = true ∧ name ≠ [] ∧
        ∀ c ∈ name, isQuote c = false := by
  constructor
  · intro h
    cases cs with
    | nil => cases h
    | cons q cs =>
      simp only [quotedName?, drop_length_takeWhile] at h
      split at h
      · next q' rest' hguard hrest =>
        obtain ⟨rfl, rfl⟩ := Prod.mk.inj (Option.some.inj h)
        rw [Bool.and_eq_true, Bool.not_eq_true', List.isEmpty_eq_false_iff] at hguard
        have hclosing : isQuote q' = true := by
          have := List.head?_dropWhile_not (fun c => !isQuote c) cs
          rw [hrest] at this
          simpa using this
        refine ⟨q, q', ?_, hguard.1, hclosing, hguard.2, ?_⟩
        · rw [← hrest, List.takeWhile_append_dropWhile]
        · intro c hc
          simpa using List.mem_takeWhile_imp hc
      · cases h
  · rintro ⟨q, q', rfl, hq, hq', hne, hname⟩
    have htake : (name ++ q' :: rest).takeWhile (fun c => !isQuote c) = name := by
      rw [List.takeWhile_append_of_pos (by simpa using hname)]
      simp [hq']
    have hguard : (isQuote q && !name.isEmpty) = true := by simp [hq, hne]
    simp [quotedName?, htake, hguard]

/-- The text `ref('name')` with blanks around it and inside the parentheses. The quotes may differ,
and none stands in the name. -/
def IsReference (s name : String) : Prop :=
  ∃ before inner outer after : List Char, ∃ q q' : Char,
    s.toList = before ++ ("ref(".toList ++ (inner ++
      (q :: (name.toList ++ q' :: (outer ++ (')' :: after)))))) ∧
    (∀ b ∈ before ++ inner ++ outer ++ after, isBlank b = true) ∧
    isQuote q = true ∧ isQuote q' = true ∧ name.toList ≠ [] ∧ ∀ c ∈ name.toList, isQuote c = false

/-- What is left after the blanks at the beginning of a text. -/
theorem dropWhile_isBlank_eq_iff (hrest : ∀ c ∈ rest.head?, isBlank c = false) :
    cs.dropWhile isBlank = rest ↔
      ∃ blanks, cs = blanks ++ rest ∧ ∀ b ∈ blanks, isBlank b = true := by
  constructor
  · rintro rfl
    exact ⟨cs.takeWhile isBlank, List.takeWhile_append_dropWhile.symm,
      fun b hb => List.mem_takeWhile_imp hb⟩
  · rintro ⟨blanks, rfl, hblanks⟩
    rw [List.dropWhile_append_of_pos hblanks]
    cases rest with
    | nil => rfl
    | cons c rest => rw [List.dropWhile_cons_of_neg (by simp [hrest c rfl])]

theorem isBlank_of_isQuote (h : isQuote c = true) : isBlank c = false := by
  simp only [isQuote, Bool.or_eq_true, beq_iff_eq] at h
  rcases h with rfl | rfl <;> decide

theorem referenced?_eq_some_iff {name : String} :
    referenced? s = some name ↔ IsReference s name := by
  simp only [referenced?, Option.bind_eq_bind, Option.bind_eq_some_iff, after?_eq_some_iff,
    Prod.exists, quotedName?_eq_some_iff]
  constructor
  · rintro ⟨text, htext, letters, tail, ⟨q, q', hquoted, hq, hq', hne, hletters⟩, after, htail,
      hname⟩
    obtain ⟨before, hs, hbefore⟩ := (dropWhile_isBlank_eq_iff (by simp; decide)).1 htext
    obtain ⟨inner, rfl, hinner⟩ :=
      (dropWhile_isBlank_eq_iff (by simpa using isBlank_of_isQuote hq)).1 hquoted
    obtain ⟨outer, rfl, houter⟩ := (dropWhile_isBlank_eq_iff (by simp; decide)).1 htail
    split_ifs at hname with hafter
    obtain rfl := Option.some.inj hname
    refine ⟨before, inner, outer, after, q, q', by simpa using hs, ?_, hq, hq', by simpa using hne,
      by simpa using hletters⟩
    simp only [List.mem_append]
    rintro b (((hb | hb) | hb) | hb)
    · exact hbefore b hb
    · exact hinner b hb
    · exact houter b hb
    · exact List.all_eq_true.1 hafter b hb
  · rintro ⟨before, inner, outer, after, q, q', hs, hblanks, hq, hq', hne, hname⟩
    simp only [List.mem_append] at hblanks
    refine ⟨_, (dropWhile_isBlank_eq_iff (by simp; decide)).2
        ⟨before, hs, fun b hb => hblanks b ?_⟩,
      name.toList, _, ⟨q, q', (dropWhile_isBlank_eq_iff (by simpa using isBlank_of_isQuote hq)).2
        ⟨inner, rfl, fun b hb => hblanks b ?_⟩, hq, hq', hne, hname⟩,
      after, (dropWhile_isBlank_eq_iff (by simp; decide)).2
        ⟨outer, rfl, fun b hb => hblanks b ?_⟩, ?_⟩
    · exact .inl (.inl (.inl hb))
    · exact .inl (.inl (.inr hb))
    · exact .inl (.inr hb)
    · rw [if_pos (List.all_eq_true.2 fun b hb => hblanks b (.inr hb)), String.ofList_toList]

/-! ## Statements -/

theorem toNat_lt_of_toLower (h : c.toLower.toNat < 128) : c.toNat < 128 := by
  by_cases hcapital : 65 ≤ c.toNat ∧ c.toNat ≤ 90
  · omega
  · rwa [Text.toLower_eq_self hcapital] at h

theorem toNat_lt_of_toUpper (h : c.toUpper.toNat < 128) : c.toNat < 128 := by
  by_cases hsmall : 97 ≤ c.toNat ∧ c.toNat ≤ 122
  · omega
  · rwa [Text.toUpper_eq_self hsmall] at h

/-- The letters of SELECT are told apart by their upper case. -/
theorem sameLetter_iff (hx : x ∈ "SELECT".toList) :
    sameLetter c x.toLower = true ↔ Text.upperChar c = [x] := by
  have hletters : ∀ x ∈ "SELECT".toList,
      x.isUpper = true ∧ x.toNat < 128 ∧ x.toLower.toNat < 128 :=
    List.all_iff_forall_prop.1 (by decide)
  obtain ⟨hcapital, hupper, hlower⟩ := hletters x hx
  have hascii (hc : c.toNat < 128) : sameLetter c x.toLower = true ↔ Text.upperChar c = [x] := by
    have hall : ∀ x ∈ "SELECT".toList, ∀ n < 128,
        sameLetter (Char.ofNat n) x.toLower = true ↔ Text.upperChar (Char.ofNat n) = [x] :=
      List.all_iff_forall_prop.1 (by decide)
    simpa using hall x hx c.toNat hc
  -- Beyond ASCII there is the long s.
  have hlong : ∀ x ∈ "SELECT".toList,
      (x.toLower = 's' → Text.upperChar 'ſ' = [x]) ∧
        (Text.upperChar 'ſ' = [x] → sameLetter 'ſ' x.toLower = true) ∧
        Text.upperChar 'ı' ≠ [x] := List.all_iff_forall_prop.1 (by decide)
  constructor
  · intro h
    rcases Bool.or_eq_true_iff.1 h with hsame | hs
    · have hc : c.toLower = x.toLower := beq_iff_eq.1 hsame
      exact (hascii (toNat_lt_of_toLower (hc ▸ hlower))).1 h
    · rw [Bool.and_eq_true, beq_iff_eq, beq_iff_eq] at hs
      rw [hs.2]
      exact (hlong x hx).1 hs.1
  · intro h
    rcases Text.eq_of_upperChar hcapital h with hc | rfl | rfl
    · exact (hascii (toNat_lt_of_toUpper (hc ▸ hupper))).2 h
    · exact (hlong x hx).2.1 h
    · exact absurd h (hlong x hx).2.2

/-- The text begins with the word SELECT in any letter case. -/
def BeginsWithSelect (cs : List Char) : Prop :=
  ∃ word rest, cs = word ++ rest ∧ word.flatMap Text.upperChar = "SELECT".toList ∧
    ∀ c ∈ rest.head?, Text.isWordChar c = false

/-- A statement: without comments it begins with the word SELECT. -/
def IsSelect (s : String) : Prop := BeginsWithSelect (trim (dropComments s).toList)

theorem unexpanded_select : Text.Unexpanded "SELECT".toList := by
  have hall : ("SELECT".toList.tails.all fun tail =>
      Text.upperExpansions.all fun e => !(e.2.map Char.ofNat).isPrefixOf tail) = true := by
    decide
  intro tail htail e he hprefix
  have := List.all_eq_true.1 (List.all_eq_true.1 hall tail htail) e he
  rw [List.isPrefixOf_iff_prefix.2 hprefix] at this
  cases this

/-- Words are compared letter by letter. -/
theorem map_upperChar_eq_iff {letters : List Char} (hletters : ∀ x ∈ letters, x ∈ "SELECT".toList) :
    word.map Text.upperChar = letters.map (fun x => [x]) ↔
      word.length = letters.length ∧
        (word.zip (letters.map Char.toLower)).all (fun p => sameLetter p.1 p.2) = true := by
  induction word generalizing letters with
  | nil => cases letters <;> simp
  | cons c word ih =>
    cases letters with
    | nil => simp
    | cons x letters =>
      have hx := sameLetter_iff (c := c) (hletters x List.mem_cons_self)
      have hrest := ih fun y hy => hletters y (List.mem_cons_of_mem x hy)
      simp only [List.map_cons, List.cons.injEq, List.length_cons, List.zip_cons_cons,
        List.all_cons, Bool.and_eq_true, hx, hrest, Nat.add_right_cancel_iff]
      exact and_left_comm

theorem upper_eq_select_iff :
    word.flatMap Text.upperChar = "SELECT".toList ↔
      word.length = 6 ∧ (word.zip "select".toList).all (fun p => sameLetter p.1 p.2) = true := by
  have hmap : word.flatMap Text.upperChar = "SELECT".toList ↔
      word.map Text.upperChar = "SELECT".toList.map fun x => [x] := by
    refine ⟨Text.map_upperChar_of_flatMap unexpanded_select, fun h => ?_⟩
    rw [List.flatMap_def, h]
    decide
  rw [hmap, map_upperChar_eq_iff fun x hx => hx]
  rfl

theorem beginsWithSelect_iff : beginsWithSelect cs = true ↔ BeginsWithSelect cs := by
  have hhead (rest : List Char) : (!rest.head?.any Text.isWordChar) = true ↔
      ∀ c ∈ rest.head?, Text.isWordChar c = false := by
    cases rest <;> simp
  constructor
  · intro h
    simp only [beginsWithSelect, Bool.and_eq_true, beq_iff_eq] at h
    exact ⟨cs.take 6, cs.drop 6, (List.take_append_drop 6 cs).symm,
      upper_eq_select_iff.2 ⟨h.1.1, h.1.2⟩, (hhead _).1 h.2⟩
  · rintro ⟨word, rest, rfl, hword, hrest⟩
    obtain ⟨hlength, hletters⟩ := upper_eq_select_iff.1 hword
    have hsix : "select".toList.length = word.length := hlength.symm
    simp only [beginsWithSelect, hsix, List.take_left, List.drop_left, hletters,
      (hhead rest).2 hrest, beq_self_eq_true, Bool.and_self]

/-! ## Tables -/

/-- Letters and digits of ASCII and underscores, without a digit at the beginning. -/
def IsName (cs : List Char) : Prop :=
  cs ≠ [] ∧ (∀ c ∈ cs, c.isAlphanum = true ∨ c = '_') ∧ ∀ c ∈ cs.head?, c.isDigit = false

/-- One name, or two with a dot between them. -/
def IsDottedName (cs : List Char) : Prop :=
  IsName cs ∨ ∃ first second, cs = first ++ '.' :: second ∧ IsName first ∧ IsName second

/-- The name of a table, with blanks around it. -/
def IsTable (s : String) : Prop := IsDottedName (trim s.toList)

theorem isName_iff :
    (!cs.isEmpty && cs.all (fun c => c.isAlphanum || c == '_') &&
      !cs.head?.any Char.isDigit) = true ↔ IsName cs := by
  cases cs <;> simp [IsName, and_assoc]

/-- A name has no dot, so a text is cut at the first one. -/
theorem IsName.ne_dot (h : IsName cs) : ∀ c ∈ cs, (c != '.') = true := by
  intro c hc
  rcases h.2.1 c hc with hletter | rfl
  · rw [bne_iff_ne]
    rintro rfl
    exact absurd hletter (by decide)
  · rfl

theorem isTableName_iff : isTableName cs = true ↔ IsDottedName cs := by
  unfold isTableName
  dsimp only
  rw [drop_length_takeWhile]
  constructor
  · intro h
    have hcs := List.takeWhile_append_dropWhile (p := (· != '.')) (l := cs)
    split at h
    · next hrest =>
      rw [hrest, List.append_nil] at hcs
      rw [isName_iff, hcs] at h
      exact .inl h
    · next d second hrest =>
      rw [Bool.and_eq_true, isName_iff, isName_iff] at h
      have hdot : d = '.' := by
        have := List.head?_dropWhile_not (· != '.') cs
        rw [hrest] at this
        simpa using this
      rw [hrest, hdot] at hcs
      exact .inr ⟨_, second, hcs.symm, h.1, h.2⟩
  · rintro (hname | ⟨first, second, rfl, hfirst, hsecond⟩)
    · rw [List.takeWhile_eq_self_iff.2 hname.ne_dot, List.dropWhile_eq_nil_iff.2 hname.ne_dot]
      exact isName_iff.2 hname
    · rw [List.takeWhile_append_of_pos hfirst.ne_dot, List.dropWhile_append_of_pos hfirst.ne_dot]
      simp only [List.takeWhile_cons, List.dropWhile_cons, bne_self_eq_false, Bool.false_eq_true,
        if_false, List.append_nil]
      rw [Bool.and_eq_true, isName_iff, isName_iff]
      exact ⟨hfirst, hsecond⟩

theorem IsDottedName.char (h : IsDottedName cs) (hc : c ∈ cs) :
    c.isAlphanum = true ∨ c = '_' ∨ c = '.' := by
  rcases h with hname | ⟨first, second, rfl, hfirst, hsecond⟩
  · exact (hname.2.1 c hc).imp_right .inl
  · rcases List.mem_append.1 hc with hc | hc
    · exact (hfirst.2.1 c hc).imp_right .inl
    · rcases List.mem_cons.1 hc with rfl | hc
      · exact .inr (.inr rfl)
      · exact (hsecond.2.1 c hc).imp_right .inl

theorem IsDottedName.ne_nil (h : IsDottedName cs) : cs ≠ [] := by
  rcases h with hname | ⟨first, second, rfl, -, -⟩
  · exact hname.1
  · simp

/-! ## References are no other form -/

theorem ref_isBlank : ∀ c ∈ "ref(".toList, isBlank c = false :=
  List.all_iff_forall_prop.1 (by decide)

theorem IsReference.trim {name : String} (h : IsReference s name) :
    ∃ rest, trim s.toList = "ref(".toList ++ rest := by
  obtain ⟨before, inner, outer, after, q, q', hs, hblanks, -⟩ := h
  rw [hs, Text.trim_blanks_append fun b hb => hblanks b (by simp [hb]),
    Text.trim_word_append ref_isBlank (by decide)]
  exact ⟨_, rfl⟩

/-- Comments are dropped only after the beginning of a reference. -/
theorem IsReference.trim_dropComments {name : String} (h : IsReference s name) :
    ∃ rest, Text.trim (dropComments s).toList = "ref(".toList ++ rest := by
  obtain ⟨before, inner, outer, after, q, q', hs, hblanks, -⟩ := h
  have hbefore : ∀ b ∈ before, isBlank b = true := fun b hb => hblanks b (by simp [hb])
  have hmark (x : Char) (hx : isBlank x = false ∧ x ∉ "ref(".toList) :
      x ∉ before ++ "ref(".toList := by
    rw [List.mem_append, not_or]
    exact ⟨fun hmem => by simp [hbefore x hmem] at hx, hx.2⟩
  have hplain : (dropComments s).toList = Cleaning.plainText s.toList := String.toList_ofList
  rw [hplain, hs, ← List.append_assoc,
    Cleaning.plainText_append (Cleaning.opensIn_of_not_mem (hmark '-' (by decide)))
      (Cleaning.opensIn_of_not_mem (hmark '/' (by decide))),
    List.append_assoc, Text.trim_blanks_append hbefore,
    Text.trim_word_append ref_isBlank (by decide)]
  exact ⟨_, rfl⟩

theorem IsReference.not_select {name : String} (h : IsReference s name) : ¬ IsSelect s := by
  rintro ⟨word, rest, hbody, hword, -⟩
  obtain ⟨tail, htail⟩ := h.trim_dropComments
  rw [htail] at hbody
  cases word with
  | nil => cases hword
  | cons c word =>
    obtain rfl : 'r' = c := (List.cons.inj hbody).1
    have hfirst : Text.upperChar 'r' = ['R'] := by decide
    rw [List.flatMap_cons, hfirst] at hword
    exact absurd (List.cons.inj hword).1 (by decide)

theorem IsReference.not_table {name : String} (h : IsReference s name) : ¬ IsTable s := by
  intro htable
  obtain ⟨tail, htail⟩ := h.trim
  have hparen : '(' ∈ Text.trim s.toList := by
    rw [htail]
    simp
  rcases IsDottedName.char htable hparen with h' | h' | h' <;> exact absurd h' (by decide)

/-! ## The answers -/

/-- A character that is its own upper case is in the word only if it is one of the letters. -/
theorem mem_select_of_mem (hword : word.flatMap Text.upperChar = "SELECT".toList) (hc : c ∈ word)
    (hself : Text.upperChar c = [c]) : c ∈ "SELECT".toList := by
  rw [← hword]
  exact List.mem_flatMap.2 ⟨c, hc, by simp [hself]⟩

theorem isBlank_of_mem_select (hword : word.flatMap Text.upperChar = "SELECT".toList)
    (hc : c ∈ word) : isBlank c = false := by
  cases hblank : isBlank c with
  | false => rfl
  | true =>
    have hmem := mem_select_of_mem hword hc (Text.upperChar_of_isBlank hblank)
    have hnone : ∀ c ∈ "SELECT".toList, isBlank c = false :=
      List.all_iff_forall_prop.1 (by decide)
    rw [← hblank, hnone c hmem]

/-- The word at the beginning of a statement stays when the statement is cleaned. -/
theorem IsSelect.upper_cleanSelect (h : IsSelect s) :
    "SELECT".toList <+: (Text.upper (cleanSelect s)).toList := by
  obtain ⟨word, rest, hbody, hword, -⟩ := h
  have hblank : ∀ c ∈ word, isBlank c = false := fun c hc => isBlank_of_mem_select hword hc
  have hne : word ≠ [] := by
    rintro rfl
    cases hword
  have hclean : ∃ rest', (cleanSelect s).toList = word ++ rest' := by
    simp only [cleanSelect, String.toList_ofList, hbody]
    split_ifs with hfinal
    · -- The semicolon stands after the word.
      have hrest : rest ≠ [] := by
        rintro rfl
        rw [List.append_nil, beq_iff_eq] at hfinal
        have hmem := mem_select_of_mem hword (List.mem_of_mem_getLast? hfinal) (by decide)
        exact absurd hmem (by decide)
      rw [List.dropLast_append_of_ne_nil hrest, Text.trim_word_append hblank hne]
      exact ⟨_, rfl⟩
    · rw [Text.trim_word_append hblank hne]
      exact ⟨_, rfl⟩
  obtain ⟨rest', hrest'⟩ := hclean
  rw [Text.toList_upper, hrest', List.flatMap_append, hword]
  exact List.prefix_append ..

/-- All rows of a table are a statement without faults. -/
theorem IsTable.selectViolations (h : IsTable s) {m : SemanticModel}
    (hm : m.select = "SELECT * FROM " ++ Text.strip s) : m.selectViolations = [] := by
  have htext : m.select.toList = "SELECT * FROM ".toList ++ trim s.toList := by
    have hstrip : (Text.strip s).toList = trim s.toList := String.toList_ofList
    rw [hm, String.toList_append, hstrip]
  have hlast : m.select.toList.getLast? = (trim s.toList).getLast? := by
    rw [htext, List.getLast?_append_of_ne_nil _ (IsDottedName.ne_nil h)]
  have htrim : trim m.select.toList = m.select.toList := by
    apply Text.trim_eq_self
    · rw [htext]
      rintro c ⟨⟩
      decide
    · rw [hlast]
      exact Text.getLast?_trim
  rw [SemanticModel.selectViolations_eq_nil_iff]
  constructor
  · rw [Text.strip, htrim, String.ofList_toList, Text.toList_upper, htext, List.flatMap_append]
    have hbegins : "SELECT".toList <+: "SELECT * FROM ".toList.flatMap Text.upperChar := by decide
    exact hbegins.trans (List.prefix_append ..)
  · rw [htrim, hlast]
    intro hfinal
    rcases IsDottedName.char h (List.mem_of_mem_getLast? hfinal) with h' | h' | h' <;>
      exact absurd h' (by decide)

/-! ## The form of a text -/

theorem ofText?_of_reference {name : String} (h : IsReference s name) :
    ofText? s = some (.reference name) := by
  unfold ofText?
  rw [referenced?_eq_some_iff.2 h]

theorem referenced?_eq_none (h : ∀ name, ¬ IsReference s name) : referenced? s = none :=
  Option.eq_none_iff_forall_ne_some.2 fun name hname => h name (referenced?_eq_some_iff.1 hname)

/-- A text that is no reference is a statement, or else perhaps the name of a table. -/
theorem ofText?_of_not_referenced (h : referenced? s = none) :
    ofText? s =
      if beginsWithSelect (trim (dropComments s).toList) then some (.select s)
      else if isTableName (trim s.toList) then some (.table (Text.strip s)) else none := by
  unfold ofText?
  rw [h]

theorem ofText?_of_select (h : IsSelect s) : ofText? s = some (.select s) := by
  have hnone : referenced? s = none := referenced?_eq_none fun name hname => hname.not_select h
  rw [ofText?_of_not_referenced hnone, if_pos (beginsWithSelect_iff.2 h)]

theorem ofText?_of_table (h : IsTable s) (hselect : ¬ IsSelect s) :
    ofText? s = some (.table (Text.strip s)) := by
  have hnone : referenced? s = none := referenced?_eq_none fun name hname => hname.not_table h
  rw [ofText?_of_not_referenced hnone, if_neg (mt beginsWithSelect_iff.1 hselect),
    if_pos (isTableName_iff.2 h)]

theorem ofText?_eq_none (hreference : ∀ name, ¬ IsReference s name) (hselect : ¬ IsSelect s)
    (htable : ¬ IsTable s) : ofText? s = none := by
  rw [ofText?_of_not_referenced (referenced?_eq_none hreference),
    if_neg (mt beginsWithSelect_iff.1 hselect), if_neg (mt isTableName_iff.1 htable)]

end ModelSource

/-! ## Resolving a model -/

namespace Schema

open ModelSource

/-- The words for the model of a name in an error. -/
def ofModel (name : Value) : String := "the semantic model '" ++ name.text ++ "'"

/-- The error for a reference to a SQL model that there is not. -/
def missingModel (name : Value) (r : String) : DefinitionError :=
  .invalid name ["There are non-existent model '" ++ r ++ "' in " ++ ofModel name]

/-- The error for a text that has none of the forms. -/
def incorrectModel (name : Value) (s : String) : DefinitionError :=
  .invalid name ["The model value of " ++ ofModel name ++ " is incorrect. model: " ++ s]

variable {name : Value} {models : SqlModels} {r f : String}

/-- A text that has a form stands for the statement of its source. -/
theorem resolve_of_source {source : ModelSource} (h : ofText? s = some source) :
    resolve name s models = (source.statement models).mapError (missingModel name) := by
  unfold resolve
  rw [h]
  rfl

theorem resolve_of_found (h : IsReference s r) (hf : models.lookup r = some f) :
    resolve name s models = .ok (cleanSelect f) := by
  have hstatement : (reference r).statement models = .ok (cleanSelect f) := by rw [statement, hf]
  rw [resolve_of_source (ofText?_of_reference h), hstatement, Except.mapError]

theorem resolve_of_missing (h : IsReference s r) (hnone : models.lookup r = none) :
    resolve name s models = .error (missingModel name r) := by
  have hstatement : (reference r).statement models = .error r := by rw [statement, hnone]
  rw [resolve_of_source (ofText?_of_reference h), hstatement, Except.mapError]

theorem resolve_of_select (h : IsSelect s) : resolve name s models = .ok (cleanSelect s) :=
  resolve_of_source (ofText?_of_select h)

theorem resolve_of_table (h : IsTable s) (hselect : ¬ IsSelect s) :
    resolve name s models = .ok ("SELECT * FROM " ++ Text.strip s) :=
  resolve_of_source (ofText?_of_table h hselect)

theorem resolve_of_none (hreference : ∀ r, ¬ IsReference s r) (hselect : ¬ IsSelect s)
    (htable : ¬ IsTable s) : resolve name s models = .error (incorrectModel name s) := by
  unfold resolve
  rw [ofText?_eq_none hreference hselect htable]
  rfl

/-- A text that is resolved has one of the forms. -/
theorem form_of_resolve {t : String} (h : resolve name s models = .ok t) :
    (∃ r f, IsReference s r ∧ models.lookup r = some f) ∨ IsSelect s ∨ IsTable s := by
  by_cases hreference : ∃ r, IsReference s r
  · obtain ⟨r, hr⟩ := hreference
    cases hf : models.lookup r with
    | some f => exact .inl ⟨r, f, hr, hf⟩
    | none =>
      rw [resolve_of_missing hr hf] at h
      cases h
  · by_contra hother
    rw [not_or, not_or] at hother
    rw [resolve_of_none (not_exists.1 hreference) hother.2.1 hother.2.2] at h
    cases h

theorem resolve_of_form
    (h : (∃ r f, IsReference s r ∧ models.lookup r = some f) ∨ IsSelect s ∨ IsTable s) :
    ∃ t, resolve name s models = .ok t := by
  by_cases hselect : IsSelect s
  · exact ⟨_, resolve_of_select hselect⟩
  · rcases h with ⟨r, f, hr, hf⟩ | hselect' | htable
    · exact ⟨_, resolve_of_found hr hf⟩
    · exact absurd hselect' hselect
    · exact ⟨_, resolve_of_table htable hselect⟩

/-- There are two errors, and both carry the name of the model. -/
theorem error_of_resolve {e : DefinitionError} (h : resolve name s models = .error e) :
    (∃ r, IsReference s r ∧ e = missingModel name r) ∨ e = incorrectModel name s := by
  by_cases hreference : ∃ r, IsReference s r
  · obtain ⟨r, hr⟩ := hreference
    cases hf : models.lookup r with
    | some f =>
      rw [resolve_of_found hr hf] at h
      cases h
    | none =>
      rw [resolve_of_missing hr hf] at h
      exact .inl ⟨r, hr, (Except.error.inj h).symm⟩
  · by_cases hother : IsSelect s ∨ IsTable s
    · obtain ⟨t, ht⟩ : ∃ t, resolve name s models = .ok t := resolve_of_form (.inr hother)
      rw [ht] at h
      cases h
    · rw [not_or] at hother
      rw [resolve_of_none (not_exists.1 hreference) hother.1 hother.2] at h
      exact .inr (Except.error.inj h).symm

/-- The forms of a model and what they stand for. The forms are tried in order, so a statement that
is also a name, such as the word SELECT alone, is a statement. -/
theorem resolve_forms (name : Value) (s : String) (models : SqlModels) :
    ((∃ t, resolve name s models = .ok t) ↔
      (∃ r f, IsReference s r ∧ models.lookup r = some f) ∨ IsSelect s ∨ IsTable s) ∧
    (∀ r, IsReference s r → ¬ IsSelect s ∧ ¬ IsTable s) ∧
    (∀ r f, IsReference s r → models.lookup r = some f →
      resolve name s models = .ok (cleanSelect f)) ∧
    (IsSelect s → resolve name s models = .ok (cleanSelect s) ∧
      "SELECT".toList <+: (Text.upper (cleanSelect s)).toList) ∧
    (IsTable s → ¬ IsSelect s → resolve name s models = .ok ("SELECT * FROM " ++ Text.strip s)) ∧
    (IsTable s → ∀ m : SemanticModel, m.select = "SELECT * FROM " ++ Text.strip s →
      m.selectViolations = []) ∧
    (∀ e, resolve name s models = .error e →
      (∃ r, IsReference s r ∧ e = missingModel name r) ∨ e = incorrectModel name s) := by
  refine ⟨⟨?_, resolve_of_form⟩, ?_, fun r f => resolve_of_found, ?_, resolve_of_table, ?_,
    fun e => error_of_resolve⟩
  · rintro ⟨t, ht⟩
    exact form_of_resolve ht
  · exact fun r hr => ⟨hr.not_select, hr.not_table⟩
  · exact fun h => ⟨resolve_of_select h, h.upper_cleanSelect⟩
  · exact fun h m hm => h.selectViolations hm

end Schema

end SemanticLayer
